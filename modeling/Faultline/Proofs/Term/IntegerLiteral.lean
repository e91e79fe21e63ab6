import Faultline.Proofs.Number.Loose
import Faultline.Proofs.Term.RoundTrip
import Faultline.Proofs.Term.Spacing

/-!
# Integers with a base

An integer literal is a decimal numeral, or a base in decimal, a `#` and a numeral in that base.
Underscores may stand anywhere behind its first digit, because the lexer takes them out before it
reads the digits. What it reads after the `#` is a loose spelling, and a numeral is one.

Results:
* `basedValue?_eq_some_iff`: the texts that are read as an integer in a base.
* `number_divided`: an integer literal with underscores put in is read as its number.
* `integerLiteral_value`: such a literal is one token, and a sign in front of it is its sign.
-/

namespace Faultline.Term.Lexer

open Numeral (IsDigit Spells SpellsLoosely decimalLimit)

/-! ## Underscores -/

/-- The second text is the first one with underscores put in. -/
inductive Underscored : Text → Text → Prop where
  | nil : Underscored [] []
  | underscore {t u : Text} (h : Underscored t u) : Underscored t (CodePoint.ofChar '_' :: u)
  | keep (c : CodePoint) {t u : Text} (h : Underscored t u) : Underscored (c :: t) (c :: u)

/-- The second text is the first one with underscores put in behind its first code point. -/
inductive Divided : Text → Text → Prop where
  | mk (c : CodePoint) {t u : Text} (h : Underscored t u) : Divided (c :: t) (c :: u)

theorem Underscored.exists_append {t t' u : Text} {c : CodePoint}
    (h : Underscored (t ++ c :: t') u) :
    ∃ v w, u = v ++ c :: w ∧ Underscored t v ∧ Underscored t' w := by
  generalize hwhole : t ++ c :: t' = whole at h
  induction h generalizing t with
  | nil => simp at hwhole
  | underscore _ ih =>
    obtain ⟨v, w, rfl, hv, hw⟩ := ih hwhole
    exact ⟨_, w, rfl, hv.underscore, hw⟩
  | keep d h ih =>
    cases t with
    | nil =>
      obtain ⟨rfl, rfl⟩ := List.cons.inj hwhole
      exact ⟨[], _, rfl, .nil, h⟩
    | cons e t =>
      obtain ⟨rfl, hrest⟩ := List.cons.inj hwhole
      obtain ⟨v, w, rfl, hv, hw⟩ := ih hrest
      exact ⟨_, w, rfl, hv.keep e, hw⟩

/-- Taking the underscores out of a text that had none gives the text again. -/
theorem Underscored.withoutUnderscores {t u : Text} (h : Underscored t u)
    (ht : ∀ c ∈ t, c ≠ '_') : withoutUnderscores u = t := by
  induction h with
  | nil => rfl
  | underscore _ ih => exact (List.filter_cons_of_neg (by simp)).trans (ih ht)
  | keep c _ ih =>
    obtain ⟨hc, ht⟩ := List.forall_mem_cons.mp ht
    exact (List.filter_cons_of_pos (by simpa using hc)).trans (congrArg (c :: ·) (ih ht))

theorem Underscored.forall_mem {p : CodePoint → Bool} {t u : Text} (h : Underscored t u)
    (ht : ∀ c ∈ t, p c = true) (hunderscore : p '_' = true) : ∀ c ∈ u, p c = true := by
  induction h with
  | nil => exact nofun
  | underscore _ ih => exact List.forall_mem_cons.mpr ⟨hunderscore, ih ht⟩
  | keep c _ ih =>
    obtain ⟨hc, ht⟩ := List.forall_mem_cons.mp ht
    exact List.forall_mem_cons.mpr ⟨hc, ih ht⟩

/-! ## Digits -/

theorem isAlphanumeric_of_isDigit {c : CodePoint} {d : Nat} (h : IsDigit c d) :
    Text.isAlphanumeric c = true := by
  have hall : ∀ v < 0x7B, (0x30 ≤ v ∧ v ≤ 0x39) ∨ (0x41 ≤ v ∧ v ≤ 0x5A) ∨ 0x61 ≤ v →
      (Text.inRanges Text.letterRanges v || Text.inRanges Text.numericRanges v) = true := by
    decide
  refine hall c.val (by have := h.val_le; omega) ?_
  cases h with
  | decimal | lower | upper => omega

theorem isAsciiDigit_of_isDigit {c : CodePoint} {d : Nat} (h : IsDigit c d) (hd : d < 10) :
    c.isAsciiDigit = true := by
  have hval := h.val_eq hd
  rw [CodePoint.isAsciiDigit, Bool.and_eq_true, decide_eq_true_eq, decide_eq_true_eq]
  omega

/-- No underscore is among digits. -/
theorem forall_ne_underscore {base : Nat} {t : Text} (h : ∀ c ∈ t, ∃ d, IsDigit c d ∧ d < base) :
    ∀ c ∈ t, c ≠ '_' := by
  rintro c hc rfl
  obtain ⟨d, hd, -⟩ := h _ hc
  exact Numeral.not_isLooseDigit_underscore (.inl hd)

/-! ## Values -/

/-- The texts that are read as an integer in a base. -/
theorem basedValue?_eq_some_iff {base : Nat} {t : Text} {n : Int} :
    basedValue? base t = some n ↔
      (isUnlimited base = true ∨ t.length ≤ decimalLimit) ∧ SpellsLoosely base t n := by
  unfold basedValue?
  rw [Option.ite_none_left_eq_some, Numeral.readInteger?_eq_some_iff]
  refine and_congr_left' ?_
  rw [Bool.and_eq_true, Bool.not_eq_true', decide_eq_true_eq, Classical.not_and_iff_not_or_not,
    Bool.not_eq_false, Nat.not_lt]

/-- What is read after the `#` of an integer. -/
def basedBody (rest : Text) : Text :=
  rest.takeWhile fun c => Text.isAlphanumeric c || decide (c = '_')

theorem basedInteger_eq {digits : Text} (hlen : digits.length ≤ decimalLimit) {base : Nat}
    (hvalue : Numeral.decimalValue digits = base) (hbase : 2 ≤ base ∧ base ≤ 36) (width : Nat)
    (rest : Text) :
    basedInteger digits width rest =
      match basedValue? base (withoutUnderscores (basedBody rest)) with
      | some n => .ok (.integer n, width + (basedBody rest).length)
      | none => .error (.malformed (.basedInteger base) 0) := by
  unfold basedInteger
  rw [if_neg (by omega), hvalue]
  exact if_pos hbase

/-! ## Literals -/

/-- The text is an integer literal of the number: a numeral in decimal or behind its base. -/
inductive IntegerLiteral : Text → Nat → Prop where
  | plain {t : Text} {n : Nat} (h : Spells 10 t n) (hlen : t.length ≤ decimalLimit) :
    IntegerLiteral t n
  | based {base n : Nat} (hlow : 2 ≤ base) (hhigh : base ≤ 36) {t : Text} (h : Spells base t n)
    (hlen : t.length ≤ decimalLimit) :
    IntegerLiteral (Numeral.ofNat base ++ CodePoint.ofChar '#' :: t) n

/-- The code points of a decimal numeral with underscores put in are a run, and reading takes the
    underscores out again. -/
theorem Underscored.run {t u : Text} (h : Underscored t u)
    (ht : ∀ c ∈ t, ∃ d, IsDigit c d ∧ d < 10) :
    (∀ c ∈ u, isNumberPart c = true) ∧ Lexer.withoutUnderscores u = t := by
  constructor
  · refine h.forall_mem ?_ (by decide)
    intro c hc
    obtain ⟨d, hd, hten⟩ := ht c hc
    rw [isNumberPart, isAsciiDigit_of_isDigit hd hten, Bool.true_or]
  · exact h.withoutUnderscores (forall_ne_underscore ht)

theorem number_plainLiteral {c : CodePoint} {t u : Text} {n : Nat} (h : Spells 10 (c :: t) n)
    (hlen : (c :: t).length ≤ decimalLimit) (hu : Underscored t u) :
    number c u = .ok (.integer n, u.length) := by
  obtain ⟨-, ht⟩ := List.forall_mem_cons.mp h.exists_isDigit
  obtain ⟨hrun, hdigits⟩ := hu.run ht
  have hends : ¬ ContinuesNumber [] := by
    rintro (⟨_, hcons⟩ | ⟨_, _, hcons, -⟩) <;> cases hcons
  have hnumber : number c (u ++ []) = plainInteger (c :: t) u.length := by
    rw [number_plain hrun rfl hends, hdigits]
  rw [List.append_nil] at hnumber
  rw [hnumber, plainInteger, if_neg (by omega), Numeral.decimalValue_of_spells h]

theorem basedValue?_of_spells {base n : Nat} {t : Text} (h : Spells base t n)
    (hlen : t.length ≤ decimalLimit) : basedValue? base t = some (n : Int) :=
  basedValue?_eq_some_iff.mpr ⟨.inr hlen, h.spellsLoosely⟩

/-- The code points of a numeral with underscores put in are all that is read after the `#`. -/
theorem Underscored.basedBody {base n : Nat} {t u : Text} (h : Underscored t u)
    (ht : Spells base t n) : basedBody u = u ∧ Lexer.withoutUnderscores u = t := by
  constructor
  · refine List.takeWhile_eq_self_iff.mpr (h.forall_mem ?_ (by decide))
    intro c hc
    obtain ⟨d, hd, -⟩ := ht.exists_isDigit c hc
    rw [isAlphanumeric_of_isDigit hd, Bool.true_or]
  · exact h.withoutUnderscores (forall_ne_underscore ht.exists_isDigit)

theorem number_basedLiteral {base n : Nat} (hlow : 2 ≤ base) (hhigh : base ≤ 36) {t : Text}
    (h : Spells base t n) (hlen : t.length ≤ decimalLimit) {c : CodePoint} {bs u : Text}
    (hbase : Numeral.ofNat base = c :: bs) (hu : Underscored (bs ++ CodePoint.ofChar '#' :: t) u) :
    number c u = .ok (.integer n, u.length) := by
  have hvalue := Numeral.decimalValue_ofNat base
  have hshort : (Numeral.ofNat base).length ≤ decimalLimit :=
    Nat.le_trans (Numeral.length_ofNat_le 1 (by omega)) (by decide)
  have hdigits := (Numeral.spells_ofNat base).exists_isDigit
  rw [hbase] at hvalue hshort hdigits
  -- underscores on either side of the `#` go with the digits on that side
  obtain ⟨v, w, rfl, hv, hw⟩ := hu.exists_append
  obtain ⟨hrun, hbs⟩ := hv.run (List.forall_mem_cons.mp hdigits).2
  obtain ⟨hbody, ht⟩ := hw.basedBody h
  rw [number_based hrun, hbs, basedInteger_eq hshort hvalue ⟨hlow, hhigh⟩, hbody, ht,
    basedValue?_of_spells h hlen, List.length_append, List.length_cons]
  simp only [Except.ok.injEq, Prod.mk.injEq, true_and]
  omega

/-- An integer literal with underscores put in is read as its number. -/
theorem number_divided {t u : Text} {n : Nat} (ht : IntegerLiteral t n) (hu : Divided t u) :
    ∃ c rest, u = c :: rest ∧ c.isAsciiDigit = true ∧
      number c rest = .ok (.integer n, rest.length) := by
  obtain @⟨c, t, u, hu⟩ := hu
  refine ⟨c, u, rfl, ?_⟩
  generalize hwhole : c :: t = whole at ht
  cases ht with
  | plain h hlen =>
    subst hwhole
    obtain ⟨d, hd, hten⟩ := h.exists_isDigit c List.mem_cons_self
    exact ⟨isAsciiDigit_of_isDigit hd hten, number_plainLiteral h hlen hu⟩
  | @based base _ hlow hhigh _ h hlen =>
    obtain ⟨b, bs, hbase⟩ := List.exists_cons_of_ne_nil (Numeral.ofNat_ne_nil base)
    rw [hbase] at hwhole
    obtain ⟨rfl, rfl⟩ := List.cons.inj hwhole
    have hfirst : c ∈ Numeral.ofNat base := by
      rw [hbase]
      exact List.mem_cons_self
    exact ⟨Numeral.isAsciiDigit_of_mem_ofNat base hfirst,
      number_basedLiteral hlow hhigh h hlen hbase hu⟩

/-! ## Signs and blanks -/

theorem reads_blanks {w : Text} (hw : ∀ c ∈ w, Text.isBlank c = true) (rest : Text) :
    Reads w [] rest := by
  intro column
  refine ⟨[], rfl, ?_⟩
  rw [lexFrom_blanks hw, ← lexFrom_add, Nat.add_comm]
  rfl

theorem reads_plus (rest : Text) : Reads [CodePoint.ofChar '+'] [.plus] rest :=
  reads_of_scan (t := []) (by decide) (by cases rest <;> rfl)

theorem reads_divided {t u : Text} {n : Nat} (ht : IntegerLiteral t n) (hu : Divided t u) :
    Reads u [.integer n] [] := by
  obtain ⟨c, rest, rfl, hc, hnumber⟩ := number_divided ht hu
  refine reads_of_scan (not_isBlank_of_isAsciiDigit hc) ?_
  rw [List.append_nil, scan_digit hc, hnumber]

/-- A text is read behind a mark, whatever blanks stand before and behind the mark. -/
theorem Reads.behindMark {u before blanks : Text} {ts : List Token} {mark : CodePoint}
    {token : Token} (h : Reads u ts []) (hmark : ∀ rest, Reads [mark] [token] rest)
    (hbefore : ∀ c ∈ before, Text.isBlank c = true)
    (hblanks : ∀ c ∈ blanks, Text.isBlank c = true) :
    Reads (before ++ mark :: (blanks ++ u)) (token :: ts) [] :=
  (reads_blanks hbefore _).append ((hmark _).append ((reads_blanks hblanks _).append h))

end Lexer

open Lexer (IntegerLiteral Divided Reads reads_divided)

/-- An integer literal with underscores put in is one token, and the term that it spells behind a
    sign has that sign, whatever blanks stand before and behind the sign. -/
theorem integerLiteral_value {t u : Text} {n : Nat} (ht : IntegerLiteral t n) (hu : Divided t u) :
    tokenize u = .ok [⟨.integer n, 1⟩, ⟨.eof, u.length + 1⟩] ∧
      ∀ before blanks : Text, (∀ c ∈ before, Text.isBlank c = true) →
        (∀ c ∈ blanks, Text.isBlank c = true) →
        ofText (before ++ CodePoint.ofChar '-' :: (blanks ++ u)) = .ok (.int (-n)) ∧
        ofText (before ++ CodePoint.ofChar '+' :: (blanks ++ u)) = .ok (.int n) := by
  have hreads := reads_divided ht hu
  constructor
  · obtain ⟨c, rest, rfl, hc, hnumber⟩ := Lexer.number_divided ht hu
    have hcolumn : ((1 + 1 + rest.length : Nat) : Int) = (c :: rest).length + 1 := by
      rw [List.length_cons]
      omega
    rw [tokenize, Lexer.lexFrom_of_scan (Lexer.not_isBlank_of_isAsciiDigit hc)
      ((Lexer.scan_digit hc rest).trans hnumber), List.drop_length, Lexer.lexFrom, hcolumn]
    rfl
  · intro before blanks hbefore hblanks
    constructor
    · exact ofText_of_reads (.number (.minusInt (.integer n)))
        (hreads.behindMark (Lexer.reads_mark .minus rfl) hbefore hblanks)
    · exact ofText_of_reads (.number (.plus (.integer n)))
        (hreads.behindMark Lexer.reads_plus hbefore hblanks)

theorem integerLiteral_value_hex :
    IntegerLiteral (text "16#0fF") 255 ∧ Divided (text "16#0fF") (text "1_6#__0f_F_") ∧
      tokenize (text "1_6#__0f_F_") = .ok [⟨.integer 255, 1⟩, ⟨.eof, 12⟩] ∧
      ofText (text " - 1_6#__0f_F_") = .ok (.int (-255)) := by
  have hdigits : Numeral.Spells 16 (text "0fF") 255 := by
    refine ⟨nofun, [0, 15, 15], ?_, rfl⟩
    exact .cons ⟨.decimal (by decide) rfl, by decide⟩
      (.cons ⟨.lower (d := 5) (by decide) rfl, by decide⟩
        (.cons ⟨.upper (d := 5) (by decide) rfl, by decide⟩ .nil))
  have hbase : Numeral.ofNat 16 = text "16" := by decide +kernel
  have hliteral := IntegerLiteral.based (by decide) (by decide) hdigits (by decide)
  rw [hbase] at hliteral
  have hdivided : Divided (text "16#0fF") (text "1_6#__0f_F_") :=
    .mk _ (.underscore (.keep _ (.keep _ (.underscore (.underscore (.keep _ (.keep _
      (.underscore (.keep _ (.underscore .nil))))))))))
  obtain ⟨htokens, hterm⟩ := integerLiteral_value hliteral hdivided
  exact ⟨hliteral, hdivided, htokens, (hterm (text " ") (text " ") (by decide) (by decide)).1⟩

end Faultline.Term
