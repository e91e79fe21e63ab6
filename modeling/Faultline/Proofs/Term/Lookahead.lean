import Faultline.Proofs.Term.Position
import Mathlib.Data.List.TakeWhile

/-!
# What stands behind a token

A scan takes what belongs to its token and looks at most two code points further. No blank belongs
to a number or a name or goes on with one, and quotes, escapes and marks end on their own, so a scan
reads the same token when blanks are put in behind it. Only a character literal at the end of a text
may be cut short by the end, as `$\^` is: a blank behind it becomes part of it.

The texts before and behind a scan are written `front ++ back`, where the scan spans the front, and
`Spaced back back'` says that the second text is the first one with blanks put in.

Results:
* `Spaced.takeWhile_eq_nil`: what ends a run ends it with blanks put in as well.
* `escape_append`, `quotedFrom_append`: what stands behind an escape or a closing quote.
* `basedInteger_spaced`, `floatLiteral_spaced`, `number_spaced`: what stands behind a number.
* `scan_spaced`: a scan reads the same token when blanks are put in behind it.
-/

namespace Faultline.Term.Lexer

/-! ## Blanks belong to no token -/

theorem not_isBlank_of_isNumeric {c : CodePoint} (h : Text.isNumeric c = true) :
    Text.isBlank c = false :=
  Text.inRanges_eq_false_of_apart (by decide +kernel) h

theorem not_isBlank_of_isAlphanumeric {c : CodePoint} (h : Text.isAlphanumeric c = true) :
    Text.isBlank c = false := by
  rw [Text.isAlphanumeric, Bool.or_eq_true] at h
  exact h.elim not_isBlank_of_isLetter not_isBlank_of_isNumeric

/-- No blank has a property. -/
def RejectsBlanks (p : CodePoint → Bool) : Prop := ∀ c, Text.isBlank c = true → p c = false

theorem rejectsBlanks_of_forall {p : CodePoint → Bool}
    (h : ∀ c, p c = true → Text.isBlank c = false) : RejectsBlanks p := by
  intro c hblank
  rw [← Bool.not_eq_true]
  intro hc
  rw [h c hc] at hblank
  cases hblank

theorem rejectsBlanks_isOctalDigit : RejectsBlanks isOctalDigit := by
  refine rejectsBlanks_of_forall fun c hc => ?_
  have hval : 0x30 ≤ c.val ∧ c.val ≤ 0x37 := by simpa [isOctalDigit] using hc
  exact Text.not_isBlank_of_ascii (by omega) (by omega)

theorem rejectsBlanks_isAsciiDigit : RejectsBlanks CodePoint.isAsciiDigit :=
  rejectsBlanks_of_forall fun _ => not_isBlank_of_isAsciiDigit

theorem rejectsBlanks_isAlphanumeric_or (d : CodePoint) (hd : Text.isBlank d = false) :
    RejectsBlanks fun c => Text.isAlphanumeric c || decide (c = d) := by
  refine rejectsBlanks_of_forall fun c hc => ?_
  rw [Bool.or_eq_true, decide_eq_true_eq] at hc
  rcases hc with hc | rfl
  · exact not_isBlank_of_isAlphanumeric hc
  · exact hd

theorem rejectsBlanks_isNumberPart : RejectsBlanks isNumberPart := by
  refine rejectsBlanks_of_forall fun c hc => ?_
  rw [isNumberPart, Bool.or_eq_true, decide_eq_true_eq] at hc
  rcases hc with hc | rfl
  · exact not_isBlank_of_isAsciiDigit hc
  · decide

theorem rejectsBlanks_isNamePart : RejectsBlanks isNamePart := by
  refine rejectsBlanks_of_forall fun c hc => ?_
  rw [isNamePart, Bool.or_eq_true, Bool.or_eq_true, decide_eq_true_eq, decide_eq_true_eq] at hc
  rcases hc with (hc | rfl) | rfl
  · exact not_isBlank_of_isAlphanumeric hc
  · decide
  · decide

/-! ## Texts with blanks put in -/

/-- The second text is the first one with blanks put in. -/
inductive Spaced : Text → Text → Prop where
  | nil : Spaced [] []
  | blank {b : CodePoint} {t u : Text} (hb : Text.isBlank b = true) (h : Spaced t u) :
    Spaced t (b :: u)
  | cons (c : CodePoint) {t u : Text} (h : Spaced t u) : Spaced (c :: t) (c :: u)

namespace Spaced

theorem append_left {t u : Text} (h : Spaced t u) (front : Text) :
    Spaced (front ++ t) (front ++ u) := by
  induction front with
  | nil => exact h
  | cons c front ih => exact .cons c ih

theorem refl (t : Text) : Spaced t t := by
  have h := Spaced.nil.append_left t
  rwa [List.append_nil] at h

theorem insert {w : Text} (hw : ∀ c ∈ w, Text.isBlank c = true) (t : Text) (k : Nat) :
    Spaced t (t.take k ++ w ++ t.drop k) := by
  have hblanks : Spaced (t.drop k) (w ++ t.drop k) := by
    induction w with
    | nil => exact refl _
    | cons b w ih =>
      obtain ⟨hb, hw⟩ := List.forall_mem_cons.mp hw
      exact .blank hb (ih hw)
  have h := hblanks.append_left (t.take k)
  rwa [List.take_append_drop, ← List.append_assoc] at h

/-- What ends a run ends it with blanks put in as well. -/
theorem takeWhile_eq_nil {p : CodePoint → Bool} (hp : RejectsBlanks p) {t u : Text}
    (h : Spaced t u) (ht : t.takeWhile p = []) : u.takeWhile p = [] := by
  cases h with
  | nil => rfl
  | blank hb h => rw [List.takeWhile_cons, hp _ hb, if_neg (by decide)]
  | cons c h =>
    rw [List.takeWhile_cons] at ht ⊢
    split_ifs at ht with hc
    rw [if_neg hc]

/-- The first code point is a blank, or it is the same. -/
theorem head {t u : Text} {c : CodePoint} (h : Spaced t (c :: u)) :
    Text.isBlank c = true ∨ ∃ rest, t = c :: rest ∧ Spaced rest u := by
  cases h with
  | blank hb h => exact .inl hb
  | cons c h => exact .inr ⟨_, rfl, h⟩

end Spaced

/-! ## Runs -/

/-- A run that reaches as far as the front of a text is that front. -/
theorem run_eq_front {p : CodePoint → Bool} {front back : Text}
    (h : ((front ++ back).takeWhile p).length = front.length) :
    (∀ d ∈ front, p d = true) ∧ back.takeWhile p = [] := by
  rw [List.takeWhile_append] at h
  split_ifs at h with hfront
  · constructor
    · rw [← List.takeWhile_eq_self_iff]
      exact (List.takeWhile_prefix p).eq_of_length hfront
    · rw [List.length_append] at h
      exact List.length_eq_zero_iff.mp (by omega)
  · exact absurd h hfront

theorem takeWhile_spaced {p : CodePoint → Bool} (hp : RejectsBlanks p) {front back back' : Text}
    (h : ((front ++ back).takeWhile p).length = front.length) (hback : Spaced back back') :
    (front ++ back).takeWhile p = front ∧ (front ++ back').takeWhile p = front := by
  obtain ⟨hfront, hend⟩ := run_eq_front h
  exact ⟨takeWhile_run hfront hend, takeWhile_run hfront (hback.takeWhile_eq_nil hp hend)⟩

theorem exists_of_append_eq {front back run rest : Text} (h : front ++ back = run ++ rest)
    (hle : run.length ≤ front.length) : ∃ more, front = run ++ more ∧ rest = more ++ back := by
  have hrun : run <+: front ++ back := by
    rw [h]
    exact List.prefix_append run rest
  obtain ⟨more, rfl⟩ := List.prefix_of_prefix_length_le hrun (List.prefix_append front back) hle
  rw [List.append_assoc] at h
  exact ⟨more, rfl, (List.append_cancel_left h).symm⟩

/-- A run that ends inside the front of a text does not depend on what stands behind. -/
theorem takeWhile_inside {p : CodePoint → Bool} {front back : Text}
    (h : ((front ++ back).takeWhile p).length < front.length) (back' : Text) :
    (front ++ back').takeWhile p = (front ++ back).takeWhile p := by
  rw [List.takeWhile_append] at h
  rw [List.takeWhile_append, List.takeWhile_append]
  split_ifs at h ⊢ with hfront
  · rw [List.length_append] at h
    omega
  · rfl

theorem takeWhile_take_succ {p : CodePoint → Bool} {t : Text} (k : Nat) :
    (t.take (k + 1)).takeWhile p = [] ↔ t.takeWhile p = [] := by
  cases t with
  | nil => rfl
  | cons c t =>
    rw [List.take_succ_cons, List.takeWhile_cons, List.takeWhile_cons]
    split_ifs
    · exact iff_of_false nofun nofun
    · rfl

/-- A run of at most so many code points that is the front of a text stays the same if what stands
    behind still ends it. -/
theorem takeWhile_take_append {p : CodePoint → Bool} {k : Nat} {front back back' : Text}
    (h : (((front ++ back).take k).takeWhile p).length = front.length)
    (hback : back.takeWhile p = [] → back'.takeWhile p = []) :
    ((front ++ back).take k).takeWhile p = front ∧
      ((front ++ back').take k).takeWhile p = front := by
  have hlength : front.length ≤ k := by
    have hrun := length_takeWhile_le p ((front ++ back).take k)
    rw [h, List.length_take] at hrun
    omega
  have htake (t : Text) : (front ++ t).take k = front ++ t.take (k - front.length) := by
    rw [List.take_append, List.take_of_length_le hlength]
  rw [htake] at h ⊢
  obtain ⟨hfront, hend⟩ := run_eq_front h
  refine ⟨takeWhile_run hfront hend, ?_⟩
  rw [htake]
  refine takeWhile_run hfront ?_
  cases hroom : k - front.length with
  | zero => rfl
  | succ room =>
    rw [hroom] at hend
    rw [takeWhile_take_succ] at hend ⊢
    exact hback hend

/-! ## Escapes -/

/-- The digits of a hex escape do not depend on what stands behind them, unless the text ends too
    early. -/
theorem hexDigits_append {front back digits : Text}
    (h : hexDigits (front ++ back) = .ok (digits, front.length)) (hne : back ≠ [])
    (back' : Text) : hexDigits (front ++ back') = .ok (digits, front.length) := by
  cases front with
  | nil =>
    obtain ⟨c, inner, rfl⟩ := List.exists_cons_of_ne_nil hne
    simp only [List.nil_append, List.length_nil, hexDigits] at h
    split_ifs at h
    all_goals cases congrArg (Except.map Prod.snd) h
  | cons d front =>
    rw [List.cons_append, List.length_cons, hexDigits] at h ⊢
    by_cases hbrace : d = '{'
    · simp only [if_pos hbrace] at h ⊢
      split_ifs at h with hopen
      obtain ⟨rfl, hlength⟩ := Prod.mk.inj (Except.ok.inj h)
      have hinside := takeWhile_inside (p := fun (c : CodePoint) => decide (c ≠ '}'))
        (Nat.lt_of_succ_lt_succ (Nat.lt_of_succ_le hlength.le)) back'
      rw [hinside, hlength, if_neg (by rw [List.length_append]; omega)]
    · simp only [if_neg hbrace] at h ⊢
      obtain ⟨rfl, hlength⟩ := Prod.mk.inj (Except.ok.inj h)
      obtain ⟨c, inner, rfl⟩ := List.exists_cons_of_ne_nil hne
      cases front with
      | nil => simp at hlength
      | cons e front =>
        obtain rfl : front = [] := by simpa using hlength
        rfl

theorem pos_of_escape {s : Text} {value : CodePoint} {span : Nat}
    (h : escape s = .ok (value, span)) : 0 < span := by
  unfold escape at h
  split at h
  · cases h
  · next c rest =>
    split_ifs at h with hoctal hx hcaret
    · obtain ⟨-, rfl⟩ := Prod.mk.inj (Except.ok.inj h)
      rw [List.takeWhile_cons, if_pos hoctal]
      exact Nat.zero_lt_succ _
    · split at h
      · cases h
      · split at h
        · cases h
          omega
        · cases h
    · split at h
      all_goals
        cases h
        omega
    · cases h
      exact Nat.one_pos

/-- An escape does not depend on what stands behind it, unless the text ends too early or an octal
    digit follows. -/
theorem escape_append {front back back' : Text} {value : CodePoint}
    (h : escape (front ++ back) = .ok (value, front.length)) (hne : back ≠ [])
    (hback : back.takeWhile isOctalDigit = [] → back'.takeWhile isOctalDigit = []) :
    escape (front ++ back') = .ok (value, front.length) := by
  cases front with
  | nil => exact absurd (pos_of_escape h) (Nat.lt_irrefl 0)
  | cons c front =>
    unfold escape at h ⊢
    simp only [List.cons_append, List.length_cons] at h ⊢
    split_ifs at h ⊢ with hoctal hx hcaret
    · rw [List.takeWhile_cons, if_pos hoctal] at h ⊢
      have hlength := congrArg Prod.snd (Except.ok.inj h)
      obtain ⟨hdigits, hdigits'⟩ := takeWhile_take_append (Nat.succ.inj hlength) hback
      rw [hdigits] at h
      rw [hdigits', h]
    · cases hdigits : hexDigits (front ++ back) with
      | error stop =>
        rw [hdigits] at h
        cases h
      | ok found =>
        obtain ⟨digits, width⟩ := found
        rw [hdigits] at h
        simp only at h
        split at h
        · next hvalue =>
          obtain ⟨rfl, hwidth⟩ := Prod.mk.inj (Except.ok.inj h)
          obtain rfl : width = front.length := by omega
          rw [hexDigits_append hdigits hne]
          simp only [hvalue, hwidth]
        · cases h
    · match front with
      | [] =>
        obtain ⟨d, back, rfl⟩ := List.exists_cons_of_ne_nil hne
        cases h
      | d :: front => exact h
    · exact h

theorem escape_append_cons {front back : Text} {c value : CodePoint}
    (h : escape (front ++ c :: back) = .ok (value, front.length)) (back' : Text) :
    escape (front ++ c :: back') = .ok (value, front.length) := by
  refine escape_append h (List.cons_ne_nil _ _) fun hend => ?_
  rw [List.takeWhile_cons] at hend ⊢
  split_ifs at hend with hc
  rw [if_neg hc]

/-! ## Quoted texts and character literals -/

theorem lt_of_quotedFrom {quote : CodePoint} {width : Nat} {s t : Text} {total : Nat}
    (h : quotedFrom quote width s = .ok (t, total)) : width < total := by
  fun_induction quotedFrom quote width s generalizing t with
  | case1 => cases h
  | case2 width inner =>
    cases h
    omega
  | case3 => cases h
  | case4 => cases h
  | case5 width inner value span hescape t' total' hrest hquote ih =>
    cases h
    have := ih hrest
    omega
  | case6 => cases h
  | case7 width c inner hquote hbackslash t' total' hrest ih =>
    cases h
    have := ih hrest
    omega

/-- A text between quotes does not depend on what stands behind them. -/
theorem quotedFrom_append {quote : CodePoint} {width : Nat} {front back t : Text}
    (h : quotedFrom quote width (front ++ back) = .ok (t, width + front.length)) (back' : Text) :
    quotedFrom quote width (front ++ back') = .ok (t, width + front.length) := by
  generalize hs : front ++ back = s at h
  have hpos := lt_of_quotedFrom h
  fun_induction quotedFrom quote width s generalizing front t with
  | case1 => cases h
  | case2 width inner =>
    obtain ⟨rfl, hlength⟩ := Prod.mk.inj (Except.ok.inj h)
    obtain ⟨c, rfl⟩ := List.length_eq_one_iff.mp (show front.length = 1 by omega)
    obtain ⟨rfl, -⟩ := List.cons.inj hs
    rw [List.cons_append, quotedFrom, if_pos rfl]
    rfl
  | case3 => cases h
  | case4 => cases h
  | case5 width inner value span hescape t' total' hrest hquote ih =>
    obtain ⟨rfl, rfl⟩ := Prod.mk.inj (Except.ok.inj h)
    have hlt := lt_of_quotedFrom hrest
    cases front with
    | nil => exact absurd hpos (Nat.lt_irrefl _)
    | cons d front =>
      rw [List.cons_append] at hs
      obtain ⟨rfl, rfl⟩ := List.cons.inj hs
      have hspan : span < front.length := by
        rw [List.length_cons] at hlt
        omega
      -- the closing quote stands in what is left of the front behind the escape
      obtain ⟨read, c, rest, rfl, rfl⟩ :
          ∃ read c rest, front = read ++ c :: rest ∧ read.length = span :=
        ⟨front.take span, front[span], front.drop (span + 1),
          by rw [← List.drop_eq_getElem_cons hspan, List.take_append_drop],
          List.length_take_of_le hspan.le⟩
      have hwidth : width + (CodePoint.ofChar '\\' :: (read ++ c :: rest)).length =
          width + 1 + read.length + (c :: rest).length := by
        rw [List.length_cons, List.length_append]
        omega
      rw [List.append_assoc, List.cons_append] at hescape
      rw [List.append_assoc, List.drop_left] at hrest ih
      rw [hwidth] at hrest hlt ⊢
      have hread := ih rfl hrest hlt
      rw [List.cons_append] at hread
      rw [List.cons_append, List.append_assoc, List.cons_append, quotedFrom, if_neg hquote,
        if_pos rfl, escape_append_cons hescape]
      simp only [List.drop_left, hread]
  | case6 => cases h
  | case7 width c inner hquote hbackslash t' total' hrest ih =>
    obtain ⟨rfl, rfl⟩ := Prod.mk.inj (Except.ok.inj h)
    have hlt := lt_of_quotedFrom hrest
    cases front with
    | nil => exact absurd hpos (Nat.lt_irrefl _)
    | cons d front =>
      obtain ⟨rfl, rfl⟩ := List.cons.inj hs
      have hwidth : width + (d :: front).length = width + 1 + front.length := by
        rw [List.length_cons]
        omega
      rw [hwidth] at hrest hlt ⊢
      rw [List.cons_append, quotedFrom, if_neg hquote, if_neg hbackslash, ih rfl hrest hlt]

theorem charLiteral_spaced {front back back' : Text} {token : Token}
    (h : charLiteral (front ++ back) = .ok (token, front.length)) (hne : back ≠ [])
    (hback : Spaced back back') : charLiteral (front ++ back') = .ok (token, front.length) := by
  cases front with
  | nil =>
    obtain ⟨c, back, rfl⟩ := List.exists_cons_of_ne_nil hne
    rw [List.nil_append, List.length_nil, charLiteral.eq_def] at h
    simp only at h
    split_ifs at h
    · split at h
      · cases h
      · have hspan := congrArg Prod.snd (Except.ok.inj h)
        simp only at hspan
        omega
    · cases congrArg (Except.map Prod.snd) h
  | cons c front =>
    unfold charLiteral at h ⊢
    simp only [List.cons_append, List.length_cons] at h ⊢
    split_ifs at h ⊢ with hbackslash
    · cases hescape : escape (front ++ back) with
      | error stop =>
        rw [hescape] at h
        cases h
      | ok found =>
        obtain ⟨value, span⟩ := found
        rw [hescape] at h
        obtain ⟨rfl, hspan⟩ := Prod.mk.inj (Except.ok.inj h)
        obtain rfl : span = front.length := by omega
        rw [escape_append hescape hne (hback.takeWhile_eq_nil rejectsBlanks_isOctalDigit)]
        simp only [hspan]
    · exact h

theorem exists_char_of_charLiteral {t : Text} {token : Token} {span : Nat}
    (h : charLiteral t = .ok (token, span)) : ∃ n, token = .char n := by
  unfold charLiteral at h
  split at h
  · cases h
  · split_ifs at h
    · split at h
      · cases h
      · cases h
        exact ⟨_, rfl⟩
    · cases h
      exact ⟨_, rfl⟩

/-! ## Numbers

The first digits of a number are a run. What stands behind the run decides what the number is, and
blanks behind the number do not change it. -/

theorem le_of_basedInteger {digits rest : Text} {width span : Nat} {token : Token}
    (h : basedInteger digits width rest = .ok (token, span)) : width ≤ span := by
  unfold basedInteger at h
  simp only at h
  split_ifs at h
  split at h
  · obtain ⟨-, rfl⟩ := Prod.mk.inj (Except.ok.inj h)
    exact Nat.le_add_right _ _
  · cases h

theorem basedInteger_spaced {digits front back back' : Text} {width : Nat} {token : Token}
    (h : basedInteger digits width (front ++ back) = .ok (token, width + front.length))
    (hback : Spaced back back') :
    basedInteger digits width (front ++ back') = .ok (token, width + front.length) := by
  unfold basedInteger at h ⊢
  split_ifs at h ⊢ with hlong
  simp only at h ⊢
  split_ifs at h ⊢ with hbase
  have hlength : ((front ++ back).takeWhile fun c =>
      Text.isAlphanumeric c || decide (c = '_')).length = front.length := by
    split at h
    · exact Nat.add_left_cancel (congrArg Prod.snd (Except.ok.inj h))
    · cases h
  obtain ⟨hbody, hbody'⟩ :=
    takeWhile_spaced (rejectsBlanks_isAlphanumeric_or '_' (by decide)) hlength hback
  rw [hbody] at h
  rw [hbody', h]

/-- Whether a code point begins an exponent. -/
def isExponentMark (c : CodePoint) : Bool := decide (c = 'e' ∨ c = 'E')

theorem rejectsBlanks_isExponentMark : RejectsBlanks isExponentMark := by
  refine rejectsBlanks_of_forall fun c hc => ?_
  rcases of_decide_eq_true hc with rfl | rfl
  · decide
  · decide

/-- The digits of an exponent are not empty. -/
theorem two_le_of_exponentPart {c : CodePoint} {rest : Text} {exponent : Int} {span : Nat}
    (hc : isExponentMark c = true) (h : exponentPart (c :: rest) = .ok (exponent, span)) :
    2 ≤ span := by
  rw [exponentPart, if_pos (of_decide_eq_true hc)] at h
  generalize exponentSign rest = sign at h
  obtain ⟨negative, signWidth, after⟩ := sign
  simp only at h
  generalize after.takeWhile (·.isAsciiDigit) = digits at h
  cases digits with
  | nil => cases h
  | cons d digits =>
    have hspan := congrArg Prod.snd (Except.ok.inj h)
    simp only [List.length_cons] at hspan
    omega

theorem exponentPart_of_not_mark {t : Text} (h : t.takeWhile isExponentMark = []) :
    exponentPart t = .ok (0, 0) := by
  cases t with
  | nil => rfl
  | cons c t =>
    rw [List.takeWhile_cons] at h
    split_ifs at h with hc
    rw [exponentPart, if_neg fun h => hc (decide_eq_true h)]

theorem exponentSign_append {front : Text} (hne : front ≠ []) (back : Text) :
    exponentSign (front ++ back) =
      ((exponentSign front).1, (exponentSign front).2.1, (exponentSign front).2.2 ++ back) := by
  obtain ⟨c, front, rfl⟩ := List.exists_cons_of_ne_nil hne
  rw [List.cons_append, exponentSign, exponentSign]
  split_ifs
  all_goals rfl

theorem exponentPart_spaced {front back back' : Text} {exponent : Int}
    (h : exponentPart (front ++ back) = .ok (exponent, front.length)) (hback : Spaced back back') :
    exponentPart (front ++ back') = .ok (exponent, front.length) := by
  cases front with
  | nil =>
    have hend : back.takeWhile isExponentMark = [] := by
      cases back with
      | nil => rfl
      | cons c back =>
        rw [List.takeWhile_cons, if_neg]
        intro hc
        exact absurd (two_le_of_exponentPart hc h) (by decide)
    rw [List.nil_append, exponentPart_of_not_mark hend] at h
    rw [List.nil_append,
      exponentPart_of_not_mark (hback.takeWhile_eq_nil rejectsBlanks_isExponentMark hend), h]
  | cons c front =>
    by_cases hc : isExponentMark c = true
    · have hlength := two_le_of_exponentPart hc h
      have hne : front ≠ [] := by
        rintro rfl
        exact absurd hlength (Nat.not_succ_le_self 1)
      have hsign := length_exponentSign front
      rw [List.cons_append, exponentPart, if_pos (of_decide_eq_true hc),
        exponentSign_append hne] at h ⊢
      generalize exponentSign front = sign at h hsign ⊢
      obtain ⟨negative, signWidth, after⟩ := sign
      simp only at h hsign ⊢
      by_cases hempty : ((after ++ back).takeWhile (·.isAsciiDigit)).isEmpty = true
      · rw [if_pos hempty] at h
        cases h
      · rw [if_neg hempty] at h
        have hspan := congrArg Prod.snd (Except.ok.inj h)
        rw [List.length_cons] at hspan
        have hrun : ((after ++ back).takeWhile (·.isAsciiDigit)).length = after.length := by
          simp only at hspan
          omega
        obtain ⟨hdigits, hdigits'⟩ :=
          takeWhile_spaced (p := (·.isAsciiDigit)) rejectsBlanks_isAsciiDigit hrun hback
        rw [hdigits] at h hempty
        rw [hdigits', if_neg hempty, h]
    · have hend : (c :: (front ++ back)).takeWhile isExponentMark = [] := by
        rw [List.takeWhile_cons, if_neg hc]
      rw [List.cons_append, exponentPart_of_not_mark hend] at h
      cases congrArg (Except.map Prod.snd) h

theorem floatLiteral_run {whole run rest : Text} {width : Nat}
    (hrun : ∀ d ∈ run, isNumberPart d = true) (hend : rest.takeWhile isNumberPart = [])
    {token : Token} {span : Nat} :
    floatLiteral whole width (run ++ rest) = .ok (token, span) ↔
      ∃ exponent more, exponentPart rest = .ok (exponent, more) ∧
        .float (Binary64.read whole (withoutUnderscores run) exponent) = token ∧
        width + run.length + more = span := by
  unfold floatLiteral
  simp only [takeWhile_run hrun hend, List.drop_left]
  constructor
  · intro h
    cases hexponent : exponentPart rest with
    | error stop =>
      rw [hexponent] at h
      cases h
    | ok found =>
      rw [hexponent] at h
      obtain ⟨htoken, hspan⟩ := Prod.mk.inj (Except.ok.inj h)
      exact ⟨_, _, rfl, htoken, hspan⟩
  · rintro ⟨exponent, more, hexponent, rfl, rfl⟩
    rw [hexponent]

theorem floatLiteral_spaced {whole front back back' : Text} {width : Nat} {token : Token}
    (h : floatLiteral whole width (front ++ back) = .ok (token, width + front.length))
    (hback : Spaced back back') :
    floatLiteral whole width (front ++ back') = .ok (token, width + front.length) := by
  obtain ⟨run, rest, hsplit, hrun, hend⟩ := exists_run isNumberPart (front ++ back)
  rw [hsplit, floatLiteral_run hrun hend] at h
  obtain ⟨exponent, more, hexponent, htoken, hspan⟩ := h
  obtain ⟨inner, rfl, rfl⟩ := exists_of_append_eq hsplit (by omega)
  have hend' := (hback.append_left inner).takeWhile_eq_nil rejectsBlanks_isNumberPart hend
  rw [List.append_assoc, floatLiteral_run hrun hend']
  rw [List.length_append] at hspan ⊢
  obtain rfl : more = inner.length := by omega
  exact ⟨exponent, _, exponentPart_spaced hexponent hback, htoken, by omega⟩

theorem lt_of_floatLiteral {whole after : Text} {d : CodePoint} (hd : d.isAsciiDigit = true)
    {width span : Nat} {token : Token}
    (h : floatLiteral whole width (d :: after) = .ok (token, span)) : width < span := by
  have hpart : isNumberPart d = true := by rw [isNumberPart, hd, Bool.true_or]
  obtain ⟨run, rest, rfl, hrun, hend⟩ := exists_run isNumberPart after
  rw [← List.cons_append,
    floatLiteral_run (List.forall_mem_cons.mpr ⟨hpart, hrun⟩) hend] at h
  obtain ⟨-, -, -, -, rfl⟩ := h
  rw [List.length_cons]
  omega

/-- A number goes on behind its leading digits: these are a base, or a fraction follows. -/
def ContinuesNumber (rest : Text) : Prop :=
  (∃ after, rest = CodePoint.ofChar '#' :: after) ∨
    ∃ d after, rest = CodePoint.ofChar '.' :: d :: after ∧ d.isAsciiDigit = true

theorem Spaced.continuesNumber {t u : Text} (h : Spaced t u) (hu : ContinuesNumber u) :
    ContinuesNumber t := by
  rcases hu with ⟨after, rfl⟩ | ⟨d, after, rfl, hd⟩
  · rcases h.head with hblank | ⟨rest, rfl, -⟩
    · exact absurd hblank (by decide)
    · exact .inl ⟨rest, rfl⟩
  · rcases h.head with hblank | ⟨rest, rfl, hrest⟩
    · exact absurd hblank (by decide)
    · rcases hrest.head with hblank | ⟨after', rfl, -⟩
      · rw [not_isBlank_of_isAsciiDigit hd] at hblank
        cases hblank
      · exact .inr ⟨d, after', rfl, hd⟩

section Number

variable {first : CodePoint} {run : Text} (hrun : ∀ d ∈ run, isNumberPart d = true)
include hrun

theorem number_based (after : Text) :
    number first (run ++ CodePoint.ofChar '#' :: after) =
      basedInteger (first :: withoutUnderscores run) (run.length + 1) after := by
  unfold number
  simp only [takeWhile_run hrun (show (CodePoint.ofChar '#' :: after).takeWhile isNumberPart = []
    from rfl), List.drop_left]
  cases after with
  | nil => rfl
  | cons d after => rfl

theorem number_float {d : CodePoint} (hd : d.isAsciiDigit = true) (after : Text) :
    number first (run ++ CodePoint.ofChar '.' :: d :: after) =
      floatLiteral (first :: withoutUnderscores run) (run.length + 1) (d :: after) := by
  unfold number
  simp only [takeWhile_run hrun (show (CodePoint.ofChar '.' :: d :: after).takeWhile isNumberPart =
    [] from rfl), List.drop_left]
  rw [if_neg (by decide), if_pos ⟨trivial, hd⟩]

theorem number_plain {rest : Text} (hend : rest.takeWhile isNumberPart = [])
    (hrest : ¬ ContinuesNumber rest) :
    number first (run ++ rest) = plainInteger (first :: withoutUnderscores run) run.length := by
  have hbase (c : CodePoint) (after : Text) (h : rest = c :: after) : c ≠ '#' := by
    rintro rfl
    exact hrest (.inl ⟨after, h⟩)
  unfold number
  simp only [takeWhile_run hrun hend, List.drop_left]
  match rest with
  | [] => rfl
  | [c] =>
    simp only
    rw [if_neg (hbase c [] rfl)]
  | c :: d :: after =>
    have hfraction : ¬ (c = '.' ∧ d.isAsciiDigit = true) := by
      rintro ⟨rfl, hd⟩
      exact hrest (.inr ⟨d, after, rfl, hd⟩)
    simp only
    rw [if_neg (hbase c _ rfl), if_neg hfraction]

end Number

theorem number_spaced {first : CodePoint} {front back back' : Text} {token : Token}
    (h : number first (front ++ back) = .ok (token, front.length)) (hback : Spaced back back') :
    number first (front ++ back') = .ok (token, front.length) := by
  obtain ⟨run, rest, hsplit, hrun, hend⟩ := exists_run isNumberPart (front ++ back)
  rw [hsplit] at h
  by_cases hrest : ContinuesNumber rest
  · rcases hrest with ⟨after, rfl⟩ | ⟨d, after, rfl, hd⟩
    · rw [number_based hrun] at h
      -- the run and the mark behind it belong to the front
      have hle := le_of_basedInteger h
      obtain ⟨inner, rfl, rfl⟩ : ∃ inner, front = run ++ [CodePoint.ofChar '#'] ++ inner ∧
          after = inner ++ back := by
        refine exists_of_append_eq (hsplit.trans (List.append_cons _ _ _)) ?_
        rw [List.length_append]
        exact hle
      rw [List.length_append, List.length_append] at h ⊢
      rw [List.append_assoc, List.append_assoc, List.cons_append, number_based hrun]
      exact basedInteger_spaced h hback
    · rw [number_float hrun hd] at h
      -- so does the first digit of the fraction
      have hlt := lt_of_floatLiteral hd h
      obtain ⟨inner, rfl, rfl⟩ : ∃ inner, front = run ++ [CodePoint.ofChar '.', d] ++ inner ∧
          after = inner ++ back := by
        refine exists_of_append_eq ?_ ?_
        · rw [hsplit, List.append_assoc]
          rfl
        · rw [List.length_append]
          exact hlt
      have hwidth : (run ++ [CodePoint.ofChar '.', d] ++ inner).length =
          run.length + 1 + (d :: inner).length := by
        simp only [List.length_append, List.length_cons, List.length_nil]
        omega
      rw [hwidth, ← List.cons_append] at h
      rw [hwidth, List.append_assoc, List.append_assoc, List.cons_append, List.cons_append,
        number_float hrun hd]
      exact floatLiteral_spaced h hback
  · rw [number_plain hrun hend hrest, plainInteger] at h
    split_ifs at h with hlong
    obtain ⟨rfl, hspan⟩ := Prod.mk.inj (Except.ok.inj h)
    obtain ⟨inner, rfl, rfl⟩ := exists_of_append_eq hsplit hspan.le
    obtain rfl : inner = [] := by simpa using hspan
    have hend' := hback.takeWhile_eq_nil rejectsBlanks_isNumberPart hend
    have hrest' := mt hback.continuesNumber hrest
    rw [List.append_nil, number_plain hrun hend' hrest', plainInteger, if_neg hlong]

/-! ## Names and marks -/

theorem name_spaced {c : CodePoint} {front back back' : Text} {token : Token}
    (h : name c (front ++ back) = (token, front.length)) (hback : Spaced back back') :
    name c (front ++ back') = (token, front.length) := by
  have hrun := congrArg Prod.snd h
  obtain ⟨hfront, hfront'⟩ := takeWhile_spaced rejectsBlanks_isNamePart hrun hback
  unfold name at h ⊢
  rw [hfront] at h
  rw [hfront', h]

/-- A code point that begins a mark of two is no mark alone. -/
theorem singleMark?_of_doubleMark? {c d : CodePoint} {token : Token}
    (h : doubleMark? c d = some token) : singleMark? c = none := by
  unfold doubleMark? at h
  split_ifs at h with hopen hclose
  · rw [hopen.1]
    rfl
  · rw [hclose.1]
    rfl

theorem mark_spaced {c : CodePoint} {front back : Text} {token : Token}
    (h : mark c (front ++ back) = .ok (token, front.length)) (back' : Text) :
    mark c (front ++ back') = .ok (token, front.length) := by
  unfold mark at h ⊢
  cases hdouble : (front ++ back).head?.bind (doubleMark? c) with
  | some token' =>
    rw [hdouble] at h
    obtain ⟨rfl, hspan⟩ := Prod.mk.inj (Except.ok.inj h)
    obtain ⟨d, rfl⟩ := List.length_eq_one_iff.mp hspan.symm
    rw [List.cons_append, List.head?_cons] at hdouble ⊢
    rw [hdouble, List.length_singleton]
  | none =>
    rw [hdouble] at h
    cases hsingle : singleMark? c with
    | none =>
      rw [hsingle] at h
      cases h
    | some token' =>
      rw [hsingle] at h
      obtain ⟨rfl, hspan⟩ := Prod.mk.inj (Except.ok.inj h)
      obtain rfl := List.length_eq_zero_iff.mp hspan.symm
      have hnone : ([] ++ back').head?.bind (doubleMark? c) = none := by
        refine Option.eq_none_iff_forall_ne_some.mpr fun token'' htoken => ?_
        obtain ⟨d, -, hd⟩ := Option.bind_eq_some_iff.mp htoken
        rw [singleMark?_of_doubleMark? hd] at hsingle
        cases hsingle
      rw [hnone]
      rfl

/-! ## Scans -/

theorem map_ok_iff {α β : Type} {x : Except Stop (α × Nat)} {f : α → β} {b : β} {span : Nat} :
    (x.map fun (a, span) => (f a, span)) = .ok (b, span) ↔ ∃ a, x = .ok (a, span) ∧ f a = b := by
  cases x with
  | error stop => exact iff_of_false nofun nofun
  | ok found =>
    obtain ⟨a, n⟩ := found
    simp only [Except.map, Except.ok.injEq, Prod.mk.injEq]
    constructor
    · rintro ⟨rfl, rfl⟩
      exact ⟨a, ⟨rfl, rfl⟩, rfl⟩
    · rintro ⟨a', ⟨rfl, rfl⟩, rfl⟩
      exact ⟨rfl, rfl⟩

/-- A scan reads the same token when blanks are put in behind it, unless it is a character literal
    at the end of the text. -/
theorem scan_spaced {c : CodePoint} {front back back' : Text} {token : Token}
    (h : scan c (front ++ back) = .ok (token, front.length)) (hback : Spaced back back')
    (hchar : back = [] → ∀ n, token ≠ .char n) :
    scan c (front ++ back') = .ok (token, front.length) := by
  have hquoted {t : Text} (h : quotedFrom c 0 (front ++ back) = .ok (t, front.length)) :
      quotedFrom c 0 (front ++ back') = .ok (t, front.length) := by
    rw [← Nat.zero_add front.length] at h ⊢
    exact quotedFrom_append h back'
  unfold scan at h ⊢
  split_ifs at h ⊢ with hdouble hsingle hdollar hdigit hname
  · rw [map_ok_iff] at h ⊢
    obtain ⟨t, ht, rfl⟩ := h
    exact ⟨t, hquoted ht, rfl⟩
  · rw [map_ok_iff] at h ⊢
    obtain ⟨t, ht, rfl⟩ := h
    exact ⟨t, hquoted ht, rfl⟩
  · obtain ⟨n, rfl⟩ := exists_char_of_charLiteral h
    exact charLiteral_spaced h (fun hnil => hchar hnil n rfl) hback
  · exact number_spaced h hback
  · exact congrArg Except.ok (name_spaced (Except.ok.inj h) hback)
  · exact mark_spaced h back'

end Faultline.Term.Lexer
