import Faultline.Proofs.Term.Lexing
import Mathlib.Tactic.SplitIfs

/-!
# Texts with numerals that are too long

The lexer tells the column at which a text is malformed, with one exception: a decimal numeral of
too many digits ends the reading without a place. `ReachesLongNumeral` says where such a numeral has
to stand: at a code point that the lexer comes to, with no fraction behind its digits.

An outcome is settled if it is a result or the refusal of a text with a message about it.

Results:
* `exists_scan_eq_longNumeral_iff`: when a scan stops at a numeral.
* `settled_tokenize_iff`: when reading all tokens of a text is settled.
-/

namespace Faultline

/-- There is a result, or a text is refused with a message about it. -/
def Settled {α : Type} (x : Outcome α) : Prop := (∃ a, x = .ok a) ∨ ∃ e, x = .error (.decode e)

theorem settled_ok {α : Type} (a : α) : Settled (.ok a : Outcome α) := .inl ⟨a, rfl⟩

theorem settled_error_iff {α : Type} {failure : Failure} :
    Settled (.error failure : Outcome α) ↔ ∃ e, failure = .decode e := by
  simp [Settled]

end Faultline

namespace Faultline.Term.Lexer

/-! ## Stops with a place -/

/-- The stop tells a place. -/
inductive Stop.HasPlace : Stop → Prop where
  | mk (cause : Malformed) (distance : Nat) : HasPlace (.malformed cause distance)

theorem Stop.HasPlace.shift {stop : Stop} (h : stop.HasPlace) (k : Nat) :
    (stop.shift k).HasPlace := by
  cases h with
  | mk cause distance => exact .mk cause _

theorem Stop.HasPlace.ne_longNumeral {stop : Stop} (h : stop.HasPlace) (n : Nat) :
    stop ≠ .longNumeral n := by
  rintro rfl
  cases h

theorem hexDigits_error {rest : Text} {stop : Stop} (h : hexDigits rest = .error stop) :
    stop.HasPlace := by
  unfold hexDigits at h
  cases rest with
  | nil => cases h
  | cons c inner =>
    simp only at h
    split_ifs at h
    cases h
    exact .mk _ _

theorem escape_error {s : Text} {stop : Stop} (h : escape s = .error stop) : stop.HasPlace := by
  cases s with
  | nil =>
    cases h
    exact .mk _ _
  | cons c rest =>
    unfold escape at h
    simp only at h
    split_ifs at h with hoctal hx hcaret
    · cases hdigits : hexDigits rest with
      | error inner =>
        rw [hdigits] at h
        cases h
        exact (hexDigits_error hdigits).shift 1
      | ok found =>
        rw [hdigits] at h
        simp only at h
        cases hvalue : hexValue? found.1 with
        | none =>
          rw [hvalue] at h
          cases h
          exact .mk _ _
        | some value =>
          rw [hvalue] at h
          cases h
    · cases rest <;> cases h

theorem quotedFrom_error {quote : CodePoint} {width : Nat} {s : Text} {stop : Stop}
    (h : quotedFrom quote width s = .error stop) : stop.HasPlace := by
  fun_induction quotedFrom quote width s with
  | case1 =>
    cases h
    exact .mk _ _
  | case2 => cases h
  | case3 width inner stop' hescape =>
    cases h
    exact (escape_error hescape).shift _
  | case4 width inner value span _ stop' hrest _ ih =>
    cases h
    exact ih hrest
  | case5 => cases h
  | case6 width c inner _ _ stop' hrest ih =>
    cases h
    exact ih hrest
  | case7 => cases h

theorem charLiteral_error {s : Text} {stop : Stop} (h : charLiteral s = .error stop) :
    stop.HasPlace := by
  cases s with
  | nil =>
    cases h
    exact .mk _ _
  | cons c rest =>
    unfold charLiteral at h
    simp only at h
    split_ifs at h with hc
    · cases hescape : escape rest with
      | error inner =>
        rw [hescape] at h
        cases h
        exact (escape_error hescape).shift 2
      | ok found =>
        rw [hescape] at h
        cases h

theorem exponentPart_error {s : Text} {stop : Stop} (h : exponentPart s = .error stop) :
    stop.HasPlace := by
  cases s with
  | nil => cases h
  | cons c rest =>
    unfold exponentPart at h
    simp only at h
    split_ifs at h
    cases h
    exact .mk _ _

theorem floatLiteral_error {whole rest : Text} {width : Nat} {stop : Stop}
    (h : floatLiteral whole width rest = .error stop) : stop.HasPlace := by
  unfold floatLiteral at h
  simp only at h
  cases hexponent : exponentPart (rest.drop (rest.takeWhile isNumberPart).length) with
  | error inner =>
    rw [hexponent] at h
    cases h
    exact exponentPart_error hexponent
  | ok found =>
    rw [hexponent] at h
    cases h

theorem mark_error {c : CodePoint} {rest : Text} {stop : Stop} (h : mark c rest = .error stop) :
    stop.HasPlace := by
  unfold mark at h
  cases hdouble : rest.head?.bind (doubleMark? c) with
  | some token =>
    rw [hdouble] at h
    cases h
  | none =>
    rw [hdouble] at h
    simp only at h
    cases hsingle : singleMark? c with
    | some token =>
      rw [hsingle] at h
      cases h
    | none =>
      rw [hsingle] at h
      cases h
      exact .mk _ _

/-! ## Numerals -/

theorem basedInteger_error {digits rest : Text} {width : Nat} {stop : Stop}
    (hlimit : ¬ Numeral.decimalLimit < digits.length)
    (h : basedInteger digits width rest = .error stop) : stop.HasPlace := by
  rw [basedInteger, if_neg hlimit] at h
  simp only at h
  split_ifs at h with hbase
  · split at h
    · cases h
    · cases h
      exact .mk _ _
  · cases h
    exact .mk _ _

/-- A numeral stands at the head of the text that has more digits than may be read: digits, between
    which underscores may stand, with no fraction behind them. -/
inductive LongNumeral : Text → Prop where
  | mk {c : CodePoint} {run rest : Text} (hc : c.isAsciiDigit = true)
    (hrun : ∀ d ∈ run, isNumberPart d = true) (hend : rest.takeWhile isNumberPart = [])
    (hlong : Numeral.decimalLimit < (c :: withoutUnderscores run).length)
    (hfraction : ∀ d after, rest = CodePoint.ofChar '.' :: d :: after → d.isAsciiDigit = false) :
    LongNumeral (c :: (run ++ rest))

theorem number_of_longNumeral {c : CodePoint} {run rest : Text}
    (hrun : ∀ d ∈ run, isNumberPart d = true) (hend : rest.takeWhile isNumberPart = [])
    (hlong : Numeral.decimalLimit < (c :: withoutUnderscores run).length)
    (hfraction : ∀ d after, rest = CodePoint.ofChar '.' :: d :: after → d.isAsciiDigit = false) :
    number c (run ++ rest) = .error (.longNumeral (c :: withoutUnderscores run).length) := by
  have hplain (width : Nat) : plainInteger (c :: withoutUnderscores run) width =
      .error (.longNumeral (c :: withoutUnderscores run).length) := if_pos hlong
  have hbased (width : Nat) (after : Text) :
      basedInteger (c :: withoutUnderscores run) width after =
        .error (.longNumeral (c :: withoutUnderscores run).length) := if_pos hlong
  unfold number
  simp only [takeWhile_run hrun hend, List.drop_left]
  match rest with
  | [] => exact hplain _
  | [d] =>
    simp only [hplain, hbased, ite_self]
  | d :: e :: after =>
    have hpoint : ¬ (d = '.' ∧ e.isAsciiDigit = true) := by
      rintro ⟨rfl, he⟩
      rw [hfraction e after rfl] at he
      cases he
    simp only [hplain, hbased, if_neg hpoint, ite_self]

theorem plainInteger_ne_error {digits : Text} (hlimit : ¬ Numeral.decimalLimit < digits.length)
    (width : Nat) (stop : Stop) : plainInteger digits width ≠ .error stop := by
  intro h
  rw [plainInteger, if_neg hlimit] at h
  cases h

theorem number_error {c : CodePoint} (hc : c.isAsciiDigit = true) {run rest : Text} {stop : Stop}
    (hrun : ∀ d ∈ run, isNumberPart d = true) (hend : rest.takeWhile isNumberPart = [])
    (h : number c (run ++ rest) = .error stop) :
    stop.HasPlace ∨ LongNumeral (c :: (run ++ rest)) := by
  unfold number at h
  simp only [takeWhile_run hrun hend, List.drop_left] at h
  by_cases hlong : Numeral.decimalLimit < (c :: withoutUnderscores run).length
  · by_cases hfraction :
        ∀ d after, rest = CodePoint.ofChar '.' :: d :: after → d.isAsciiDigit = false
    · exact .inr (.mk hc hrun hend hlong hfraction)
    · simp only [Classical.not_forall, Bool.not_eq_false] at hfraction
      obtain ⟨d, after, rfl, hd⟩ := hfraction
      simp only at h
      rw [if_neg (by decide), if_pos ⟨trivial, hd⟩] at h
      exact .inl (floatLiteral_error h)
  · left
    match rest with
    | [] => exact absurd h (plainInteger_ne_error hlong _ stop)
    | [d] =>
      simp only at h
      split_ifs at h
      · exact basedInteger_error hlong h
      · exact absurd h (plainInteger_ne_error hlong _ stop)
    | d :: e :: after =>
      simp only at h
      split_ifs at h
      · exact basedInteger_error hlong h
      · exact floatLiteral_error h
      · exact absurd h (plainInteger_ne_error hlong _ stop)

theorem exists_run (p : CodePoint → Bool) (s : Text) :
    ∃ run rest, s = run ++ rest ∧ (∀ d ∈ run, p d = true) ∧ rest.takeWhile p = [] := by
  induction s with
  | nil => exact ⟨[], [], rfl, by simp, rfl⟩
  | cons c s ih =>
    cases hc : p c with
    | false =>
      have hend : (c :: s).takeWhile p = [] := by
        rw [List.takeWhile_cons, hc]
        rfl
      exact ⟨[], c :: s, rfl, by simp, hend⟩
    | true =>
      obtain ⟨run, rest, rfl, hrun, hend⟩ := ih
      exact ⟨c :: run, rest, rfl, List.forall_mem_cons.mpr ⟨hc, hrun⟩, hend⟩

/-! ## Scans -/

theorem map_error {α β : Type} {x : Except Stop α} {f : α → β} {stop : Stop}
    (h : x.map f = .error stop) : x = .error stop := by
  cases x with
  | error inner =>
    cases h
    rfl
  | ok a => cases h

theorem scan_error {c : CodePoint} (hc : c.isAsciiDigit = false) {rest : Text} {stop : Stop}
    (h : scan c rest = .error stop) : stop.HasPlace := by
  unfold scan at h
  split_ifs at h with hdouble hsingle hdollar hdigit hname
  · exact quotedFrom_error (map_error h)
  · exact quotedFrom_error (map_error h)
  · exact charLiteral_error h
  · rw [hc] at hdigit
    cases hdigit
  · exact mark_error h

/-- A scan stops without a place exactly at a numeral that is too long. -/
theorem exists_scan_eq_longNumeral_iff {c : CodePoint} {rest : Text} :
    (∃ n, scan c rest = .error (.longNumeral n)) ↔ LongNumeral (c :: rest) := by
  constructor
  · rintro ⟨n, hn⟩
    cases hc : c.isAsciiDigit with
    | false => exact absurd rfl ((scan_error hc hn).ne_longNumeral n)
    | true =>
      obtain ⟨run, after, rfl, hrun, hend⟩ := exists_run isNumberPart rest
      rw [scan_digit hc] at hn
      exact (number_error hc hrun hend hn).resolve_left fun h => h.ne_longNumeral n rfl
  · intro h
    cases h with
    | mk hc hrun hend hlong hfraction =>
      exact ⟨_, (scan_digit hc _).trans (number_of_longNumeral hrun hend hlong hfraction)⟩

/-! ## Whole texts -/

/-- Reading the first text comes to the second one: blanks are skipped and tokens are read. -/
inductive Reaches : Text → Text → Prop where
  | refl (t : Text) : Reaches t t
  | blank {c : CodePoint} {rest u : Text} (hc : Text.isBlank c = true) (h : Reaches rest u) :
    Reaches (c :: rest) u
  | token {c : CodePoint} {rest u : Text} {token : Token} {more : Nat}
    (hc : Text.isBlank c = false) (hscan : scan c rest = .ok (token, more))
    (h : Reaches (rest.drop more) u) : Reaches (c :: rest) u

/-- Reading the text comes to a numeral that is too long. -/
def ReachesLongNumeral (t : Text) : Prop := ∃ u, Reaches t u ∧ LongNumeral u

theorem reachesLongNumeral_of_blank {c : CodePoint} (hc : Text.isBlank c = true) {rest : Text} :
    ReachesLongNumeral (c :: rest) ↔ ReachesLongNumeral rest := by
  constructor
  · rintro ⟨u, hreaches, hlong⟩
    cases hreaches with
    | refl =>
      cases hlong with
      | mk hdigit =>
        rw [not_isBlank_of_isAsciiDigit hdigit] at hc
        cases hc
    | blank _ h => exact ⟨u, h, hlong⟩
    | token hc' =>
      rw [hc] at hc'
      cases hc'
  · rintro ⟨u, h, hlong⟩
    exact ⟨u, .blank hc h, hlong⟩

theorem reachesLongNumeral_of_scan {c : CodePoint} (hc : Text.isBlank c = false) {rest : Text}
    {token : Token} {more : Nat} (hscan : scan c rest = .ok (token, more)) :
    ReachesLongNumeral (c :: rest) ↔ ReachesLongNumeral (rest.drop more) := by
  constructor
  · rintro ⟨u, hreaches, hlong⟩
    cases hreaches with
    | refl =>
      obtain ⟨n, hn⟩ := exists_scan_eq_longNumeral_iff.mpr hlong
      rw [hscan] at hn
      cases hn
    | blank hc' =>
      rw [hc] at hc'
      cases hc'
    | token _ hscan' h =>
      rw [hscan] at hscan'
      cases hscan'
      exact ⟨u, h, hlong⟩
  · rintro ⟨u, h, hlong⟩
    exact ⟨u, .token hc hscan h, hlong⟩

theorem reachesLongNumeral_of_stop {c : CodePoint} (hc : Text.isBlank c = false) {rest : Text}
    {stop : Stop} (hscan : scan c rest = .error stop) :
    ReachesLongNumeral (c :: rest) ↔ LongNumeral (c :: rest) := by
  constructor
  · rintro ⟨u, hreaches, hlong⟩
    cases hreaches with
    | refl => exact hlong
    | blank hc' =>
      rw [hc] at hc'
      cases hc'
    | token _ hscan' =>
      rw [hscan] at hscan'
      cases hscan'
  · intro hlong
    exact ⟨_, .refl _, hlong⟩

theorem exists_shift_eq_longNumeral_iff {stop : Stop} {k : Nat} :
    (∃ n, stop.shift k = .longNumeral n) ↔ ∃ n, stop = .longNumeral n := by
  cases stop with
  | malformed cause distance => simp [Stop.shift]
  | longNumeral digits => simp [Stop.shift]

theorem exists_lexFrom_eq_longNumeral_iff (column : Nat) {t : Text} :
    (∃ n, (lexFrom column t).2 = some (.longNumeral n)) ↔ ReachesLongNumeral t := by
  fun_induction lexFrom column t with
  | case1 column =>
    constructor
    · rintro ⟨n, hn⟩
      cases hn
    · rintro ⟨u, hreaches, hlong⟩
      cases hreaches
      cases hlong
  | case2 column c rest hc ih => rw [ih, reachesLongNumeral_of_blank hc]
  | case3 column c rest hc stop hscan =>
    rw [Bool.not_eq_true] at hc
    rw [reachesLongNumeral_of_stop hc hscan, ← exists_scan_eq_longNumeral_iff, hscan]
    simp only [Option.some.injEq, Except.error.injEq]
    exact exists_shift_eq_longNumeral_iff
  | case4 column c rest hc token more hscan lexemes stop hrest ih =>
    rw [Bool.not_eq_true] at hc
    rw [hrest] at ih
    rw [reachesLongNumeral_of_scan hc hscan]
    exact ih

/-- The end of the text is the last lexeme of a text that is read to its end. -/
theorem exists_eof_of_lexFrom {column : Nat} {t : Text} {lexemes : List Lexeme}
    (h : lexFrom column t = (lexemes, none)) :
    ∃ front last, lexemes = front ++ [last] ∧ last.token = .eof := by
  fun_induction lexFrom column t generalizing lexemes with
  | case1 column =>
    cases h
    exact ⟨[], _, rfl, rfl⟩
  | case2 column c rest hc ih => exact ih h
  | case3 => cases h
  | case4 column c rest hc token more hscan inner stop hrest ih =>
    cases h
    obtain ⟨front, last, rfl, hlast⟩ := ih hrest
    exact ⟨_ :: front, last, rfl, hlast⟩

end Faultline.Term.Lexer

namespace Faultline.Term

theorem exists_eof_of_tokenize {t : Text} {lexemes : List Lexeme} (h : tokenize t = .ok lexemes) :
    ∃ front last, lexemes = front ++ [last] ∧ last.token = .eof := by
  unfold tokenize at h
  split at h
  · next inner hlex =>
    cases h
    exact Lexer.exists_eof_of_lexFrom hlex
  · cases h

/-- There are the tokens of a text, or a column is to blame, unless reading comes to a numeral that
    is too long. -/
theorem settled_tokenize_iff {t : Text} :
    Settled (tokenize t) ↔ ¬ Lexer.ReachesLongNumeral t := by
  rw [← Lexer.exists_lexFrom_eq_longNumeral_iff 1]
  unfold tokenize
  split
  · next lexemes hlex => simp [hlex, Settled]
  · next lexemes stop hlex =>
    cases stop with
    | malformed cause column => simp [hlex, Lexer.Stop.failure, Settled]
    | longNumeral digits => simp [hlex, Lexer.Stop.failure, Settled]

end Faultline.Term
