import Faultline.Proofs.Term.LongNumeral

/-!
# Where tokens stand

A scan reads no further than its text, and a stop that tells a place tells one inside the text or
right behind it. Columns are added up by `lexFrom` alone, so every lexeme stands at the code point
at which its token begins, and reading may start there as well.

Results:
* `fits_scan`: a scan and its stops stay in the text.
* `exists_drop_of_lexFrom`: a lexeme and those behind it are what is read from its column on.
* `lexFrom_add`: reading that starts further to the right gives the same lexemes further right.
* `tokenize_wellPlaced`: a text whose numerals are short enough is refused with a column, or its
  lexemes stand where their columns say.
-/

namespace Faultline.Term.Lexer

/-! ## Scans stay in the text -/

/-- The place of a stop, if it tells one, is at most this far away. -/
def Stop.IsWithin (bound : Nat) : Stop → Prop
  | .malformed _ distance => distance ≤ bound
  | .longNumeral _ => True

/-- A scan reads at most so many code points, or it stops within a bound. -/
def Fits {α : Type} (length bound : Nat) : Except Stop (α × Nat) → Prop
  | .ok (_, span) => span ≤ length
  | .error stop => stop.IsWithin bound

theorem Stop.IsWithin.mono {stop : Stop} {m n : Nat} (h : stop.IsWithin m) (hmn : m ≤ n) :
    stop.IsWithin n := by
  cases stop with
  | malformed cause distance => exact Nat.le_trans h hmn
  | longNumeral digits => trivial

theorem Stop.IsWithin.shift {stop : Stop} {n : Nat} (h : stop.IsWithin n) (k : Nat) :
    (stop.shift k).IsWithin (k + n) := by
  cases stop with
  | malformed cause distance => exact Nat.add_le_add_left h k
  | longNumeral digits => trivial

theorem Fits.mono {α : Type} {m n bound : Nat} {x : Except Stop (α × Nat)} (h : Fits m bound x)
    (hmn : m ≤ n) : Fits n bound x := by
  cases x with
  | ok found => exact Nat.le_trans h hmn
  | error stop => exact h

theorem Fits.map {α β : Type} {length bound : Nat} {x : Except Stop (α × Nat)}
    (h : Fits length bound x) (f : α → β) :
    Fits length bound (x.map fun (a, span) => (f a, span)) := by
  cases x with
  | ok found => exact h
  | error stop => exact h

theorem length_takeWhile_le (p : CodePoint → Bool) (t : Text) :
    (t.takeWhile p).length ≤ t.length :=
  (List.takeWhile_sublist p).length_le

theorem fits_hexDigits (rest : Text) : Fits rest.length rest.length (hexDigits rest) := by
  have hplain : (rest.take 2).length ≤ rest.length := by
    rw [List.length_take]
    omega
  unfold hexDigits
  cases rest with
  | nil => exact hplain
  | cons c inner =>
    have hinner := length_takeWhile_le (fun (d : CodePoint) => decide (d ≠ '}')) inner
    simp only
    split_ifs with hbrace hopen
    · show 1 + _ ≤ _
      rw [List.length_cons]
      omega
    · show _ + 2 ≤ _
      rw [List.length_cons]
      omega
    · exact hplain

theorem fits_escape (s : Text) : Fits s.length s.length (escape s) := by
  unfold escape
  cases s with
  | nil => exact Nat.le_refl 0
  | cons c rest =>
    simp only
    split_ifs with hoctal hx hcaret
    · have hdigits := length_takeWhile_le isOctalDigit (c :: rest.take 2)
      show _ ≤ _
      rw [List.length_cons, List.length_take] at hdigits
      rw [List.length_cons]
      omega
    · have hhex := fits_hexDigits rest
      cases hdigits : hexDigits rest with
      | error stop =>
        rw [hdigits] at hhex
        have hshift := Stop.IsWithin.shift hhex 1
        rw [Nat.add_comm] at hshift
        exact hshift
      | ok found =>
        obtain ⟨digits, width⟩ := found
        rw [hdigits] at hhex
        have hwidth : 1 + width ≤ (c :: rest).length := by
          rw [List.length_cons, Nat.add_comm]
          exact Nat.succ_le_succ hhex
        simp only
        cases hexValue? digits with
        | none => exact hwidth
        | some value => exact hwidth
    · cases rest with
      | nil => exact Nat.le_refl 1
      | cons d rest =>
        show 2 ≤ _
        simp only [List.length_cons]
        omega
    · show 1 ≤ _
      rw [List.length_cons]
      omega

theorem fits_quotedFrom (quote : CodePoint) (width : Nat) (s : Text) :
    Fits (width + s.length) (width + s.length + 1) (quotedFrom quote width s) := by
  fun_induction quotedFrom quote width s with
  | case1 => exact Nat.zero_le _
  | case2 width inner =>
    show width + 1 ≤ _
    rw [List.length_cons]
    omega
  | case3 width inner stop hescape =>
    have hfits := fits_escape inner
    rw [hescape] at hfits
    refine (Stop.IsWithin.shift hfits (width + 2)).mono ?_
    rw [List.length_cons]
    omega
  | case4 width inner value span hescape stop hrest hspan ih =>
    have hfits := fits_escape inner
    rw [hescape] at hfits
    rw [hrest] at ih
    refine Stop.IsWithin.mono ih ?_
    change span ≤ inner.length at hfits
    rw [List.length_drop, List.length_cons]
    omega
  | case5 width inner value span hescape t total hrest hspan ih =>
    have hfits := fits_escape inner
    rw [hescape] at hfits
    rw [hrest] at ih
    change span ≤ inner.length at hfits
    change total ≤ _ at ih
    show total ≤ _
    rw [List.length_drop] at ih
    rw [List.length_cons]
    omega
  | case6 width c inner hquote hbackslash stop hrest ih =>
    rw [hrest] at ih
    refine Stop.IsWithin.mono ih ?_
    rw [List.length_cons]
    omega
  | case7 width c inner hquote hbackslash t total hrest ih =>
    rw [hrest] at ih
    refine Nat.le_trans ih ?_
    rw [List.length_cons]
    omega

theorem fits_charLiteral (rest : Text) :
    Fits rest.length (rest.length + 1) (charLiteral rest) := by
  unfold charLiteral
  cases rest with
  | nil => exact Nat.zero_le _
  | cons c inner =>
    simp only
    split_ifs with hbackslash
    · have hfits := fits_escape inner
      cases hescape : escape inner with
      | error stop =>
        rw [hescape] at hfits
        refine (Stop.IsWithin.shift hfits 2).mono ?_
        rw [List.length_cons]
        omega
      | ok found =>
        rw [hescape] at hfits
        show 1 + _ ≤ _
        rw [List.length_cons, Nat.add_comm]
        exact Nat.succ_le_succ hfits
    · show 1 ≤ _
      rw [List.length_cons]
      omega

theorem fits_basedInteger (digits : Text) (width : Nat) (rest : Text) (bound : Nat) :
    Fits (width + rest.length) bound (basedInteger digits width rest) := by
  unfold basedInteger
  simp only
  split_ifs with hlong hbase
  · trivial
  · split
    · exact Nat.add_le_add_left (length_takeWhile_le _ rest) width
    · exact Nat.zero_le _
  · exact Nat.zero_le _

theorem fits_plainInteger (digits : Text) (width bound : Nat) :
    Fits width bound (plainInteger digits width) := by
  unfold plainInteger
  split_ifs
  · trivial
  · exact Nat.le_refl width

theorem length_exponentSign (s : Text) :
    (exponentSign s).2.1 + (exponentSign s).2.2.length = s.length := by
  unfold exponentSign
  cases s with
  | nil => rfl
  | cons c rest =>
    simp only
    split_ifs
    · exact Nat.add_comm 1 _
    · exact Nat.add_comm 1 _
    · exact Nat.zero_add _

theorem fits_exponentPart (s : Text) (bound : Nat) : Fits s.length bound (exponentPart s) := by
  unfold exponentPart
  cases s with
  | nil => exact Nat.le_refl 0
  | cons c rest =>
    have hsign := length_exponentSign rest
    simp only
    generalize exponentSign rest = sign at hsign ⊢
    obtain ⟨negative, signWidth, after⟩ := sign
    have hdigits := length_takeWhile_le (·.isAsciiDigit) after
    have hspan : 1 + signWidth + (after.takeWhile (·.isAsciiDigit)).length ≤ (c :: rest).length := by
      change signWidth + after.length = rest.length at hsign
      rw [List.length_cons]
      omega
    by_cases hexponent : c = 'e' ∨ c = 'E'
    · rw [if_pos hexponent]
      by_cases hempty : (after.takeWhile (·.isAsciiDigit)).isEmpty = true
      · simp only [if_pos hempty]
        exact Nat.zero_le _
      · simp only [if_neg hempty]
        exact hspan
    · rw [if_neg hexponent]
      exact Nat.zero_le _

theorem fits_floatLiteral (whole : Text) (width : Nat) (rest : Text) (bound : Nat) :
    Fits (width + rest.length) bound (floatLiteral whole width rest) := by
  have hfraction := length_takeWhile_le isNumberPart rest
  have hexponent := fits_exponentPart (rest.drop (rest.takeWhile isNumberPart).length) bound
  unfold floatLiteral
  simp only
  cases hpart : exponentPart (rest.drop (rest.takeWhile isNumberPart).length) with
  | error stop =>
    rw [hpart] at hexponent
    exact hexponent
  | ok found =>
    obtain ⟨exponent, span⟩ := found
    rw [hpart] at hexponent
    change span ≤ _ at hexponent
    rw [List.length_drop] at hexponent
    show width + _ + span ≤ _
    omega

theorem fits_number (first : CodePoint) (rest : Text) (bound : Nat) :
    Fits rest.length bound (number first rest) := by
  have hlength : (rest.takeWhile isNumberPart).length +
      (rest.drop (rest.takeWhile isNumberPart).length).length = rest.length := by
    have hrun := length_takeWhile_le isNumberPart rest
    rw [List.length_drop]
    omega
  have hplain (digits : Text) (width more : Nat) :
      Fits (width + more) bound (plainInteger digits width) :=
    (fits_plainInteger digits width bound).mono (Nat.le_add_right width more)
  have hnext (width : Nat) (c : CodePoint) (after : Text) :
      width + (c :: after).length = width + 1 + after.length := by
    rw [List.length_cons]
    omega
  unfold number
  simp only
  generalize rest.drop (rest.takeWhile isNumberPart).length = after at hlength
  rw [← hlength]
  match after with
  | [] => exact fits_plainInteger _ _ _
  | [c] =>
    simp only
    split_ifs with hhash
    · rw [hnext]
      exact fits_basedInteger _ _ [] bound
    · exact hplain _ _ _
  | c :: d :: after =>
    simp only
    split_ifs with hhash hpoint
    · rw [hnext]
      exact fits_basedInteger _ _ _ bound
    · rw [hnext]
      exact fits_floatLiteral _ _ _ bound
    · exact hplain _ _ _

theorem fits_mark (c : CodePoint) (rest : Text) (bound : Nat) :
    Fits rest.length bound (mark c rest) := by
  unfold mark
  cases hdouble : rest.head?.bind (doubleMark? c) with
  | some token =>
    cases rest with
    | nil => cases hdouble
    | cons d after => exact Nat.le_add_left 1 after.length
  | none =>
    simp only
    cases singleMark? c with
    | some token => exact Nat.zero_le _
    | none => exact Nat.zero_le _

/-- A scan reads no further than the text, and it stops at one of its code points or right behind
    it. -/
theorem fits_scan (c : CodePoint) (rest : Text) :
    Fits rest.length (rest.length + 1) (scan c rest) := by
  have hquoted := fits_quotedFrom c 0 rest
  rw [Nat.zero_add] at hquoted
  unfold scan
  split_ifs with hdouble hsingle hdollar hdigit hname
  · exact hquoted.map Token.string
  · exact hquoted.map Token.atom
  · exact fits_charLiteral rest
  · exact fits_number c rest _
  · exact length_takeWhile_le isNamePart rest
  · exact fits_mark c rest _

theorem plainInteger_ne_eof {digits : Text} {width span : Nat} :
    plainInteger digits width ≠ .ok (.eof, span) := by
  unfold plainInteger
  split_ifs
  all_goals nofun

theorem basedInteger_ne_eof {digits rest : Text} {width span : Nat} :
    basedInteger digits width rest ≠ .ok (.eof, span) := by
  unfold basedInteger
  simp only
  split_ifs
  · nofun
  · split
    all_goals nofun
  · nofun

theorem floatLiteral_ne_eof {whole rest : Text} {width span : Nat} :
    floatLiteral whole width rest ≠ .ok (.eof, span) := by
  unfold floatLiteral
  simp only
  split
  all_goals nofun

theorem number_ne_eof {first : CodePoint} {rest : Text} {span : Nat} :
    number first rest ≠ .ok (.eof, span) := by
  unfold number
  simp only
  generalize rest.drop (rest.takeWhile isNumberPart).length = after
  match after with
  | [] => exact plainInteger_ne_eof
  | [c] =>
    simp only
    split_ifs
    · exact basedInteger_ne_eof
    · exact plainInteger_ne_eof
  | c :: d :: after =>
    simp only
    split_ifs
    · exact basedInteger_ne_eof
    · exact floatLiteral_ne_eof
    · exact plainInteger_ne_eof

theorem charLiteral_ne_eof {rest : Text} {span : Nat} : charLiteral rest ≠ .ok (.eof, span) := by
  unfold charLiteral
  intro h
  cases rest with
  | nil => cases h
  | cons c inner =>
    simp only at h
    split_ifs at h with hescape
    · cases hescaped : escape inner with
      | error stop =>
        rw [hescaped] at h
        cases h
      | ok found =>
        rw [hescaped] at h
        cases h
    · cases h

theorem mark_ne_eof {c : CodePoint} {rest : Text} {span : Nat} :
    mark c rest ≠ .ok (.eof, span) := by
  have hdouble (d : CodePoint) : doubleMark? c d ≠ some .eof := by
    unfold doubleMark?
    repeat' split
    all_goals nofun
  have hsingle : singleMark? c ≠ some .eof := by
    unfold singleMark?
    repeat' split
    all_goals nofun
  intro h
  unfold mark at h
  split at h
  · next token htoken =>
    cases h
    cases rest with
    | nil => cases htoken
    | cons d after => exact hdouble d htoken
  · split at h
    · next token htoken =>
      cases h
      exact hsingle htoken
    · cases h

/-- The end of a text is no token that a scan reads. -/
theorem scan_ne_eof {c : CodePoint} {rest : Text} {span : Nat} :
    scan c rest ≠ .ok (.eof, span) := by
  unfold scan
  split_ifs
  · cases quotedFrom c 0 rest
    all_goals nofun
  · cases quotedFrom c 0 rest
    all_goals nofun
  · exact charLiteral_ne_eof
  · exact number_ne_eof
  · unfold name
    simp only
    split_ifs
    all_goals nofun
  · exact mark_ne_eof

theorem more_le_of_scan {c : CodePoint} {rest : Text} {token : Token} {more : Nat}
    (h : scan c rest = .ok (token, more)) : more ≤ rest.length := by
  have hfits := fits_scan c rest
  rw [h] at hfits
  exact hfits

/-! ## Columns -/

/-- A lexeme that stands further to the right. -/
def moved (k : Nat) (l : Lexeme) : Lexeme := { l with column := k + l.column }

theorem Stop.shift_shift (j k : Nat) (stop : Stop) : (stop.shift k).shift j = stop.shift (j + k) := by
  cases stop with
  | malformed cause distance =>
    simp only [Stop.shift]
    rw [Nat.add_assoc]
  | longNumeral digits => rfl

/-- Reading that starts further to the right gives the same lexemes further right. -/
theorem lexFrom_add (k column : Nat) (t : Text) :
    lexFrom (k + column) t =
      ((lexFrom column t).1.map (moved k), (lexFrom column t).2.map (Stop.shift k)) := by
  fun_induction lexFrom column t with
  | case1 column =>
    rw [lexFrom]
    simp [moved]
  | case2 column c rest hc ih => rw [lexFrom, if_pos hc, Nat.add_assoc, ih]
  | case3 column c rest hc stop hscan =>
    rw [lexFrom, if_neg hc, hscan]
    simp [Stop.shift_shift]
  | case4 column c rest hc token more hscan lexemes stop hrest ih =>
    rw [hrest, ← Nat.add_assoc, ← Nat.add_assoc] at ih
    rw [lexFrom, if_neg hc, hscan]
    simp [ih, moved]

/-- A stop tells a column of the text or the one behind it. -/
theorem column_of_lexFrom_stop {column : Nat} {t : Text} {cause : Malformed} {place : Nat}
    (h : (lexFrom column t).2 = some (.malformed cause place)) :
    column ≤ place ∧ place ≤ column + t.length := by
  fun_induction lexFrom column t with
  | case1 column => cases h
  | case2 column c rest hc ih =>
    have hplace := ih h
    rw [List.length_cons]
    omega
  | case3 column c rest hc stop hscan =>
    have hfits := fits_scan c rest
    rw [hscan] at hfits
    cases stop with
    | longNumeral digits => cases h
    | malformed cause distance =>
      cases h
      change distance ≤ rest.length + 1 at hfits
      rw [List.length_cons]
      omega
  | case4 column c rest hc token more hscan lexemes stop hrest ih =>
    rw [hrest] at ih
    have hplace := ih h
    have hmore := more_le_of_scan hscan
    rw [List.length_drop] at hplace
    rw [List.length_cons]
    omega

theorem le_column_of_mem_lexFrom {column : Nat} {t : Text} {l : Lexeme}
    (h : l ∈ (lexFrom column t).1) : column ≤ l.column := by
  fun_induction lexFrom column t with
  | case1 column =>
    obtain rfl := List.mem_singleton.mp h
    exact Int.le_refl _
  | case2 column c rest hc ih =>
    have := ih h
    omega
  | case3 => cases h
  | case4 column c rest hc token more hscan lexemes stop hrest ih =>
    rw [hrest] at ih
    rcases List.mem_cons.mp h with rfl | hmem
    · exact Int.le_refl _
    · have := ih hmem
      omega

/-- Columns increase from lexeme to lexeme. -/
theorem pairwise_lexFrom (column : Nat) (t : Text) :
    (lexFrom column t).1.Pairwise fun l m => l.column < m.column := by
  fun_induction lexFrom column t with
  | case1 => exact List.pairwise_singleton _ _
  | case2 column c rest hc ih => exact ih
  | case3 => exact List.Pairwise.nil
  | case4 column c rest hc token more hscan lexemes stop hrest ih =>
    have hcolumn (m : Lexeme) (hm : m ∈ lexemes) : (column + 1 + more : Nat) ≤ m.column := by
      refine le_column_of_mem_lexFrom (t := rest.drop more) ?_
      rwa [hrest]
    rw [hrest] at ih
    refine List.pairwise_cons.mpr ⟨?_, ih⟩
    intro m hm
    have := hcolumn m hm
    simp only
    omega

/-- The first lexeme stands behind the blanks at the head of the text. -/
theorem column_head_lexFrom {column : Nat} {t : Text} {l : Lexeme} {back : List Lexeme}
    (h : (lexFrom column t).1 = l :: back) :
    l.column = (column + (t.takeWhile Text.isBlank).length : Nat) := by
  fun_induction lexFrom column t with
  | case1 column =>
    cases h
    rfl
  | case2 column c rest hc ih =>
    rw [ih h, List.takeWhile_cons, if_pos hc, List.length_cons]
    omega
  | case3 => cases h
  | case4 column c rest hc token more hscan lexemes stop hrest ih =>
    cases h
    rw [List.takeWhile_cons, if_neg hc]
    rfl

/-- A lexeme stands at the code point at which its token begins, or behind the text if it is its
    end, and it and the lexemes behind it are what is read from its column on. -/
theorem exists_drop_of_lexFrom {column : Nat} {t : Text} {front back : List Lexeme} {l : Lexeme}
    (h : lexFrom column t = (front ++ l :: back, none)) :
    ∃ k, l.column = (column + k : Nat) ∧
      ((l.token = .eof ∧ back = [] ∧ k = t.length) ∨
        (l.token ≠ .eof ∧ ∃ c, t[k]? = some c ∧ Text.isBlank c = false)) ∧
      lexFrom (column + k) (t.drop k) = (l :: back, none) := by
  fun_induction lexFrom column t generalizing front with
  | case1 column =>
    have hlexemes := congrArg Prod.fst h
    cases front with
    | nil =>
      cases hlexemes
      refine ⟨0, rfl, .inl ⟨rfl, rfl, rfl⟩, ?_⟩
      rw [List.drop_nil, Nat.add_zero, lexFrom.eq_def]
    | cons f front => simp at hlexemes
  | case2 column c rest hc ih =>
    obtain ⟨k, hcolumn, hplace, hrest⟩ := ih h
    refine ⟨k + 1, ?_, ?_, ?_⟩
    · rw [hcolumn]
      omega
    · rwa [List.length_cons, Nat.add_left_inj, List.getElem?_cons_succ]
    · rw [← hrest, List.drop_succ_cons]
      congr 1
      omega
  | case3 => cases (Prod.mk.inj h).2
  | case4 column c rest hc token more hscan lexemes stop hrest ih =>
    rw [Bool.not_eq_true] at hc
    obtain ⟨hlexemes, rfl⟩ := Prod.mk.inj h
    cases front with
    | nil =>
      obtain ⟨rfl, rfl⟩ := List.cons.inj hlexemes
      refine ⟨0, rfl, .inr ⟨?_, c, rfl, hc⟩, ?_⟩
      · rintro rfl
        exact scan_ne_eof hscan
      · rw [List.drop_zero, Nat.add_zero, lexFrom, if_neg (by rw [hc]; decide), hscan]
        simp only [hrest]
    | cons f front =>
      obtain ⟨-, rfl⟩ := List.cons.inj hlexemes
      obtain ⟨k, hcolumn, hplace, hlex⟩ := ih hrest
      have hmore := more_le_of_scan hscan
      refine ⟨1 + more + k, ?_, ?_, ?_⟩
      · rw [hcolumn]
        omega
      · rw [List.length_drop, List.getElem?_drop] at hplace
        have hindex : (c :: rest)[1 + more + k]? = rest[more + k]? := by
          rw [Nat.add_assoc, Nat.add_comm 1, List.getElem?_cons_succ]
        rw [hindex, List.length_cons]
        refine hplace.imp_left ?_
        rintro ⟨heof, hback, rfl⟩
        exact ⟨heof, hback, by omega⟩
      · rw [← hlex, Nat.add_assoc 1, Nat.add_comm 1, List.drop_succ_cons, List.drop_drop]
        congr 1
        omega

end Faultline.Term.Lexer

namespace Faultline.Term

open Lexer

/-- The lexemes of a text stand where their columns say. -/
structure WellPlaced (t : Text) (lexemes : List Lexeme) : Prop where
  /-- The end of the text is the last lexeme and no other, and it stands right behind the text. -/
  eof_last : ∃ front, lexemes = front ++ [⟨.eof, t.length + 1⟩] ∧ ∀ l ∈ front, l.token ≠ .eof
  increasing : lexemes.Pairwise fun l m => l.column < m.column
  /-- Only blanks stand in front of the first lexeme. -/
  first : lexemes.head?.map Lexeme.column = some ((t.takeWhile Text.isBlank).length + 1 : Int)
  /-- Every token begins at a code point that is no blank. -/
  not_blank : ∀ l ∈ lexemes, l.token ≠ .eof →
    ∃ k c, l.column = (k + 1 : Nat) ∧ t[k]? = some c ∧ Text.isBlank c = false
  /-- What is read from the column of a lexeme on is that lexeme and those behind it. -/
  suffix : ∀ i (h : i < lexemes.length), ∃ k : Nat, lexemes[i].column = (k + 1 : Nat) ∧
    tokenize (t.drop k) = .ok ((lexemes.drop i).map fun l => { l with column := l.column - k })

/-- No run of digits and underscores holds more digits than a numeral may have. -/
def HasShortRuns (t : Text) : Prop :=
  ∀ run, run <:+: t → (∀ c ∈ run, isNumberPart c = true) →
    (run.filter CodePoint.isAsciiDigit).length ≤ Numeral.decimalLimit

theorem isSuffix_of_reaches {t u : Text} (h : Reaches t u) : u <:+ t := by
  induction h with
  | refl t => exact List.suffix_refl t
  | blank hc h ih => exact ih.trans (List.suffix_cons _ _)
  | token hc hscan h ih =>
    exact ih.trans ((List.drop_suffix _ _).trans (List.suffix_cons _ _))

/-- A text without long runs has no numeral that is too long. -/
theorem not_reachesLongNumeral {t : Text} (h : HasShortRuns t) : ¬ ReachesLongNumeral t := by
  rintro ⟨u, hreaches, hlong⟩
  cases hlong with
  | @mk c run rest hc hrun hend hlong hfraction =>
    have hinfix : c :: run <:+: t := by
      refine List.IsInfix.trans ?_ (isSuffix_of_reaches hreaches).isInfix
      exact (List.prefix_append (c :: run) rest).isInfix
    have hpart : isNumberPart c = true := by
      rw [isNumberPart, hc, Bool.true_or]
    have hdigits : withoutUnderscores run = run.filter CodePoint.isAsciiDigit := by
      refine List.filter_congr fun d hd => ?_
      have hpart := hrun d hd
      rw [isNumberPart, Bool.or_eq_true, decide_eq_true_eq] at hpart
      rcases hpart with hdigit | rfl
      · have hunderscore : d ≠ '_' := by
          rintro rfl
          cases hdigit
        rw [hdigit, decide_eq_true hunderscore]
      · rfl
    have hshort := h _ hinfix (List.forall_mem_cons.mpr ⟨hpart, hrun⟩)
    rw [List.filter_cons_of_pos hc, ← hdigits] at hshort
    omega

/-- Lexemes that were moved to the right and back are the same. -/
theorem map_moved_back (k : Nat) (lexemes : List Lexeme) :
    (lexemes.map (moved k)).map (fun l => { l with column := l.column - k }) = lexemes := by
  rw [List.map_map]
  refine List.map_id'' (fun l => ?_) lexemes
  have hcolumn : k + l.column - k = l.column := by omega
  show (⟨l.token, k + l.column - k⟩ : Lexeme) = l
  rw [hcolumn]

/-- A text that is read to its end has the lexemes that are read. -/
theorem tokenize_eq_ok {t : Text} (h : (lexFrom 1 t).2 = none) :
    tokenize t = .ok (lexFrom 1 t).1 := by
  unfold tokenize
  generalize lexFrom 1 t = read at h
  obtain ⟨lexemes, stop⟩ := read
  cases h
  rfl

theorem lexFrom_of_tokenize {t : Text} {lexemes : List Lexeme} (h : tokenize t = .ok lexemes) :
    (lexFrom 1 t).1 = lexemes := by
  unfold tokenize at h
  split at h
  · next hlex =>
    cases h
    rw [hlex]
  · cases h

theorem tokenize_drop {t : Text} {front back : List Lexeme} {l : Lexeme}
    (h : lexFrom 1 t = (front ++ l :: back, none)) :
    ∃ k : Nat, l.column = (k + 1 : Nat) ∧ tokenize (t.drop k) =
      .ok ((l :: back).map fun l => { l with column := l.column - k }) := by
  obtain ⟨k, hcolumn, -, hlex⟩ := exists_drop_of_lexFrom h
  rw [Nat.add_comm] at hcolumn hlex
  rw [lexFrom_add] at hlex
  obtain ⟨hlexemes, hstop⟩ := Prod.mk.inj hlex
  refine ⟨k, hcolumn, ?_⟩
  rw [← hlexemes, map_moved_back]
  exact tokenize_eq_ok (Option.map_eq_none_iff.mp hstop)

theorem wellPlaced_of_lexFrom {t : Text} {lexemes : List Lexeme}
    (h : lexFrom 1 t = (lexemes, none)) : WellPlaced t lexemes where
  eof_last := by
    obtain ⟨front, last, rfl, hlast⟩ := exists_eof_of_lexFrom h
    obtain ⟨k, hcolumn, hplace, -⟩ := exists_drop_of_lexFrom h
    obtain ⟨-, -, rfl⟩ := hplace.resolve_right fun hplace => hplace.1 hlast
    refine ⟨front, ?_, ?_⟩
    · obtain ⟨token, column⟩ := last
      cases hlast
      simp only at hcolumn
      rw [hcolumn, Nat.add_comm]
      rfl
    · intro l hl heof
      obtain ⟨before, after, rfl⟩ := List.append_of_mem hl
      rw [List.append_assoc, List.cons_append] at h
      obtain ⟨k, -, hplace, -⟩ := exists_drop_of_lexFrom h
      obtain ⟨-, hback, -⟩ := hplace.resolve_right fun hplace => hplace.1 heof
      simp at hback
  increasing := by
    have hcolumns := pairwise_lexFrom 1 t
    rwa [h] at hcolumns
  first := by
    cases lexemes with
    | nil =>
      obtain ⟨front, last, hnil, -⟩ := exists_eof_of_lexFrom h
      simp at hnil
    | cons l back =>
      have hcolumn := column_head_lexFrom (congrArg Prod.fst h)
      rw [List.head?_cons, Option.map_some, hcolumn, Nat.add_comm, Int.natCast_add]
      rfl
  not_blank := by
    intro l hl htoken
    obtain ⟨front, back, rfl⟩ := List.append_of_mem hl
    obtain ⟨k, hcolumn, hplace, -⟩ := exists_drop_of_lexFrom h
    obtain ⟨-, c, hc, hblank⟩ := hplace.resolve_left fun hplace => htoken hplace.1
    refine ⟨k, c, ?_, hc, hblank⟩
    rw [hcolumn, Nat.add_comm]
  suffix := by
    intro i hi
    rw [← List.take_append_drop i lexemes, List.drop_eq_getElem_cons hi] at h
    rw [List.drop_eq_getElem_cons hi]
    exact tokenize_drop h

theorem wellPlaced_of_tokenize {t : Text} {lexemes : List Lexeme} (h : tokenize t = .ok lexemes) :
    WellPlaced t lexemes := by
  unfold tokenize at h
  split at h
  · next inner hlex =>
    cases h
    exact wellPlaced_of_lexFrom hlex
  · cases h

/-- A text whose numerals are short enough is refused with a message that tells one of its columns
    or the one behind it, or it has lexemes that stand where their columns say. -/
theorem tokenize_wellPlaced {t : Text} (h : HasShortRuns t) :
    (∃ message : Text, ∃ column : Nat, tokenize t = .error (.decode ⟨message, t, some column⟩) ∧
      1 ≤ column ∧ column ≤ t.length + 1) ∨
    ∃ lexemes, tokenize t = .ok lexemes ∧ WellPlaced t lexemes := by
  have hlong := mt (exists_lexFrom_eq_longNumeral_iff 1).mp (not_reachesLongNumeral h)
  unfold tokenize
  cases hlex : lexFrom 1 t with
  | mk lexemes stop =>
    cases stop with
    | none => exact .inr ⟨lexemes, rfl, wellPlaced_of_lexFrom hlex⟩
    | some stop =>
      cases stop with
      | longNumeral digits => exact absurd ⟨digits, congrArg Prod.snd hlex⟩ hlong
      | malformed cause place =>
        obtain ⟨hlow, hhigh⟩ := column_of_lexFrom_stop (congrArg Prod.snd hlex)
        exact .inl ⟨cause.message, place, rfl, hlow, by omega⟩

/-- Tokens behind blanks, and a numeral that an underscore divides. -/
theorem tokenize_wellPlaced_tokens :
    HasShortRuns (text " [ab,\n1_0]") ∧
    tokenize (text " [ab,\n1_0]") = .ok [⟨.bracketOpen, 2⟩, ⟨.atom (text "ab"), 3⟩, ⟨.comma, 5⟩,
      ⟨.integer 10, 7⟩, ⟨.bracketClose, 10⟩, ⟨.eof, 11⟩] ∧
    WellPlaced (text " [ab,\n1_0]") [⟨.bracketOpen, 2⟩, ⟨.atom (text "ab"), 3⟩, ⟨.comma, 5⟩,
      ⟨.integer 10, 7⟩, ⟨.bracketClose, 10⟩, ⟨.eof, 11⟩] := by
  have hshort : HasShortRuns (text " [ab,\n1_0]") := by
    intro run hrun hparts
    have hlength : run.length ≤ 10 := hrun.length_le
    have hfilter := List.length_filter_le CodePoint.isAsciiDigit run
    have hlimit : 10 ≤ Numeral.decimalLimit := by decide
    omega
  have hread : tokenize (text " [ab,\n1_0]") = .ok [⟨.bracketOpen, 2⟩, ⟨.atom (text "ab"), 3⟩,
      ⟨.comma, 5⟩, ⟨.integer 10, 7⟩, ⟨.bracketClose, 10⟩, ⟨.eof, 11⟩] := by
    have hlexemes : (lexFrom 1 (text " [ab,\n1_0]")).1 = [⟨.bracketOpen, 2⟩,
        ⟨.atom (text "ab"), 3⟩, ⟨.comma, 5⟩, ⟨.integer 10, 7⟩, ⟨.bracketClose, 10⟩,
        ⟨.eof, 11⟩] := by
      decide +kernel
    have hstop : (lexFrom 1 (text " [ab,\n1_0]")).2 = none :=
      Option.isNone_iff_eq_none.mp (by decide +kernel)
    rw [tokenize_eq_ok hstop, hlexemes]
  refine ⟨hshort, hread, ?_⟩
  rcases tokenize_wellPlaced hshort with ⟨message, column, herror, -⟩ | ⟨lexemes, hok, hplaced⟩
  · rw [hread] at herror
    cases herror
  · rw [hread] at hok
    cases hok
    exact hplaced

end Faultline.Term
