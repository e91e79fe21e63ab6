import Faultline.Proofs.Number.Numeral
import Faultline.Proofs.Term.Notation
import Faultline.Proofs.Text.Trimming
import Faultline.Term.Lexer
import Mathlib.Data.List.Forall2

/-!
# The tokens of written terms

`Reads t ts rest` says that the text `t`, where `rest` stands behind it, is read as the tokens `ts`.
What stands behind matters, because a numeral or a name takes all that can belong to it; behind a
term that is written down stands nothing or one of the marks of `AtBoundary`, which cannot.

Results:
* `Reads.append`: texts that stand next to each other are read one after the other.
* `quotedFrom_flatten`: what stands between quotes is read part by part.
* `reads_string`, `reads_quotedAtom`: what is between quotes is read as the text that was enclosed.
* `reads_ofNat`: the digits of a number are read as the number, unless there are too many of them
  (`lexFrom_ofNat_of_long`).
* `reads_bareName`: a plain name is read as an atom.
-/

namespace Faultline.Term.Lexer

/-! ## Reading a text in front of another -/

/-- The text `t` is read as the tokens `ts`, and reading goes on with `rest`. -/
def Reads (t : Text) (ts : List Token) (rest : Text) : Prop :=
  ∀ column, ∃ lexemes : List Lexeme, lexemes.map Lexeme.token = ts ∧
    lexFrom column (t ++ rest) =
      (lexemes ++ (lexFrom (column + t.length) rest).1, (lexFrom (column + t.length) rest).2)

theorem reads_nil (rest : Text) : Reads [] [] rest := fun _ => ⟨[], rfl, rfl⟩

theorem Reads.append {t u rest : Text} {ts us : List Token} (ht : Reads t ts (u ++ rest))
    (hu : Reads u us rest) : Reads (t ++ u) (ts ++ us) rest := by
  intro column
  obtain ⟨first, rfl, hfirst⟩ := ht column
  obtain ⟨second, rfl, hsecond⟩ := hu (column + t.length)
  refine ⟨first ++ second, List.map_append, ?_⟩
  rw [List.append_assoc, hfirst, hsecond, List.append_assoc, List.length_append, Nat.add_assoc]

/-- What stops the reading behind a text stops it. -/
theorem Reads.stop_eq {t rest : Text} {ts : List Token} (h : Reads t ts rest) (column : Nat) :
    (lexFrom column (t ++ rest)).2 = (lexFrom (column + t.length) rest).2 := by
  obtain ⟨lexemes, -, hlex⟩ := h column
  rw [hlex]

theorem lexFrom_of_scan {c : CodePoint} {rest : Text} {token : Token} {more : Nat}
    (hblank : Text.isBlank c = false) (hscan : scan c rest = .ok (token, more)) (column : Nat) :
    lexFrom column (c :: rest) =
      (⟨token, column⟩ :: (lexFrom (column + 1 + more) (rest.drop more)).1,
        (lexFrom (column + 1 + more) (rest.drop more)).2) := by
  rw [lexFrom, hblank, hscan]
  rfl

/-- A text that is one token is read as that token. -/
theorem reads_of_scan {c : CodePoint} {t rest : Text} {token : Token}
    (hblank : Text.isBlank c = false) (hscan : scan c (t ++ rest) = .ok (token, t.length)) :
    Reads (c :: t) [token] rest := by
  intro column
  refine ⟨[⟨token, column⟩], rfl, ?_⟩
  rw [List.cons_append, lexFrom_of_scan hblank hscan, List.drop_left, List.length_cons,
    Nat.add_assoc, Nat.add_comm 1]
  rfl

/-! ## Marks -/

/-- How a mark is written. -/
def written? : Token → Option Text
  | .braceOpen => some ['{']
  | .braceClose => some ['}']
  | .bracketOpen => some ['[']
  | .bracketClose => some [']']
  | .comma => some [',']
  | .bar => some ['|']
  | .colon => some [':']
  | .slash => some ['/']
  | .minus => some ['-']
  | .binaryOpen => some ['<', '<']
  | .binaryClose => some ['>', '>']
  | _ => none

/-- A mark is read whatever stands behind it. -/
theorem reads_mark (token : Token) {t : Text} (h : written? token = some t) (rest : Text) :
    Reads t [token] rest := by
  cases token with
  | braceOpen | braceClose | bracketOpen | bracketClose | comma | bar | colon | slash
  | minus =>
    cases h
    exact reads_of_scan (t := []) (by decide) (by cases rest <;> rfl)
  | binaryOpen =>
    cases h
    exact reads_of_scan (t := ['<']) (by decide) rfl
  | binaryClose =>
    cases h
    exact reads_of_scan (t := ['>']) (by decide) rfl
  | _ => cases h

/-! ## Quotes -/

theorem backslash_ne_quote {quote : CodePoint} (hquote : quote = '"' ∨ quote = '\'') :
    CodePoint.ofChar '\\' ≠ quote := by
  rcases hquote with rfl | rfl
  · decide
  · decide

/-- Between quotes the text is read as the code point, whatever stands behind it. -/
def ReadsInside (quote c : CodePoint) (t : Text) : Prop :=
  ∀ (rest : Text) (width : Nat) {s : Text} {total : Nat},
    quotedFrom quote (width + t.length) rest = .ok (s, total) →
      quotedFrom quote width (t ++ rest) = .ok (c :: s, total)

theorem readsInside_plain {quote c : CodePoint} (hquote : c ≠ quote) (hbackslash : c ≠ '\\') :
    ReadsInside quote c [c] := by
  intro rest width s total h
  rw [List.length_singleton] at h
  rw [List.singleton_append, quotedFrom, if_neg hquote, if_neg hbackslash, h]

theorem readsInside_escape {quote c : CodePoint} {t : Text}
    (hquote : CodePoint.ofChar '\\' ≠ quote)
    (hescape : ∀ rest, escape (t ++ rest) = .ok (c, t.length)) :
    ReadsInside quote c (CodePoint.ofChar '\\' :: t) := by
  intro rest width s total h
  rw [List.length_cons, Nat.add_comm t.length, ← Nat.add_assoc] at h
  rw [List.cons_append, quotedFrom, if_neg hquote, if_pos rfl, hescape]
  simp only [List.drop_left, h]

/-- What stands between quotes is read part by part, up to the closing quote. -/
theorem quotedFrom_flatten {quote : CodePoint} {t : Text} {parts : List Text}
    (h : List.Forall₂ (ReadsInside quote) t parts) (rest : Text) (width : Nat) :
    quotedFrom quote width (parts.flatten ++ quote :: rest) =
      .ok (t, width + (parts.flatten ++ [quote]).length) := by
  induction h generalizing width with
  | nil =>
    rw [List.flatten_nil, List.nil_append, quotedFrom, if_pos rfl]
    rfl
  | @cons c part t parts hc _ ih =>
    have hread := hc (parts.flatten ++ quote :: rest) width (ih (width + part.length))
    rw [Nat.add_assoc, ← List.length_append] at hread
    rw [List.flatten_cons, List.append_assoc, List.append_assoc, hread]

theorem escape_protected {quote c : CodePoint} (hquote : quote = '"' ∨ quote = '\'')
    (hc : c = '\\' ∨ c = quote) (rest : Text) : escape (c :: rest) = .ok (c, 1) := by
  rcases hc with rfl | rfl
  · rfl
  · rcases hquote with rfl | rfl
    · rfl
    · rfl

theorem readsInside_protect {quote : CodePoint} (hquote : quote = '"' ∨ quote = '\'')
    (c : CodePoint) : ReadsInside quote c (protect quote c) := by
  unfold protect
  split_ifs with hc
  · exact readsInside_escape (backslash_ne_quote hquote) (escape_protected hquote hc)
  · rw [not_or] at hc
    exact readsInside_plain hc.2 hc.1

theorem forall₂_protect {quote : CodePoint} (hquote : quote = '"' ∨ quote = '\'') (t : Text) :
    List.Forall₂ (ReadsInside quote) t (t.map (protect quote)) := by
  rw [List.forall₂_map_right_iff]
  exact List.forall₂_same.mpr fun c _ => readsInside_protect hquote c

/-- Double quotes with what stands between them are a string. -/
theorem scan_string {t : Text} {parts : List Text} (h : List.Forall₂ (ReadsInside '"') t parts)
    (rest : Text) :
    scan '"' (parts.flatten ++ [CodePoint.ofChar '"'] ++ rest) =
      .ok (.string t, (parts.flatten ++ [CodePoint.ofChar '"']).length) := by
  have hquoted := quotedFrom_flatten h rest 0
  rw [Nat.zero_add, List.append_cons] at hquoted
  rw [scan, if_pos rfl, hquoted]
  rfl

/-- Single quotes with what stands between them are an atom. -/
theorem scan_quotedAtom {name : Text} {parts : List Text}
    (h : List.Forall₂ (ReadsInside '\'') name parts) (rest : Text) :
    scan '\'' (parts.flatten ++ [CodePoint.ofChar '\''] ++ rest) =
      .ok (.atom name, (parts.flatten ++ [CodePoint.ofChar '\'']).length) := by
  have hquoted := quotedFrom_flatten h rest 0
  rw [Nat.zero_add, List.append_cons] at hquoted
  rw [scan, if_neg (by decide), if_pos rfl, hquoted]
  rfl

/-- A text between double quotes is read as a string. -/
theorem reads_string (t rest : Text) : Reads (enclose '"' t) [.string t] rest := by
  refine reads_of_scan (by decide) ?_
  rw [List.flatMap_def]
  exact scan_string (forall₂_protect (.inl rfl) t) rest

/-- A name between single quotes is read as an atom. -/
theorem reads_quotedAtom (name rest : Text) : Reads (enclose '\'' name) [.atom name] rest := by
  refine reads_of_scan (by decide) ?_
  rw [List.flatMap_def]
  exact scan_quotedAtom (forall₂_protect (.inr rfl) name) rest

/-! ## Numerals -/

/-- What stands behind a term that is written down: nothing, or a mark that ends it. -/
inductive AtBoundary : Text → Prop where
  | nil : AtBoundary []
  | cons {c : CodePoint} {rest : Text} (h : c ∈ ([',', '|', ']', '}'] : Text)) :
    AtBoundary (c :: rest)

/-- A run ends where nothing more belongs to it. -/
theorem takeWhile_run {p : CodePoint → Bool} {run rest : Text} (hrun : ∀ d ∈ run, p d = true)
    (hend : rest.takeWhile p = []) : (run ++ rest).takeWhile p = run := by
  rw [List.takeWhile_append_of_pos hrun, hend, List.append_nil]

/-- Behind a number stands nothing that belongs to it. -/
def EndsNumber (rest : Text) : Prop :=
  ∀ c ∈ rest.head?, isNumberPart c = false ∧ c ≠ '#' ∧ c ≠ '.'

/-- The marks that stand behind numbers and names and belong to neither. -/
def endMarks : Text := [',', '|', ']', '}', ':', '/', '-', '>']

theorem endsNumber_of_mem {c : CodePoint} (h : c ∈ endMarks) (rest : Text) :
    EndsNumber (c :: rest) := by
  have hall : ∀ d ∈ endMarks, isNumberPart d = false ∧ d ≠ '#' ∧ d ≠ '.' := by decide
  rintro _ ⟨⟩
  exact hall c h

theorem takeWhile_isNamePart_of_mem {c : CodePoint} (h : c ∈ endMarks) (rest : Text) :
    (c :: rest).takeWhile isNamePart = [] := by
  have hall : ∀ d ∈ endMarks, isNamePart d = false := by decide
  rw [List.takeWhile_cons, hall c h]
  rfl

theorem mem_endMarks_of_boundary : ∀ c ∈ ([',', '|', ']', '}'] : Text), c ∈ endMarks := by decide

theorem AtBoundary.endsNumber {rest : Text} (h : AtBoundary rest) : EndsNumber rest := by
  cases h with
  | nil => nofun
  | cons hc => exact endsNumber_of_mem (mem_endMarks_of_boundary _ hc) _

theorem EndsNumber.takeWhile_isNumberPart {rest : Text} (h : EndsNumber rest) :
    rest.takeWhile isNumberPart = [] := by
  cases rest with
  | nil => rfl
  | cons c rest =>
    rw [List.takeWhile_cons, (h c rfl).1]
    rfl

theorem AtBoundary.takeWhile_isNamePart {rest : Text} (h : AtBoundary rest) :
    rest.takeWhile isNamePart = [] := by
  cases h with
  | nil => rfl
  | cons hc => exact takeWhile_isNamePart_of_mem (mem_endMarks_of_boundary _ hc) _

theorem val_of_isAsciiDigit {c : CodePoint} (h : c.isAsciiDigit = true) :
    0x30 ≤ c.val ∧ c.val ≤ 0x39 := by
  simpa [CodePoint.isAsciiDigit] using h

theorem withoutUnderscores_digits {digits : Text} (h : ∀ d ∈ digits, d.isAsciiDigit = true) :
    withoutUnderscores digits = digits := by
  apply List.filter_eq_self.mpr
  intro d hd
  have hval := val_of_isAsciiDigit (h d hd)
  rw [decide_eq_true_eq]
  rintro rfl
  exact absurd hval (by decide)

/-- A run of digits in front of what ends it is a plain integer. -/
theorem number_digits {c : CodePoint} {digits rest : Text}
    (h : ∀ d ∈ digits, d.isAsciiDigit = true) (hrest : EndsNumber rest) :
    number c (digits ++ rest) = plainInteger (c :: digits) digits.length := by
  have hrun : (digits ++ rest).takeWhile isNumberPart = digits := by
    refine takeWhile_run ?_ hrest.takeWhile_isNumberPart
    intro d hd
    rw [isNumberPart, h d hd, Bool.true_or]
  unfold number
  simp only [hrun, List.drop_left, withoutUnderscores_digits h]
  cases rest with
  | nil => rfl
  | cons d rest =>
    obtain ⟨-, hhash, hdot⟩ := hrest d rfl
    cases rest with
    | nil =>
      simp only
      rw [if_neg hhash]
    | cons e rest =>
      simp only
      rw [if_neg hhash, if_neg (fun h => hdot h.1)]

theorem scan_digit {c : CodePoint} (hc : c.isAsciiDigit = true) (rest : Text) :
    scan c rest = number c rest := by
  have hval := val_of_isAsciiDigit hc
  rw [scan, if_neg, if_neg, if_neg, if_pos hc]
  all_goals
    rintro rfl
    exact absurd hval (by decide)

theorem not_isBlank_of_isAsciiDigit {c : CodePoint} (hc : c.isAsciiDigit = true) :
    Text.isBlank c = false := by
  have hval := val_of_isAsciiDigit hc
  exact Text.not_isBlank_of_ascii (by omega) (by omega)

/-- The digits of a number are a plain integer. -/
theorem exists_scan_ofNat (n : Nat) {rest : Text} (hrest : EndsNumber rest) :
    ∃ c digits, Numeral.ofNat n = c :: digits ∧ Text.isBlank c = false ∧
      scan c (digits ++ rest) = plainInteger (c :: digits) digits.length := by
  have hdigits : ∀ d ∈ Numeral.ofNat n, d.isAsciiDigit = true :=
    fun d hd => Numeral.isAsciiDigit_of_mem_ofNat n hd
  cases hcons : Numeral.ofNat n with
  | nil => exact absurd hcons (Numeral.ofNat_ne_nil n)
  | cons c digits =>
    rw [hcons] at hdigits
    obtain ⟨hc, hdigits⟩ := List.forall_mem_cons.mp hdigits
    refine ⟨c, digits, rfl, not_isBlank_of_isAsciiDigit hc, ?_⟩
    rw [scan_digit hc, number_digits hdigits hrest]

/-- The digits of a number are read as the number. -/
theorem reads_ofNat {n : Nat} (hn : (Numeral.ofNat n).length ≤ Numeral.decimalLimit) {rest : Text}
    (hrest : EndsNumber rest) : Reads (Numeral.ofNat n) [.integer n] rest := by
  obtain ⟨c, digits, hcons, hblank, hscan⟩ := exists_scan_ofNat n hrest
  have hvalue := Numeral.decimalValue_ofNat n
  rw [hcons] at hn hvalue ⊢
  refine reads_of_scan hblank ?_
  rw [hscan, plainInteger, if_neg (by omega), hvalue]

/-- Reading stops at a number of too many digits. -/
theorem lexFrom_ofNat_of_long {n : Nat} (hn : Numeral.decimalLimit < (Numeral.ofNat n).length)
    {rest : Text} (hrest : EndsNumber rest) (column : Nat) :
    (lexFrom column (Numeral.ofNat n ++ rest)).2 ≠ none := by
  obtain ⟨c, digits, hcons, hblank, hscan⟩ := exists_scan_ofNat n hrest
  rw [hcons] at hn ⊢
  rw [List.cons_append, lexFrom, hblank, hscan, plainInteger, if_pos hn]
  simp

/-! ## Names -/

theorem not_isBlank_of_isLetter {c : CodePoint} (h : Text.isLetter c = true) :
    Text.isBlank c = false :=
  Text.inRanges_eq_false_of_apart (by decide +kernel) h

theorem le_val_of_isLetter {c : CodePoint} (h : Text.isLetter c = true) : 0x41 ≤ c.val := by
  obtain ⟨r, hr, hfirst, -⟩ := Text.exists_of_inRanges h
  have hall : ∀ r ∈ Text.letterRanges, 0x41 ≤ r.1 := by decide +kernel
  exact Nat.le_trans (hall r hr) hfirst

/-- A plain name is read as an atom. -/
theorem reads_bareName {name : Text} (h : IsBareName name) {rest : Text}
    (hrest : rest.takeWhile isNamePart = []) : Reads name [.atom name] rest := by
  cases h with
  | @mk c more hletter hcase hmore =>
    have hval := le_val_of_isLetter hletter
    have hrun : (more ++ rest).takeWhile isNamePart = more := by
      refine takeWhile_run ?_ hrest
      intro d hd
      rcases hmore d hd with hd | rfl | rfl
      · simp [isNamePart, hd]
      · rfl
      · rfl
    have hname : Lexer.name c (more ++ rest) = (.atom (c :: more), more.length) := by
      have hunderscore : c ≠ '_' := by
        rintro rfl
        exact absurd hletter (by decide)
      unfold Lexer.name
      rw [hrun, hcase, decide_eq_false hunderscore]
      rfl
    have hdigit : c.isAsciiDigit = false := by
      rw [← Bool.not_eq_true]
      intro hdigit
      have := val_of_isAsciiDigit hdigit
      omega
    refine reads_of_scan (not_isBlank_of_isLetter hletter) ?_
    rw [scan, if_neg, if_neg, if_neg, hdigit, hletter, if_neg (by decide), Bool.true_or, if_pos rfl,
      hname]
    all_goals
      rintro rfl
      exact absurd hval (by decide)

end Faultline.Term.Lexer
