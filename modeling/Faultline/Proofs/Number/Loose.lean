import Faultline.Proofs.Number.Positional
import Faultline.Proofs.Text.Trimming

/-!
# Loose spellings of integers

`SpellsLoosely base t n` gives the grammar of the texts that are read as the integer `n` in a base:

```
integer = blank* ["-" | "+"] [mark] digit (["_"] digit)* blank*
mark    = zero letter ["_"]
```

The blanks, the digits and the zero may be of any script, and the letter is one of `markLetters`. A
numeral of the base is such a text, and among the texts of ASCII digits and letters there is just
one other form, the one with a mark.

Results:
* `readInteger?_eq_some_iff`: an integer is read exactly from its loose spellings.
* `spells_iff_spellsLoosely`: which of them are numerals.
-/

namespace Faultline.Numeral

/-! ## Digits and blanks of any script -/

/-- The digits that are read, of any script, and their values. -/
def IsLooseDigit (c : CodePoint) (d : Nat) : Prop :=
  IsDigit c d ∨ 0x80 ≤ c.val ∧ Text.decimalValue? c = some d

/-- The blanks that may surround an integer: those of ASCII without the information separators, and
    all others. -/
def IsOuterBlank (c : CodePoint) : Prop :=
  isAsciiBlank c = true ∨ 0x80 ≤ c.val ∧ Text.isBlank c = true

/-- No blank is a decimal digit. -/
theorem not_isBlank_of_decimalValue? {c : CodePoint} {d : Nat} (h : Text.decimalValue? c = some d) :
    Text.isBlank c = false := by
  obtain ⟨z, hz, -⟩ := Option.map_eq_some_iff.mp h
  have hrange := List.find?_some hz
  simp only [Bool.and_eq_true, decide_eq_true_eq] at hrange
  rw [← Bool.not_eq_true]
  intro hblank
  obtain ⟨r, hr, hfirst, hlast⟩ := Text.exists_of_inRanges hblank
  have hall : ∀ z ∈ Text.decimalZeros, ∀ r ∈ Text.blankRanges, r.2 < z ∨ z + 9 < r.1 := by
    decide +kernel
  have := hall z (List.mem_of_find?_eq_some hz) r hr
  omega

theorem isAsciiBlank_iff {c : CodePoint} :
    isAsciiBlank c = true ↔ (0x09 ≤ c.val ∧ c.val ≤ 0x0D) ∨ c.val = 0x20 := by
  simp [isAsciiBlank]

theorem IsLooseDigit.not_isOuterBlank {c : CodePoint} {d : Nat} (h : IsLooseDigit c d) :
    ¬ IsOuterBlank c := by
  rintro (hblank | ⟨hval, hblank⟩)
  · rw [isAsciiBlank_iff] at hblank
    rcases h with h | ⟨hval, -⟩
    · have := h.val_le
      omega
    · omega
  · rcases h with h | ⟨-, h⟩
    · have := h.val_le
      omega
    · rw [not_isBlank_of_decimalValue? h] at hblank
      cases hblank

theorem IsLooseDigit.unique {c : CodePoint} {d e : Nat} (hd : IsLooseDigit c d)
    (he : IsLooseDigit c e) : d = e := by
  rcases hd with hd | ⟨hval, hd⟩
  · rcases he with he | ⟨hval, -⟩
    · exact hd.unique he
    · have := hd.val_le
      omega
  · rcases he with he | ⟨-, he⟩
    · have := he.val_le
      omega
    · exact Option.some.inj (hd.symm.trans he)

/-! ## ASCII forms -/

/-- The ways in which a code point has an ASCII form. -/
theorem toAscii?_cases {c a : CodePoint} (h : toAscii? c = some a) :
    (c.val < 0x80 ∧ a = c) ∨ (0x80 ≤ c.val ∧ Text.isBlank c = true ∧ a = ' ') ∨
      (0x80 ≤ c.val ∧ ∃ d, Text.decimalValue? c = some d ∧ a = digitSign d) := by
  unfold toAscii? at h
  split_ifs at h with hascii hblank
  · exact .inl ⟨hascii, (Option.some.inj h).symm⟩
  · exact .inr (.inl ⟨by omega, hblank, (Option.some.inj h).symm⟩)
  · obtain ⟨d, hd, rfl⟩ := Option.map_eq_some_iff.mp h
    exact .inr (.inr ⟨by omega, d, hd, rfl⟩)

theorem toAscii?_of_ascii {c : CodePoint} (h : c.val < 0x80) : toAscii? c = some c := if_pos h

theorem exists_toAscii?_of_isLooseDigit {c : CodePoint} {d : Nat} (h : IsLooseDigit c d) :
    ∃ a, toAscii? c = some a := by
  rcases h with h | ⟨hval, h⟩
  · have := h.val_le
    exact ⟨c, toAscii?_of_ascii (by omega)⟩
  · refine ⟨digitSign d, ?_⟩
    rw [toAscii?, if_neg (by omega), not_isBlank_of_decimalValue? h, h]
    rfl

theorem exists_toAscii?_of_isOuterBlank {c : CodePoint} (h : IsOuterBlank c) :
    ∃ a, toAscii? c = some a := by
  rcases h with h | ⟨hval, h⟩
  · rw [isAsciiBlank_iff] at h
    exact ⟨c, toAscii?_of_ascii (by omega)⟩
  · refine ⟨' ', ?_⟩
    rw [toAscii?, if_neg (by omega), if_pos h]

section Forms

variable {c a : CodePoint} (h : toAscii? c = some a)
include h

theorem isDigit_toAscii?_iff {d : Nat} : IsDigit a d ↔ IsLooseDigit c d := by
  rcases toAscii?_cases h with ⟨hval, rfl⟩ | ⟨hval, hblank, rfl⟩ | ⟨hval, v, hv, rfl⟩
  · constructor
    · exact .inl
    · rintro (hd | ⟨hhigh, -⟩)
      · exact hd
      · omega
  · constructor
    · intro hd
      exact absurd hd.val_le (by decide)
    · intro hd
      exact absurd (.inr ⟨hval, hblank⟩) hd.not_isOuterBlank
  · have hten := Text.lt_of_decimalValue? hv
    constructor
    · intro hd
      rw [hd.unique (isDigit_digitSign (by omega))]
      exact .inr ⟨hval, hv⟩
    · rintro (hd | ⟨-, hd⟩)
      · have := hd.val_le
        omega
      · rw [← Option.some.inj (hv.symm.trans hd)]
        exact isDigit_digitSign (by omega)

theorem digitBelow?_toAscii?_iff {base d : Nat} :
    digitBelow? base a = some d ↔ IsLooseDigit c d ∧ d < base := by
  rw [digitBelow?_eq_some_iff, isDigit_toAscii?_iff h]

theorem isAsciiBlank_toAscii?_iff : isAsciiBlank a = true ↔ IsOuterBlank c := by
  rcases toAscii?_cases h with ⟨hval, rfl⟩ | ⟨hval, hblank, rfl⟩ | ⟨hval, v, hv, rfl⟩
  · constructor
    · exact .inl
    · rintro (hblank | ⟨hhigh, -⟩)
      · exact hblank
      · omega
  · exact iff_of_true (by decide) (.inr ⟨hval, hblank⟩)
  · have hten := Text.lt_of_decimalValue? hv
    refine iff_of_false ?_ (IsLooseDigit.not_isOuterBlank (.inr ⟨hval, hv⟩))
    rw [isAsciiBlank_iff, val_digitSign hten]
    omega

/-- An ASCII code point that is neither a space nor a decimal digit is the form of itself only. -/
theorem toAscii?_eq_iff {e : CodePoint}
    (he : e ≠ ' ' ∧ e.isAsciiDigit = false ∧ e.val < 0x80) : a = e ↔ c = e := by
  obtain ⟨hspace, hdigit, hascii⟩ := he
  rcases toAscii?_cases h with ⟨hval, rfl⟩ | ⟨hval, hblank, rfl⟩ | ⟨hval, v, hv, rfl⟩
  · exact Iff.rfl
  · refine iff_of_false (fun he => hspace he.symm) ?_
    rintro rfl
    omega
  · have hten := Text.lt_of_decimalValue? hv
    refine iff_of_false ?_ ?_
    · rintro rfl
      rw [isAsciiDigit_digitSign hten] at hdigit
      cases hdigit
    · rintro rfl
      omega

theorem toAscii?_eq_zero_iff : a = '0' ↔ IsLooseDigit c 0 := by
  rw [← isDigit_toAscii?_iff h]
  constructor
  · rintro rfl
    exact .decimal (by decide) rfl
  · intro hzero
    generalize hd : 0 = d at hzero
    cases hzero with
    | decimal hten hc =>
      ext
      rw [hc, ← hd]
      rfl
    | lower | upper => omega

end Forms

/-! ## Digits and underscores -/

/-- Digits below the base with single underscores between them. -/
inductive Grouped (base : Nat) : Text → List Nat → Prop where
  | last {c : CodePoint} {d : Nat} (hc : IsLooseDigit c d) (hd : d < base) : Grouped base [c] [d]
  | next {c : CodePoint} {d : Nat} (hc : IsLooseDigit c d) (hd : d < base) {t : Text}
    {ds : List Nat} (h : Grouped base t ds) : Grouped base (c :: t) (d :: ds)
  | apart {c : CodePoint} {d : Nat} (hc : IsLooseDigit c d) (hd : d < base) {t : Text}
    {ds : List Nat} (h : Grouped base t ds) : Grouped base (c :: CodePoint.ofChar '_' :: t) (d :: ds)

/-- Each code point of the second text is the ASCII form of the one of the first. -/
def AsciiForms (t ascii : Text) : Prop := List.Forall₂ (fun c a => toAscii? c = some a) t ascii

theorem mapM_toAscii?_eq_some_iff {t ascii : Text} :
    t.mapM toAscii? = some ascii ↔ AsciiForms t ascii := by
  induction t generalizing ascii with
  | nil =>
    simp only [List.mapM_nil, AsciiForms, List.forall₂_nil_left_iff]
    exact ⟨fun h => (Option.some.inj h).symm, fun h => congrArg some h.symm⟩
  | cons c t ih =>
    simp only [List.mapM_cons, AsciiForms, List.forall₂_cons_left_iff]
    constructor
    · intro h
      obtain ⟨a, ha, h⟩ := Option.bind_eq_some_iff.mp h
      obtain ⟨as, has, h⟩ := Option.bind_eq_some_iff.mp h
      exact ⟨a, as, ha, ih.mp has, (Option.some.inj h).symm⟩
    · rintro ⟨a, as, ha, has, rfl⟩
      rw [ha, ih.mpr has]
      rfl

theorem AsciiForms.append {t u ts us : Text} (ht : AsciiForms t ts) (hu : AsciiForms u us) :
    AsciiForms (t ++ u) (ts ++ us) := List.rel_append ht hu

theorem AsciiForms.exists_append {t ts us : Text} (h : AsciiForms t (ts ++ us)) :
    ∃ front back, t = front ++ back ∧ AsciiForms front ts ∧ AsciiForms back us :=
  ⟨_, _, (List.take_append_drop ts.length t).symm, List.forall₂_take_append t ts us h,
    List.forall₂_drop_append t ts us h⟩

theorem AsciiForms.exists_append_left {t u ascii : Text} (h : AsciiForms (t ++ u) ascii) :
    ∃ front back, AsciiForms t front ∧ AsciiForms u back ∧ ascii = front ++ back := by
  have hflip := h.flip
  exact ⟨_, _, (List.forall₂_take_append ascii t u hflip).flip,
    (List.forall₂_drop_append ascii t u hflip).flip, (List.take_append_drop t.length ascii).symm⟩

theorem exists_asciiForms {t : Text} (h : ∀ c ∈ t, ∃ a, toAscii? c = some a) :
    ∃ ascii, AsciiForms t ascii := by
  induction t with
  | nil => exact ⟨[], .nil⟩
  | cons c t ih =>
    obtain ⟨⟨a, ha⟩, ht⟩ := List.forall_mem_cons.mp h
    obtain ⟨ascii, hascii⟩ := ih ht
    exact ⟨a :: ascii, .cons ha hascii⟩

theorem not_isLooseDigit_underscore {d : Nat} : ¬ IsLooseDigit (CodePoint.ofChar '_') d := by
  rintro (h | ⟨hval, -⟩)
  · rw [← digitValue?_eq_some_iff] at h
    cases h
  · exact absurd hval (by decide)

theorem Grouped.exists_cons {base : Nat} {t : Text} {ds : List Nat} (h : Grouped base t ds) :
    ∃ c d rest, t = c :: rest ∧ IsLooseDigit c d := by
  cases h with
  | last hc | next hc | apart hc => exact ⟨_, _, _, rfl, hc⟩

theorem groupedDigits?_eq_some_iff {base : Nat} {t ascii : Text} (h : AsciiForms t ascii)
    {ds : List Nat} : groupedDigits? base ascii = some ds ↔ Grouped base t ds := by
  fun_induction groupedDigits? base ascii generalizing t ds with
  | case1 =>
    cases h
    exact iff_of_false nofun nofun
  | case2 a =>
    obtain ⟨c, t, hc, ht, rfl⟩ := List.forall₂_cons_right_iff.mp h
    cases ht
    rw [Option.map_eq_some_iff]
    constructor
    · rintro ⟨d, hd, rfl⟩
      rw [digitBelow?_toAscii?_iff hc] at hd
      exact .last hd.1 hd.2
    · intro hgrouped
      cases hgrouped with
      | last hloose hd => exact ⟨_, (digitBelow?_toAscii?_iff hc).mpr ⟨hloose, hd⟩, rfl⟩
      | next _ _ hrest => cases hrest
  | case3 a b rest hnone =>
    obtain ⟨c, t, hc, -, rfl⟩ := List.forall₂_cons_right_iff.mp h
    refine iff_of_false nofun fun hgrouped => ?_
    obtain ⟨d, hloose, hd⟩ : ∃ d, IsLooseDigit c d ∧ d < base := by
      cases hgrouped with
      | last hloose hd | next hloose hd | apart hloose hd => exact ⟨_, hloose, hd⟩
    rw [(digitBelow?_toAscii?_iff hc).mpr ⟨hloose, hd⟩] at hnone
    cases hnone
  | case4 a rest v hv ih =>
    -- an underscore behind a digit goes with it, so the next code point cannot be a digit
    obtain ⟨c, t, hc, hrest, rfl⟩ := List.forall₂_cons_right_iff.mp h
    obtain ⟨e, t, he, ht, rfl⟩ := List.forall₂_cons_right_iff.mp hrest
    obtain rfl := (toAscii?_eq_iff he (by decide)).mp rfl
    rw [digitBelow?_toAscii?_iff hc] at hv
    rw [Option.map_eq_some_iff]
    constructor
    · rintro ⟨ds, hds, rfl⟩
      exact .apart hv.1 hv.2 ((ih ht).mp hds)
    · intro hgrouped
      cases hgrouped with
      | next _ _ hrest =>
        obtain ⟨_, _, _, hcons, hloose⟩ := hrest.exists_cons
        obtain ⟨rfl, -⟩ := List.cons.inj hcons
        exact absurd hloose not_isLooseDigit_underscore
      | apart hloose hd hrest =>
        refine ⟨_, (ih ht).mpr hrest, ?_⟩
        rw [hv.1.unique hloose]
  | case5 a b rest v hv hb ih =>
    obtain ⟨c, t, hc, ht, rfl⟩ := List.forall₂_cons_right_iff.mp h
    rw [digitBelow?_toAscii?_iff hc] at hv
    rw [Option.map_eq_some_iff]
    constructor
    · rintro ⟨ds, hds, rfl⟩
      exact .next hv.1 hv.2 ((ih ht).mp hds)
    · intro hgrouped
      cases hgrouped with
      | last => cases ht
      | next hloose hd hrest =>
        refine ⟨_, (ih ht).mpr hrest, ?_⟩
        rw [hv.1.unique hloose]
      | apart =>
        obtain ⟨e, t, he, -, hcons⟩ := List.forall₂_cons_right_iff.mp ht
        obtain ⟨rfl, -⟩ := List.cons.inj hcons
        exact absurd ((toAscii?_eq_iff he (by decide)).mpr rfl) hb

/-! ## Marks -/

/-- The mark of a base, with the underscore that may follow it, or nothing. -/
inductive IsMark (base : Nat) : Text → Prop where
  | none : IsMark base []
  | plain {z letter : CodePoint} (hz : IsLooseDigit z 0) (hletter : letter ∈ markLetters base) :
    IsMark base [z, letter]
  | apart {z letter : CodePoint} (hz : IsLooseDigit z 0) (hletter : letter ∈ markLetters base) :
    IsMark base [z, letter, CodePoint.ofChar '_']

/-- The letters of marks are ASCII letters, and no digits of their bases. -/
theorem of_mem_markLetters {base : Nat} {letter : CodePoint} (h : letter ∈ markLetters base) :
    isAsciiBlank letter = false ∧ letter ≠ '_' ∧ letter.isAsciiDigit = false ∧ letter.val < 0x80 ∧
      digitBelow? base letter = none := by
  unfold markLetters at h
  split_ifs at h with h16 h8 h2
  · subst h16
    revert letter
    decide
  · subst h8
    revert letter
    decide
  · subst h2
    revert letter
    decide
  · cases h

theorem not_isLooseDigit_of_mem_markLetters {base d : Nat} {letter : CodePoint}
    (h : letter ∈ markLetters base) (hd : IsLooseDigit letter d) : base ≤ d := by
  obtain ⟨-, -, -, hascii, hnone⟩ := of_mem_markLetters h
  by_contra hlt
  rw [(digitBelow?_toAscii?_iff (toAscii?_of_ascii hascii)).mpr ⟨hd, by omega⟩] at hnone
  cases hnone

theorem toAscii?_mark_iff {base : Nat} {c a letter : CodePoint} (hc : toAscii? c = some a)
    (hletter : letter ∈ markLetters base) : a = letter ↔ c = letter := by
  obtain ⟨hblank, -, hdigit, hascii, -⟩ := of_mem_markLetters hletter
  refine toAscii?_eq_iff hc ⟨?_, hdigit, hascii⟩
  rintro rfl
  cases hblank

/-- Digits do not begin with a mark. -/
theorem Grouped.not_mem_markLetters {base : Nat} {c letter : CodePoint} {rest : Text}
    {ds : List Nat} (h : Grouped base (c :: letter :: rest) ds) : letter ∉ markLetters base := by
  intro hletter
  cases h with
  | next _ _ htail =>
    cases htail with
    | last hc hd | next hc hd | apart hc hd =>
      have := not_isLooseDigit_of_mem_markLetters hletter hc
      omega
  | apart => exact (of_mem_markLetters hletter).2.1 rfl

/-- What is taken off is a mark or nothing. -/
theorem AsciiForms.exists_mark {t ascii : Text} (h : AsciiForms t ascii) (base : Nat) :
    ∃ mark body, t = mark ++ body ∧ IsMark base mark ∧ AsciiForms body (withoutMark base ascii) := by
  unfold withoutMark
  split
  next z letter rest =>
    split_ifs with hmark
    · obtain ⟨rfl, hletter⟩ := hmark
      obtain ⟨c, t, hc, hrest, rfl⟩ := List.forall₂_cons_right_iff.mp h
      obtain ⟨e, t, he, ht, rfl⟩ := List.forall₂_cons_right_iff.mp hrest
      have hz := (toAscii?_eq_zero_iff hc).mp rfl
      obtain rfl := (toAscii?_mark_iff he hletter).mp rfl
      cases ht with
      | nil => exact ⟨_, [], rfl, .plain hz hletter, .nil⟩
      | cons hg ht =>
        dsimp only
        split_ifs with hunderscore
        · obtain rfl := (toAscii?_eq_iff hg (by decide)).mp hunderscore
          exact ⟨_, _, rfl, .apart hz hletter, ht⟩
        · exact ⟨_, _, rfl, .plain hz hletter, .cons hg ht⟩
    · exact ⟨[], t, rfl, .none, h⟩
  next => exact ⟨[], t, rfl, .none, h⟩

/-- Just the mark in front of digits is taken off. -/
theorem Grouped.withoutMark {base : Nat} {mark body forms ascii : Text} {ds : List Nat}
    (hbody : Grouped base body ds) (hmark : IsMark base mark) (hforms : AsciiForms mark forms)
    (hascii : AsciiForms body ascii) : withoutMark base (forms ++ ascii) = ascii := by
  obtain ⟨c, d, rest, rfl, hc⟩ := hbody.exists_cons
  obtain ⟨a, ascii, ha, hrest, rfl⟩ := List.forall₂_cons_left_iff.mp hascii
  have hunderscore : a ≠ CodePoint.ofChar '_' := by
    rintro rfl
    obtain rfl := (toAscii?_eq_iff ha (by decide)).mp rfl
    exact not_isLooseDigit_underscore hc
  have hplain : ∀ {z letter : CodePoint}, IsLooseDigit z 0 → letter ∈ markLetters base →
      ∀ {a b : CodePoint}, toAscii? z = some a → toAscii? letter = some b →
        a = '0' ∧ b ∈ markLetters base := by
    intro z letter hz hletter a b ha hb
    rw [(toAscii?_mark_iff hb hletter).mpr rfl]
    exact ⟨(toAscii?_eq_zero_iff ha).mpr hz, hletter⟩
  cases hmark with
  | none =>
    -- behind a leading zero stands a digit of the base, which is no letter of its mark
    cases hforms
    unfold Numeral.withoutMark
    split
    next z letter tail hcons =>
      refine if_neg ?_
      rintro ⟨-, hletter⟩
      obtain ⟨rfl, rfl⟩ := List.cons.inj hcons
      obtain ⟨e, rest, he, -, rfl⟩ := List.forall₂_cons_right_iff.mp hrest
      obtain rfl := (toAscii?_mark_iff he hletter).mp rfl
      exact hbody.not_mem_markLetters hletter
    next => rfl
  | plain hz hletter =>
    obtain _ | ⟨hzero, _ | ⟨hb, _ | _⟩⟩ := hforms
    exact (if_pos (hplain hz hletter hzero hb)).trans (if_neg hunderscore)
  | apart hz hletter =>
    obtain _ | ⟨hzero, _ | ⟨hb, _ | ⟨hu, _ | _⟩⟩⟩ := hforms
    refine (if_pos (hplain hz hletter hzero hb)).trans (if_pos ?_)
    exact (toAscii?_eq_iff hu (by decide)).mpr rfl

theorem groupedDigits?_withoutMark_eq_some_iff {base : Nat} {t ascii : Text}
    (h : AsciiForms t ascii) {ds : List Nat} :
    groupedDigits? base (withoutMark base ascii) = some ds ↔
      ∃ mark body, t = mark ++ body ∧ IsMark base mark ∧ Grouped base body ds := by
  constructor
  · intro hds
    obtain ⟨mark, body, rfl, hmark, hbody⟩ := h.exists_mark base
    exact ⟨mark, body, rfl, hmark, (groupedDigits?_eq_some_iff hbody).mp hds⟩
  · rintro ⟨mark, body, rfl, hmark, hbody⟩
    obtain ⟨forms, ascii, hforms, hascii, rfl⟩ := h.exists_append_left
    rw [hbody.withoutMark hmark hforms hascii]
    exact (groupedDigits?_eq_some_iff hascii).mpr hbody

/-! ## Signs -/

/-- The number that digits behind an optional mark spell. -/
def readMagnitude? (base : Nat) (ascii : Text) : Option Int :=
  (groupedDigits? base (withoutMark base ascii)).map fun ds => Int.ofNat (ofDigits base ds)

/-- The integer that an optional sign and a number spell. -/
def readSigned? (base : Nat) (ascii : Text) : Option Int :=
  match ascii with
  | [] => none
  | c :: rest =>
    if c = '-' then (readMagnitude? base rest).map (- ·)
    else if c = '+' then readMagnitude? base rest
    else readMagnitude? base (c :: rest)

theorem readInteger?_eq (base : Nat) (t : Text) :
    readInteger? base t = (t.mapM toAscii?).bind fun ascii =>
      readSigned? base ((ascii.dropWhile isAsciiBlank).rdropWhile isAsciiBlank) := by
  unfold readInteger?
  cases t.mapM toAscii? <;> rfl

/-- The text is a number with an optional mark. -/
def SpellsMagnitude (base : Nat) (t : Text) (n : Int) : Prop :=
  ∃ mark body ds, t = mark ++ body ∧ IsMark base mark ∧ Grouped base body ds ∧
    n = Nat.ofDigits base ds.reverse

theorem readMagnitude?_eq_some_iff {base : Nat} {t ascii : Text} (h : AsciiForms t ascii)
    {n : Int} : readMagnitude? base ascii = some n ↔ SpellsMagnitude base t n := by
  unfold readMagnitude? SpellsMagnitude
  rw [Option.map_eq_some_iff]
  constructor
  · rintro ⟨ds, hds, rfl⟩
    obtain ⟨mark, body, ht, hmark, hbody⟩ := (groupedDigits?_withoutMark_eq_some_iff h).mp hds
    exact ⟨mark, body, ds, ht, hmark, hbody, congrArg Int.ofNat (ofDigits_eq base ds)⟩
  · rintro ⟨mark, body, ds, ht, hmark, hbody, rfl⟩
    exact ⟨ds, (groupedDigits?_withoutMark_eq_some_iff h).mpr ⟨mark, body, ht, hmark, hbody⟩,
      congrArg Int.ofNat (ofDigits_eq base ds)⟩

/-- A number begins with a digit. -/
theorem SpellsMagnitude.exists_cons {base : Nat} {t : Text} {n : Int}
    (h : SpellsMagnitude base t n) : ∃ c d rest, t = c :: rest ∧ IsLooseDigit c d := by
  obtain ⟨mark, body, ds, rfl, hmark, hbody, -⟩ := h
  cases hmark with
  | none => exact hbody.exists_cons
  | plain hz | apart hz => exact ⟨_, _, _, rfl, hz⟩

theorem SpellsMagnitude.isLooseDigit_head {base : Nat} {c : CodePoint} {t : Text} {n : Int}
    (h : SpellsMagnitude base (c :: t) n) : ∃ d, IsLooseDigit c d := by
  obtain ⟨_, d, _, hcons, hd⟩ := h.exists_cons
  rw [(List.cons.inj hcons).1]
  exact ⟨d, hd⟩

theorem not_isLooseDigit_sign : (¬ ∃ d, IsLooseDigit (CodePoint.ofChar '-') d) ∧
    ¬ ∃ d, IsLooseDigit (CodePoint.ofChar '+') d := by
  constructor
  all_goals
    rintro ⟨d, h | ⟨hval, -⟩⟩
    · exact absurd h.val_le (by decide)
    · exact absurd hval (by decide)

/-- The text is a number with an optional sign. -/
inductive SpellsSigned (base : Nat) : Text → Int → Prop where
  | bare {t : Text} {n : Int} (h : SpellsMagnitude base t n) : SpellsSigned base t n
  | plus {t : Text} {n : Int} (h : SpellsMagnitude base t n) :
    SpellsSigned base (CodePoint.ofChar '+' :: t) n
  | minus {t : Text} {n : Int} (h : SpellsMagnitude base t n) :
    SpellsSigned base (CodePoint.ofChar '-' :: t) (-n)

theorem readSigned?_eq_some_iff {base : Nat} {t ascii : Text} (h : AsciiForms t ascii) {n : Int} :
    readSigned? base ascii = some n ↔ SpellsSigned base t n := by
  cases h with
  | nil =>
    refine iff_of_false nofun ?_
    intro hsigned
    cases hsigned with
    | bare hbare =>
      obtain ⟨_, _, _, hcons, -⟩ := hbare.exists_cons
      cases hcons
  | cons hc ht =>
    unfold readSigned?
    dsimp only
    split_ifs with hminus hplus
    · obtain rfl := (toAscii?_eq_iff hc (by decide)).mp hminus
      rw [Option.map_eq_some_iff]
      constructor
      · rintro ⟨m, hm, rfl⟩
        exact .minus ((readMagnitude?_eq_some_iff ht).mp hm)
      · intro hsigned
        cases hsigned with
        | bare hbare => exact absurd hbare.isLooseDigit_head not_isLooseDigit_sign.1
        | minus hm => exact ⟨_, (readMagnitude?_eq_some_iff ht).mpr hm, rfl⟩
    · obtain rfl := (toAscii?_eq_iff hc (by decide)).mp hplus
      rw [readMagnitude?_eq_some_iff ht]
      constructor
      · exact .plus
      · intro hsigned
        cases hsigned with
        | bare hbare => exact absurd hbare.isLooseDigit_head not_isLooseDigit_sign.2
        | plus hm => exact hm
    · rw [readMagnitude?_eq_some_iff (.cons hc ht)]
      constructor
      · exact .bare
      · rintro (hbare | _ | _)
        · exact hbare
        · exact absurd ((toAscii?_eq_iff hc (by decide)).mpr rfl) hplus
        · exact absurd ((toAscii?_eq_iff hc (by decide)).mpr rfl) hminus

/-! ## Blanks around an integer -/

theorem AsciiForms.forall_isOuterBlank_iff {t ascii : Text} (h : AsciiForms t ascii) :
    (∀ c ∈ t, IsOuterBlank c) ↔ ∀ a ∈ ascii, isAsciiBlank a = true := by
  induction h with
  | nil => simp
  | cons hc _ ih => simp only [List.forall_mem_cons, ih, isAsciiBlank_toAscii?_iff hc]

theorem AsciiForms.exists_core {t ascii : Text} (h : AsciiForms t ascii) :
    ∃ before core after, t = before ++ core ++ after ∧ (∀ c ∈ before, IsOuterBlank c) ∧
      AsciiForms core ((ascii.dropWhile isAsciiBlank).rdropWhile isAsciiBlank) ∧
      ∀ c ∈ after, IsOuterBlank c := by
  rw [← Text.trimmed_split isAsciiBlank ascii] at h
  obtain ⟨before, rest, rfl, hbefore, hrest⟩ := h.exists_append
  obtain ⟨core, after, rfl, hcore, hafter⟩ := hrest.exists_append
  exact ⟨before, core, after, (List.append_assoc ..).symm,
    hbefore.forall_isOuterBlank_iff.mpr fun a ha => List.mem_takeWhile_imp ha, hcore,
    hafter.forall_isOuterBlank_iff.mpr fun a ha => List.mem_rtakeWhile_imp ha⟩

/-- The code points of an integer without the blanks around it: digits, and others of ASCII. -/
def IsInner (c : CodePoint) : Prop :=
  (∃ d, IsLooseDigit c d) ∨ c.val < 0x80 ∧ isAsciiBlank c = false

theorem IsInner.exists_toAscii? {c : CodePoint} (h : IsInner c) :
    ∃ a, toAscii? c = some a ∧ isAsciiBlank a = false := by
  rcases h with ⟨d, hd⟩ | ⟨hascii, hblank⟩
  · obtain ⟨a, ha⟩ := exists_toAscii?_of_isLooseDigit hd
    refine ⟨a, ha, ?_⟩
    rw [← Bool.not_eq_true, isAsciiBlank_toAscii?_iff ha]
    exact hd.not_isOuterBlank
  · exact ⟨c, toAscii?_of_ascii hascii, hblank⟩

theorem Grouped.isInner {base : Nat} {t : Text} {ds : List Nat} (h : Grouped base t ds) :
    ∀ c ∈ t, IsInner c := by
  induction h with
  | last hc =>
    rintro c hmem
    obtain rfl := List.mem_singleton.mp hmem
    exact .inl ⟨_, hc⟩
  | next hc _ _ ih => exact List.forall_mem_cons.mpr ⟨.inl ⟨_, hc⟩, ih⟩
  | apart hc _ _ ih =>
    exact List.forall_mem_cons.mpr ⟨.inl ⟨_, hc⟩,
      List.forall_mem_cons.mpr ⟨.inr (by decide), ih⟩⟩

theorem IsMark.isInner {base : Nat} {mark : Text} (h : IsMark base mark) :
    ∀ c ∈ mark, IsInner c := by
  have hletter : ∀ {letter}, letter ∈ markLetters base → IsInner letter := by
    intro letter hmem
    obtain ⟨hblank, -, -, hascii, -⟩ := of_mem_markLetters hmem
    exact .inr ⟨hascii, hblank⟩
  cases h with
  | none => exact nofun
  | plain hz hmem =>
    exact List.forall_mem_cons.mpr ⟨.inl ⟨_, hz⟩, List.forall_mem_singleton.mpr (hletter hmem)⟩
  | apart hz hmem =>
    exact List.forall_mem_cons.mpr ⟨.inl ⟨_, hz⟩, List.forall_mem_cons.mpr ⟨hletter hmem,
      List.forall_mem_singleton.mpr (.inr (by decide))⟩⟩

theorem SpellsMagnitude.isInner {base : Nat} {t : Text} {n : Int} (h : SpellsMagnitude base t n) :
    ∀ c ∈ t, IsInner c := by
  obtain ⟨mark, body, ds, rfl, hmark, hbody, -⟩ := h
  exact List.forall_mem_append.mpr ⟨hmark.isInner, hbody.isInner⟩

theorem SpellsSigned.isInner {base : Nat} {t : Text} {n : Int} (h : SpellsSigned base t n) :
    ∀ c ∈ t, IsInner c := by
  cases h with
  | bare h => exact h.isInner
  | plus h | minus h => exact List.forall_mem_cons.mpr ⟨.inr (by decide), h.isInner⟩

theorem SpellsSigned.ne_nil {base : Nat} {t : Text} {n : Int} (h : SpellsSigned base t n) :
    t ≠ [] := by
  cases h with
  | bare h =>
    obtain ⟨_, _, _, rfl, -⟩ := h.exists_cons
    exact List.cons_ne_nil _ _
  | plus | minus => exact List.cons_ne_nil _ _

theorem exists_asciiForms_of_isInner {t : Text} (h : ∀ c ∈ t, IsInner c) :
    ∃ ascii, AsciiForms t ascii ∧ ∀ a ∈ ascii, isAsciiBlank a = false := by
  induction t with
  | nil => exact ⟨[], .nil, nofun⟩
  | cons c t ih =>
    obtain ⟨hc, ht⟩ := List.forall_mem_cons.mp h
    obtain ⟨a, ha, hblank⟩ := hc.exists_toAscii?
    obtain ⟨ascii, hascii, hblanks⟩ := ih ht
    exact ⟨a :: ascii, .cons ha hascii, List.forall_mem_cons.mpr ⟨hblank, hblanks⟩⟩

/-- The text is an integer with blanks around it, in the grammar of the module's head. -/
def SpellsLoosely (base : Nat) (t : Text) (n : Int) : Prop :=
  ∃ before core after, t = before ++ core ++ after ∧ (∀ c ∈ before, IsOuterBlank c) ∧
    SpellsSigned base core n ∧ ∀ c ∈ after, IsOuterBlank c

/-- An integer is read exactly from its loose spellings. -/
theorem readInteger?_eq_some_iff {base : Nat} {t : Text} {n : Int} :
    readInteger? base t = some n ↔ SpellsLoosely base t n := by
  rw [readInteger?_eq, Option.bind_eq_some_iff]
  constructor
  · rintro ⟨ascii, hascii, hn⟩
    obtain ⟨before, core, after, rfl, hbefore, hcore, hafter⟩ :=
      (mapM_toAscii?_eq_some_iff.mp hascii).exists_core
    exact ⟨before, core, after, rfl, hbefore, (readSigned?_eq_some_iff hcore).mp hn, hafter⟩
  · rintro ⟨before, core, after, rfl, hbefore, hcore, hafter⟩
    obtain ⟨as, has, hinner⟩ := exists_asciiForms_of_isInner hcore.isInner
    obtain ⟨bs, hbs⟩ := exists_asciiForms fun c hc => exists_toAscii?_of_isOuterBlank (hbefore c hc)
    obtain ⟨cs, hcs⟩ := exists_asciiForms fun c hc => exists_toAscii?_of_isOuterBlank (hafter c hc)
    refine ⟨bs ++ as ++ cs, mapM_toAscii?_eq_some_iff.mpr ((hbs.append has).append hcs), ?_⟩
    rw [Text.trimmed_eq (hbs.forall_isOuterBlank_iff.mp hbefore) hinner
      (hcs.forall_isOuterBlank_iff.mp hafter)]
    · exact (readSigned?_eq_some_iff has).mpr hcore
    · rintro rfl
      cases has
      exact hcore.ne_nil rfl

/-! ## Numerals among the loose spellings -/

/-- The text is made of ASCII digits and letters, and has no mark of the base. -/
structure IsPlain (base : Nat) (t : Text) : Prop where
  isDigit : ∀ c ∈ t, ∃ d, IsDigit c d
  unmarked : ∀ letter ∈ markLetters base, ¬ [CodePoint.ofChar '0', letter] <+: t

theorem IsLooseDigit.isDigit {c : CodePoint} {d e : Nat} (h : IsLooseDigit c d)
    (he : IsDigit c e) : IsDigit c d := by
  rcases h with h | ⟨hval, -⟩
  · exact h
  · have := he.val_le
    omega

theorem IsDigit.not_isOuterBlank {c : CodePoint} {d : Nat} (h : IsDigit c d) :
    ¬ IsOuterBlank c := IsLooseDigit.not_isOuterBlank (.inl h)

theorem eq_nil_of_isOuterBlank {t : Text} (hdigits : ∀ c ∈ t, ∃ d, IsDigit c d)
    (hblanks : ∀ c ∈ t, IsOuterBlank c) : t = [] := by
  refine List.eq_nil_iff_forall_not_mem.mpr fun c hc => ?_
  obtain ⟨d, hd⟩ := hdigits c hc
  exact hd.not_isOuterBlank (hblanks c hc)

theorem Grouped.forall₂_isDigit {base : Nat} {t : Text} {ds : List Nat} (h : Grouped base t ds)
    (hdigits : ∀ c ∈ t, ∃ d, IsDigit c d) :
    List.Forall₂ (fun c d => IsDigit c d ∧ d < base) t ds := by
  induction h with
  | last hc hd =>
    obtain ⟨e, he⟩ := hdigits _ List.mem_cons_self
    exact .cons ⟨hc.isDigit he, hd⟩ .nil
  | next hc hd _ ih =>
    obtain ⟨⟨e, he⟩, hrest⟩ := List.forall_mem_cons.mp hdigits
    exact .cons ⟨hc.isDigit he, hd⟩ (ih hrest)
  | apart =>
    obtain ⟨e, he⟩ := hdigits _ (List.mem_cons_of_mem _ List.mem_cons_self)
    exact absurd (.inl he) not_isLooseDigit_underscore

theorem grouped_of_forall₂ {base : Nat} {t : Text} {ds : List Nat} (hne : t ≠ [])
    (h : List.Forall₂ (fun c d => IsDigit c d ∧ d < base) t ds) : Grouped base t ds := by
  induction h with
  | nil => exact absurd rfl hne
  | @cons c d t ds hc ht ih =>
    cases ht with
    | nil => exact .last (.inl hc.1) hc.2
    | cons => exact .next (.inl hc.1) hc.2 (ih (List.cons_ne_nil _ _))

theorem Spells.spellsLoosely {base n : Nat} {t : Text} (h : Spells base t n) :
    SpellsLoosely base t n := by
  obtain ⟨hne, ds, hds, rfl⟩ := h
  exact ⟨[], t, [], (List.append_nil t).symm, nofun,
    .bare ⟨[], t, ds, rfl, .none, grouped_of_forall₂ hne hds, rfl⟩, nofun⟩

theorem Spells.isPlain {base n : Nat} {t : Text} (h : Spells base t n) : IsPlain base t := by
  refine ⟨fun c hc => (h.exists_isDigit c hc).imp fun _ hd => hd.1, ?_⟩
  rintro letter hletter ⟨rest, rfl⟩
  obtain ⟨d, hd, hlt⟩ := h.exists_isDigit letter (by simp)
  have := not_isLooseDigit_of_mem_markLetters hletter (.inl hd)
  omega

/-- A plain text that is read as an integer is a numeral of it. -/
theorem SpellsLoosely.spells {base : Nat} {t : Text} {n : Int} (h : SpellsLoosely base t n)
    (hplain : IsPlain base t) : ∃ m : Nat, n = m ∧ Spells base t m := by
  obtain ⟨before, core, after, rfl, hbefore, hcore, hafter⟩ := h
  have hdigits := hplain.isDigit
  rw [List.forall_mem_append, List.forall_mem_append] at hdigits
  obtain ⟨⟨hdbefore, hdcore⟩, hdafter⟩ := hdigits
  obtain rfl := eq_nil_of_isOuterBlank hdbefore hbefore
  obtain rfl := eq_nil_of_isOuterBlank hdafter hafter
  rw [List.nil_append, List.append_nil] at hplain ⊢
  cases hcore with
  | bare hmagnitude =>
    obtain ⟨mark, body, ds, rfl, hmark, hbody, rfl⟩ := hmagnitude
    cases hmark with
    | none =>
      obtain ⟨_, _, _, rfl, -⟩ := hbody.exists_cons
      exact ⟨_, rfl, List.cons_ne_nil _ _, ds, hbody.forall₂_isDigit hdcore, rfl⟩
    | plain hz hletter | apart hz hletter =>
      obtain ⟨e, he⟩ := hdcore _ List.mem_cons_self
      have := he.val_le
      obtain rfl := (toAscii?_eq_zero_iff (toAscii?_of_ascii (by omega))).mpr hz
      exact absurd (List.prefix_append [_, _] _) (hplain.unmarked _ hletter)
  | plus | minus =>
    obtain ⟨d, hd⟩ := hdcore _ List.mem_cons_self
    exact absurd hd.val_le (by decide)

theorem SpellsLoosely.exists_spells_iff {base : Nat} {t : Text} {n : Int}
    (h : SpellsLoosely base t n) : (∃ m : Nat, n = m ∧ Spells base t m) ↔ IsPlain base t := by
  constructor
  · rintro ⟨m, -, hm⟩
    exact hm.isPlain
  · exact h.spells

/-- The numerals are the loose spellings without blanks, sign, mark, underscores and digits of other
    scripts. -/
theorem spells_iff_spellsLoosely {base n : Nat} {t : Text} :
    Spells base t n ↔ SpellsLoosely base t n ∧ IsPlain base t := by
  constructor
  · intro h
    exact ⟨h.spellsLoosely, h.isPlain⟩
  · rintro ⟨hloose, hplain⟩
    obtain ⟨m, hm, h⟩ := hloose.spells hplain
    rwa [Int.ofNat_inj.mp hm]

end Faultline.Numeral
