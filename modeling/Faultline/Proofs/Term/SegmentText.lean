import Faultline.Proofs.Term.BinaryText

/-!
# Written segments

A segment is written as its value, an optional size behind a colon and optional type names behind a
slash. `segmentText` puts the parts together, and the parts may be written in any of the ways that
the lexer reads as their tokens.

Results:
* `spellsSegment_segmentText`: a value with its size and its type names is a segment.
* `isRefused_of_long`: with a size of too many digits it is refused.
* `Contributes.unique`: what texts contribute to binaries is determined by how these are decoded.
* `ofText_decimalBytes`: bytes that are written in decimal are all found in the decoded text.
-/

namespace Faultline.Term

open Lexer (Reads EndsNumber)

/-! ## Values with sizes and types -/

/-- The text of an optional size. -/
def sizeText : Option Nat → Text
  | none => []
  | some size => CodePoint.ofChar ':' :: Numeral.ofNat size

/-- The text of type names behind the first. -/
def moreTypesText (types : List Text) : Text :=
  types.flatMap fun t => CodePoint.ofChar '-' :: t

/-- The text of optional type names. -/
def typesText : List Text → Text
  | [] => []
  | first :: more => CodePoint.ofChar '/' :: first ++ moreTypesText more

/-- The text of a segment. -/
def segmentText (value : Text) (size : Option Nat) (types : List Text) : Text :=
  value ++ sizeText size ++ typesText types

/-- What stands behind a part of a segment: what introduces the next part, or what stands behind the
    segment. -/
inductive BehindPart : Text → Prop where
  | mk {c : CodePoint} {rest : Text} (h : c ∈ ([':', '/', '-', ',', '>'] : Text)) :
    BehindPart (c :: rest)

theorem BehindSegment.behindPart {rest : Text} (h : BehindSegment rest) : BehindPart rest := by
  cases h with
  | comma rest | close rest => exact .mk (by decide)

theorem mem_endMarks_of_part :
    ∀ c ∈ ([':', '/', '-', ',', '>'] : Text), c ∈ Lexer.endMarks := by decide

theorem BehindPart.endsNumber {rest : Text} (h : BehindPart rest) : EndsNumber rest := by
  cases h with
  | mk hc => exact Lexer.endsNumber_of_mem (mem_endMarks_of_part _ hc) _

theorem BehindPart.takeWhile_isNamePart {rest : Text} (h : BehindPart rest) :
    rest.takeWhile Lexer.isNamePart = [] := by
  cases h with
  | mk hc => exact Lexer.takeWhile_isNamePart_of_mem (mem_endMarks_of_part _ hc) _

theorem BehindPart.sizeText {rest : Text} (h : BehindPart rest) (size : Option Nat) :
    BehindPart (sizeText size ++ rest) := by
  cases size with
  | none => exact h
  | some n => exact .mk (by decide)

theorem BehindPart.moreTypesText {rest : Text} (h : BehindPart rest) (types : List Text) :
    BehindPart (moreTypesText types ++ rest) := by
  cases types with
  | nil => exact h
  | cons t types => exact .mk (by decide)

theorem BehindPart.typesText {rest : Text} (h : BehindPart rest) (types : List Text) :
    BehindPart (typesText types ++ rest) := by
  cases types with
  | nil => exact h
  | cons t types => exact .mk (by decide)

/-- The text is read as the tokens of the value of a segment. -/
def SpellsValue (t : Text) (value : SegmentValue) : Prop :=
  ∃ ts, IsSegmentValue ts value ∧ ∀ rest, BehindPart rest → Reads t ts rest

theorem spellsValue_ofInt {n : Int}
    (h : (Numeral.ofNat n.natAbs).length ≤ Numeral.decimalLimit) :
    SpellsValue (Numeral.ofInt n) (.integer n) := by
  obtain ⟨ts, hnumber, hreads⟩ := exists_reads_ofInt h
  exact ⟨ts, .integer hnumber, fun rest hrest => hreads rest hrest.endsNumber⟩

theorem spellsValue_val (c : CodePoint) : SpellsValue (Numeral.ofNat c.val) (.integer c.val) :=
  spellsValue_ofInt (n := c.val) (Numeral.length_ofNat_val_le c)

theorem spellsValue_string {literal t : Text} (h : ∀ rest, Reads literal [.string t] rest) :
    SpellsValue literal (.chars t) := by
  have hchars := IsSegmentValue.chars [t] (List.cons_ne_nil t [])
  rw [List.flatten_singleton] at hchars
  exact ⟨[.string t], hchars, fun rest _ => h rest⟩

/-- An optional size whose digits are within the limit of decimal numerals. -/
def SizeFits (size : Option Nat) : Prop :=
  ∀ n ∈ size, (Numeral.ofNat n).length ≤ Numeral.decimalLimit

theorem sizeFits_some {n : Nat} (h : (Numeral.ofNat n).length ≤ Numeral.decimalLimit) :
    SizeFits (some n) := by
  rintro _ ⟨⟩
  exact h

theorem reads_sizeText {size : Option Nat} (h : SizeFits size) {rest : Text}
    (hrest : BehindPart rest) : Reads (sizeText size) (sizeTokens (size.map Nat.cast)) rest := by
  cases size with
  | none => exact Lexer.reads_nil rest
  | some n =>
    exact (Lexer.reads_mark .colon rfl _).append (Lexer.reads_ofNat (h n rfl) hrest.endsNumber)

theorem reads_typeName {name t : Text} (h : Written (.atom name) t) {rest : Text}
    (hrest : BehindPart rest) : Reads t [.atom name] rest := by
  cases h with
  | quotedAtom => exact Lexer.reads_quotedAtom name rest
  | bareAtom h => exact Lexer.reads_bareName h hrest.takeWhile_isNamePart

section Types

variable {types : List (Text × Text)} (h : ∀ p ∈ types, Written (.atom p.1) p.2)
include h

theorem reads_moreTypesText {rest : Text} (hrest : BehindPart rest) :
    Reads (moreTypesText (types.map Prod.snd))
      ((types.map Prod.fst).flatMap fun m => [.minus, .atom m]) rest := by
  induction types with
  | nil => exact Lexer.reads_nil rest
  | cons p types ih =>
    obtain ⟨hp, htypes⟩ := List.forall_mem_cons.mp h
    have hname := (reads_typeName hp (hrest.moreTypesText _)).append (ih htypes)
    exact (Lexer.reads_mark .minus rfl _).append hname

theorem reads_typesText {rest : Text} (hrest : BehindPart rest) :
    Reads (typesText (types.map Prod.snd)) (typeTokens (types.map Prod.fst)) rest := by
  cases types with
  | nil => exact Lexer.reads_nil rest
  | cons p types =>
    obtain ⟨hp, htypes⟩ := List.forall_mem_cons.mp h
    have hname := (reads_typeName hp (hrest.moreTypesText _)).append
      (reads_moreTypesText htypes hrest)
    exact (Lexer.reads_mark .slash rfl _).append hname

/-- A value with its size and its type names is a segment. -/
theorem spellsSegment_segmentText {t : Text} {value : SegmentValue} (hv : SpellsValue t value)
    {size : Option Nat} (hsize : SizeFits size) :
    SpellsSegment (segmentText t size (types.map Prod.snd))
      ⟨value, (size.getD 8 : Nat), types.map Prod.fst⟩ := by
  obtain ⟨ts, hvalue, hreads⟩ := hv
  have hdefault : ((size.getD 8 : Nat) : Int) = (size.map Nat.cast).getD 8 := by cases size <;> rfl
  rw [hdefault]
  refine ⟨_, .mk (size.map Nat.cast) (types.map Prod.fst) hvalue, ?_⟩
  intro rest hrest
  have hbehind := hrest.behindPart.typesText (types.map Prod.snd)
  have hvalue := (hreads _ (hbehind.sizeText size)).append (reads_sizeText hsize hbehind)
  exact hvalue.append (reads_typesText h hrest.behindPart)

/-- A segment in the parts in which it is written. -/
def WrittenSegment.ofParts {t : Text} {value : SegmentValue} (hv : SpellsValue t value)
    {size : Option Nat} (hsize : SizeFits size) : WrittenSegment where
  segment := ⟨value, (size.getD 8 : Nat), types.map Prod.fst⟩
  text := segmentText t size (types.map Prod.snd)
  spells := spellsSegment_segmentText h hv hsize

end Types

/-! ## Sizes that are too long -/

/-- A text with a number of too many digits is refused. -/
theorem exists_ofText_error_of_long {t : Text} {ts : List Token} {n : Nat} {rest : Text}
    (ht : Reads t ts (Numeral.ofNat n ++ rest))
    (hn : Numeral.decimalLimit < (Numeral.ofNat n).length) (hrest : EndsNumber rest) :
    ∃ failure, ofText (t ++ (Numeral.ofNat n ++ rest)) = .error failure := by
  have hstop := Lexer.lexFrom_ofNat_of_long hn hrest (1 + t.length)
  rw [← ht.stop_eq] at hstop
  rw [ofText, tokenize]
  cases hlex : Lexer.lexFrom 1 (t ++ (Numeral.ofNat n ++ rest)) with
  | mk lexemes stop =>
    rw [hlex] at hstop
    cases stop with
    | none => exact absurd rfl hstop
    | some stop => exact ⟨_, rfl⟩

/-- The texts of segments with a comma behind each. -/
def commaBehindEach (front : List WrittenSegment) : Text := front.flatMap fun p => p.text ++ text ","

theorem exists_reads_commaBehindEach (front : List WrittenSegment) (rest : Text) :
    ∃ ts, Reads (commaBehindEach front) ts rest := by
  induction front with
  | nil => exact ⟨[], Lexer.reads_nil rest⟩
  | cons p front ih =>
    obtain ⟨ts, hfront⟩ := ih
    obtain ⟨us, -, hreads⟩ := p.spells
    have hcomma := (hreads _ (.comma _)).append
      (Lexer.reads_mark .comma rfl (commaBehindEach front ++ rest))
    exact ⟨_, hcomma.append hfront⟩

theorem join_commaBehindEach (front : List WrittenSegment) (t : Text) (back : List Text) :
    Text.join (text ",") (front.map (·.text) ++ t :: back) =
      commaBehindEach front ++ Text.join (text ",") (t :: back) := by
  induction front with
  | nil => rfl
  | cons p front ih =>
    unfold commaBehindEach at ih ⊢
    rw [List.flatMap_cons, List.append_assoc, ← ih]
    cases front with
    | nil => rfl
    | cons q front => rfl

theorem exists_join_close (t : Text) (back : List Text) :
    ∃ rest, BehindSegment rest ∧ Text.join (text ",") (t :: back) ++ text ">>" = t ++ rest := by
  cases back with
  | nil => exact ⟨text ">>", .close [], rfl⟩
  | cons u back =>
    refine ⟨_, .comma (Text.join (text ",") (u :: back) ++ text ">>"), ?_⟩
    have hjoin : Text.join (text ",") (t :: u :: back) =
        t ++ text "," ++ Text.join (text ",") (u :: back) := rfl
    rw [hjoin, List.append_assoc, List.append_assoc]
    rfl

/-- In front of a segment of a binary stand the segments before it, with a comma behind each. -/
theorem exists_binaryAround_singleton_eq (front : List WrittenSegment) (t : Text)
    (back : List WrittenSegment) : ∃ rest, BehindSegment rest ∧
      binaryAround front [t] back = text "<<" ++ commaBehindEach front ++ (t ++ rest) := by
  obtain ⟨rest, hrest, hjoin⟩ := exists_join_close t (back.map (·.text))
  refine ⟨rest, hrest, ?_⟩
  rw [binaryAround, binaryOf, List.append_assoc _ [t], List.singleton_append,
    join_commaBehindEach, ← hjoin]
  simp only [List.append_assoc]

/-- A size of too many digits is refused wherever it stands. -/
theorem isRefused_of_long {t : Text} {value : SegmentValue} (hv : SpellsValue t value) {size : Nat}
    (hsize : Numeral.decimalLimit < (Numeral.ofNat size).length) (types : List Text) :
    IsRefused [segmentText t (some size) types] := by
  intro front back
  obtain ⟨rest, hrest, heq⟩ :=
    exists_binaryAround_singleton_eq front (segmentText t (some size) types) back
  have hends := (hrest.behindPart.typesText types).endsNumber
  obtain ⟨us, -, hvalue⟩ := hv
  have hcolon := (hvalue _ (.mk (by decide))).append
    (Lexer.reads_mark .colon rfl (Numeral.ofNat size ++ (typesText types ++ rest)))
  obtain ⟨ts, hfront⟩ := exists_reads_commaBehindEach front
    (t ++ [CodePoint.ofChar ':'] ++ (Numeral.ofNat size ++ (typesText types ++ rest)))
  have hreads := ((Lexer.reads_mark .binaryOpen rfl _).append hfront).append hcolon
  have hsegment : segmentText t (some size) types ++ rest =
      t ++ [CodePoint.ofChar ':'] ++ (Numeral.ofNat size ++ (typesText types ++ rest)) := by
    simp [segmentText, sizeText]
  rw [heq, hsegment, ← List.append_assoc]
  exact exists_ofText_error_of_long hreads hsize hends

/-- So a segment that contributes bytes has a size that fits. -/
theorem sizeFits_of_contributes {t : Text} {value : SegmentValue} (hv : SpellsValue t value)
    {size : Option Nat} {types : List Text} {bytes : List UInt8}
    (h : Contributes [segmentText t size types] bytes) : SizeFits size := by
  intro n hn
  by_contra hlong
  rw [Option.mem_def.mp hn] at h
  exact h.not_isRefused (isRefused_of_long hv (Nat.not_le.mp hlong) types)

/-! ## Bytes in decimal -/

theorem written_no_types : ∀ p ∈ ([] : List (Text × Text)), Written (.atom p.1) p.2 := nofun

theorem spellsSegment_val (c : CodePoint) :
    SpellsSegment (Numeral.ofNat c.val) ⟨.integer c.val, 8, []⟩ := by
  have hsegment : SpellsSegment (segmentText (Numeral.ofNat c.val) none []) _ :=
    spellsSegment_segmentText written_no_types (spellsValue_val c) (show SizeFits none from nofun)
  rwa [segmentText, sizeText, typesText, List.append_nil, List.append_nil] at hsegment

/-- A byte as a segment in decimal. -/
def WrittenSegment.byte (b : UInt8) : WrittenSegment where
  segment := ⟨.integer b.toNat, 8, []⟩
  text := Numeral.ofNat b.toNat
  spells := spellsSegment_val (CodePoint.ofByte b)

theorem bytesOf_byte (bytes : List UInt8) :
    bytesOf ((bytes.map WrittenSegment.byte).map (·.segment)) = .ok bytes := by
  have hbyte : ∀ b ∈ bytes, (WrittenSegment.byte b).segment.bytes = .ok [b] := by
    intro b _
    have hsized := sizedBytes_of_le (show 8 * 1 ≤ bitLimit by decide) b.toNat
    rw [bigEndian_one, UInt8.ofNat_toNat] at hsized
    exact (bytes_integer not_asksUnicode_nil 8 b.toNat).trans hsized
  have hall := bytesOf_map hbyte
  rw [List.flatMap_singleton'] at hall
  rw [List.map_map]
  exact hall

/-- Bytes that are written in decimal are read as the string whose UTF-8 bytes they are, or if there
    is none as one code point a byte; so they are all found in the decoded text. -/
theorem ofText_decimalBytes (bytes : List UInt8) :
    ∃ t, ofText (binaryOf (bytes.map fun b => Numeral.ofNat b.toNat)) = .ok (.binary t) ∧
      (∀ s : String, s.toUTF8.data.toList = bytes → t = text s) ∧
      ((∀ s : String, s.toUTF8.data.toList ≠ bytes) → t = bytes.map CodePoint.ofByte) ∧
      (Utf8.encode t = .ok bytes ∨ t.map CodePoint.val = bytes.map UInt8.toNat) := by
  have hdecoded := ofText_binaryOf (bytesOf_byte bytes)
  rw [List.map_map] at hdecoded
  refine ⟨_, hdecoded, ?_⟩
  unfold binaryText
  cases hdecode : Utf8.decode bytes with
  | ok t =>
    obtain ⟨s, rfl⟩ := Utf8.exists_text_eq_iff.mpr (Utf8.decode_eq_ok_iff.mp hdecode).1
    refine ⟨?_, ?_, .inl (Utf8.decode_eq_ok_iff_encode.mp hdecode)⟩
    · intro s' hs'
      exact Except.ok.inj (hdecode.symm.trans (Utf8.decode_eq_ok_text_iff.mpr hs'))
    · intro hnone
      exact absurd (Utf8.decode_eq_ok_text_iff.mp hdecode) (hnone s)
  | error flaw =>
    refine ⟨?_, fun _ => rfl, .inr ?_⟩
    · intro s hs
      rw [Utf8.decode_eq_ok_text_iff.mpr hs] at hdecode
      cases hdecode
    · simp only
      rw [Latin1.decode, List.map_map]
      rfl

/-- Two bytes of a character, and an overlong form of the code point zero. -/
theorem ofText_decimalBytes_pairs :
    ofText (text "<<195,169>>") = .ok (.binary (text "é")) ∧
      ofText (text "<<192,128>>") =
        .ok (.binary [CodePoint.ofByte 0xC0, CodePoint.ofByte 0x80]) := by
  obtain ⟨t, hdecoded, hstring, -⟩ := ofText_decimalBytes [0xC3, 0xA9]
  obtain ⟨u, hdecoded', -, hbytes, -⟩ := ofText_decimalBytes [0xC0, 0x80]
  have hnone : ∀ s : String, s.toUTF8.data.toList ≠ [0xC0, 0x80] := by
    intro s hs
    have hdecode := Utf8.decode_eq_ok_text_iff.mpr hs
    have hflaw : Utf8.decode [0xC0, 0x80] = .error ⟨0, [0xC0], .start⟩ := by
      rw [Utf8.decode, Utf8.decodeFrom]
      rfl
    rw [hflaw] at hdecode
    cases hdecode
  rw [hstring "é" rfl] at hdecoded
  rw [hbytes hnone] at hdecoded'
  have htext : binaryOf ([0xC3, 0xA9].map fun b : UInt8 => Numeral.ofNat b.toNat) =
      text "<<195,169>>" := by decide +kernel
  have htext' : binaryOf ([0xC0, 0x80].map fun b : UInt8 => Numeral.ofNat b.toNat) =
      text "<<192,128>>" := by decide +kernel
  exact ⟨htext ▸ hdecoded, htext' ▸ hdecoded'⟩

/-! ## What is contributed -/

/-- A byte that is no part of UTF-8 makes the binary Latin-1. -/
theorem binaryText_cons_ff (bytes : List UInt8) :
    binaryText (0xFF :: bytes) = Latin1.decode (0xFF :: bytes) := by
  have hflaw : Utf8.decode (0xFF :: bytes) = .error ⟨0, [0xFF], .start⟩ := by
    rw [Utf8.decode, Utf8.decodeFrom]
    rfl
  rw [binaryText, hflaw]

/-- What texts contribute to binaries is determined by how these are decoded. -/
theorem Contributes.unique {ts : List Text} {xs ys : List UInt8} (hx : Contributes ts xs)
    (hy : Contributes ts ys) : xs = ys := by
  -- behind a byte that is no part of UTF-8 each byte is seen as a code point of its own
  have hfront := bytesOf_byte [0xFF]
  have hdecoded := (hx [.byte 0xFF] [] _).mpr ⟨_, [], hfront, rfl, rfl⟩
  obtain ⟨front, back, hfront', hback, hbinary⟩ := (hy [.byte 0xFF] [] _).mp hdecoded
  obtain rfl : front = [0xFF] := Except.ok.inj (hfront'.symm.trans hfront)
  obtain rfl : back = [] := Except.ok.inj hback.symm
  have htext := Term.binary.inj hbinary
  rw [List.append_nil, List.append_nil, List.singleton_append, List.singleton_append,
    binaryText_cons_ff, binaryText_cons_ff] at htext
  have hbytes := congrArg Latin1.lowBytes htext
  rw [Latin1.lowBytes_decode, Latin1.lowBytes_decode] at hbytes
  exact (List.cons.inj hbytes).2

end Faultline.Term
