import Faultline.Proofs.Term.SegmentText

/-!
# Sizes of segments

The size of an integer is a whole number of bytes and the integer is written in them most
significant byte first, so a segment of two parts is the two segments of its parts: the last bytes
belong to the integer itself and the first ones to its quotient by a power of two. A text takes no
size, so with one it is the segments of its characters only if each of them has one byte, or if a
Unicode type makes the size meaningless for them too.

Results:
* `bigEndian_add`: the bytes of an integer in two parts.
* `sizedInteger_splits`: an integer with a size stands for its value modulo the power of two of the
  size, in one segment or in two; other sizes are refused.
* `string_contributes_iff`: when a text contributes what its characters do.
-/

namespace Faultline.Term

open Lexer (Reads)

/-! ## Integers in two parts -/

/-- The last bytes of an integer are those of the integer, and the first ones those of its
    quotient. -/
theorem bigEndian_add (a b : Nat) :
    ∀ n : Int, bigEndian (a + b) n = bigEndian a (n / 256 ^ b) ++ bigEndian b n := by
  induction b with
  | zero =>
    intro n
    rw [pow_zero, Int.ediv_one]
    exact (List.append_nil _).symm
  | succ b ih =>
    intro n
    have hquotient : n / 256 / 256 ^ b = n / 256 ^ (b + 1) := by
      rw [Int.ediv_ediv_of_nonneg (by decide), pow_succ']
    rw [← Nat.add_assoc, bigEndian_succ, ih, hquotient, bigEndian_succ b n, List.append_assoc]

/-- A quotient has no more digits. -/
theorem length_ofNat_natAbs_fdiv_le (n : Int) (b : Nat) :
    (Numeral.ofNat (n.fdiv (2 ^ b)).natAbs).length ≤ (Numeral.ofNat n.natAbs).length := by
  refine Numeral.length_ofNat_mono ?_
  rw [Int.fdiv_eq_ediv_of_nonneg n (by positivity)]
  exact Int.natAbs_ediv_le_natAbs n (2 ^ b)

/-! ## Integers with sizes -/

/-- The text of an integer with a size. -/
def sizedText (n : Int) (size : Nat) : Text := segmentText (Numeral.ofInt n) (some size) []

/-- An integer with a size as a segment. -/
def WrittenSegment.sized (n : Int) (size : Nat)
    (hn : (Numeral.ofNat n.natAbs).length ≤ Numeral.decimalLimit)
    (hsize : (Numeral.ofNat size).length ≤ Numeral.decimalLimit) : WrittenSegment :=
  .ofParts written_no_types (spellsValue_ofInt hn) (sizeFits_some hsize)

theorem length_ofNat_of_le {size : Nat} (h : size ≤ bitLimit) :
    (Numeral.ofNat size).length ≤ Numeral.decimalLimit := by
  have hlt : size < 10 ^ (19 + 1) := Nat.lt_of_le_of_lt h (by decide)
  exact Nat.le_trans (Numeral.length_ofNat_le 19 hlt) (by decide)

section Sized

variable {n : Int} (hn : (Numeral.ofNat n.natAbs).length ≤ Numeral.decimalLimit)
include hn

/-- With a whole number of bytes that an integer can have, an integer contributes its bytes. -/
theorem contributes_sizedText {width : Nat} (h : 8 * width ≤ bitLimit) :
    Contributes [sizedText n (8 * width)] (bigEndian width n) := by
  refine contributes_of_bytesOf [.sized n (8 * width) hn (length_ofNat_of_le h)] ?_
  show bytesOf [⟨.integer n, (8 * width : Nat), []⟩] = _
  rw [bytesOf_singleton, bytes_integer not_asksUnicode_nil, sizedBytes_of_le h]

/-- The quotient in the first bytes and the integer in the last ones contribute the same. -/
theorem contributes_sizedTexts {a b : Nat} (h : 8 * (a + b) ≤ bitLimit) :
    Contributes [sizedText (n.fdiv (2 ^ (8 * b))) (8 * a), sizedText n (8 * b)]
      (bigEndian (a + b) n) := by
  have ha : 8 * a ≤ bitLimit := by omega
  have hb : 8 * b ≤ bitLimit := by omega
  have hquotient := Nat.le_trans (length_ofNat_natAbs_fdiv_le n (8 * b)) hn
  have hfirst : Segment.bytes ⟨.integer (n.fdiv (2 ^ (8 * b))), (8 * a : Nat), []⟩ =
      .ok (bigEndian a (n / 256 ^ b)) := by
    rw [bytes_integer not_asksUnicode_nil, sizedBytes_of_le ha,
      Int.fdiv_eq_ediv_of_nonneg n (by positivity), two_pow_eight_mul]
  have hsecond : bytesOf [⟨.integer n, (8 * b : Nat), []⟩] = .ok (bigEndian b n) := by
    rw [bytesOf_singleton, bytes_integer not_asksUnicode_nil, sizedBytes_of_le hb]
  refine contributes_of_bytesOf [.sized _ (8 * a) hquotient (length_ofNat_of_le ha),
    .sized n (8 * b) hn (length_ofNat_of_le hb)] ?_
  show bytesOf [⟨.integer (n.fdiv (2 ^ (8 * b))), (8 * a : Nat), []⟩,
    ⟨.integer n, (8 * b : Nat), []⟩] = _
  rw [bytesOf_cons hfirst, hsecond, bigEndian_add]
  rfl

/-- Any other size is refused. -/
theorem isRefused_sizedText {size : Nat} (h : ¬ 8 ∣ size ∨ bitLimit < size) :
    IsRefused [sizedText n size] := by
  by_cases hsize : (Numeral.ofNat size).length ≤ Numeral.decimalLimit
  · cases hbytes : bytesOf [⟨.integer n, size, []⟩] with
    | error refusal => exact isRefused_of_bytesOf [.sized n size hn hsize] hbytes
    | ok bytes =>
      rw [bytesOf_singleton, bytes_integer not_asksUnicode_nil] at hbytes
      obtain ⟨hwidth, hlimit, -⟩ := sizedBytes_eq_ok_iff.mp hbytes
      omega
  · exact isRefused_of_long (spellsValue_ofInt hn) (Nat.not_le.mp hsize) []

/-- A size that is no whole number of bytes is told. -/
theorem exists_ofText_partialByte {size : Nat} (hpart : ¬ 8 ∣ size)
    (hsize : (Numeral.ofNat size).length ≤ Numeral.decimalLimit) (front back : List WrittenSegment)
    {xs : List UInt8} (hfront : bytesOf (front.map (·.segment)) = .ok xs) :
    ∃ column, ofText (binaryAround front [sizedText n size] back) =
      .error (.decode ⟨(Malformed.partialByte size).message,
        binaryAround front [sizedText n size] back, some column⟩) := by
  have hbytes : (WrittenSegment.sized n size hn hsize).segment.bytes =
      .error (.malformed (.partialByte size)) := by
    show Segment.bytes ⟨.integer n, size, []⟩ = _
    rw [bytes_integer not_asksUnicode_nil, sizedBytes, if_pos (by omega)]
  have hshort : (Malformed.partialByte size).isTooLong = false :=
    Numeral.isTooLong_eq_false hsize
  obtain ⟨column, hcolumn⟩ :=
    exists_ofText_eq_error front (.sized n size hn hsize) back hfront hbytes
  rw [Refusal.failure, hshort] at hcolumn
  exact ⟨column, hcolumn⟩

/-- An integer with the size of a number of bytes that an integer can have contributes the bytes of
    its value modulo the power of two of the size, and its quotient and itself in two parts of this
    size are decoded like it. Other sizes are refused, and one that is no whole number of bytes is
    told if the segments in front stand for bytes. -/
theorem sizedInteger_splits :
    (∀ a b, 8 * (a + b) ≤ bitLimit →
      (∃ bytes, bytes.length = a + b ∧ (bigEndianValue bytes : Int) = n % 2 ^ (8 * (a + b)) ∧
        Contributes [sizedText n (8 * (a + b))] bytes) ∧
      ∀ front back v,
        ofText (binaryAround front [sizedText n (8 * (a + b))] back) = .ok v ↔
          ofText (binaryAround front
            [sizedText (n.fdiv (2 ^ (8 * b))) (8 * a), sizedText n (8 * b)] back) = .ok v) ∧
    (∀ size, ¬ 8 ∣ size ∨ bitLimit < size → IsRefused [sizedText n size]) ∧
    (∀ size, ¬ 8 ∣ size → (Numeral.ofNat size).length ≤ Numeral.decimalLimit →
      ∀ front back xs, bytesOf (front.map (·.segment)) = .ok xs →
        ∃ column, ofText (binaryAround front [sizedText n size] back) =
          .error (.decode ⟨(Malformed.partialByte size).message,
            binaryAround front [sizedText n size] back, some column⟩)) := by
  refine ⟨?_, fun size h => isRefused_sizedText hn h, ?_⟩
  · intro a b hlimit
    have hwhole := contributes_sizedText hn hlimit
    refine ⟨⟨_, length_bigEndian (a + b) n, ?_, hwhole⟩, ?_⟩
    · rw [bigEndianValue_bigEndian, two_pow_eight_mul]
    · intro front back v
      rw [hwhole front back v, contributes_sizedTexts hn hlimit front back v]
  · intro size hpart hsize front back xs hfront
    exact exists_ofText_partialByte hn hpart hsize front back hfront

end Sized

/-- A negative number in two bytes: its quotient is again negative. Twelve bits are refused. -/
theorem sizedInteger_splits_minusTwo :
    (Numeral.ofNat (-2 : Int).natAbs).length ≤ Numeral.decimalLimit ∧
      (∃ bytes, bytes.length = 2 ∧ (bigEndianValue bytes : Int) = 65534 ∧
        Contributes [text "-2:16"] bytes) ∧
      (∀ v, ofText (text "<<-2:16>>") = .ok v ↔ ofText (text "<<-1:8,-2:8>>") = .ok v) ∧
      IsRefused [text "-2:12"] := by
  have hn : (Numeral.ofNat (-2 : Int).natAbs).length ≤ Numeral.decimalLimit := by decide +kernel
  obtain ⟨hsplit, hrefused, -⟩ := sizedInteger_splits hn
  obtain ⟨⟨bytes, hlength, hvalue, hcontributes⟩, hsame⟩ := hsplit 1 1 (by decide)
  have hwhole : sizedText (-2) (8 * (1 + 1)) = text "-2:16" := by decide +kernel
  have hpart : sizedText (-2) 12 = text "-2:12" := by decide +kernel
  have hone : binaryAround [] [sizedText (-2) (8 * (1 + 1))] [] = text "<<-2:16>>" := by
    decide +kernel
  have htwo : binaryAround [] [sizedText ((-2 : Int).fdiv (2 ^ (8 * 1))) (8 * 1),
      sizedText (-2) (8 * 1)] [] = text "<<-1:8,-2:8>>" := by decide +kernel
  refine ⟨hn, ⟨bytes, hlength, hvalue, hwhole ▸ hcontributes⟩, ?_, ?_⟩
  · intro v
    rw [← hone, ← htwo]
    exact hsame [] [] v
  · exact hpart ▸ hrefused 12 (.inl (by decide))

/-- A segment that is wider than any integer is not decoded. -/
theorem ofText_tooManyBits :
    ofText (text "<<0:8000000000000000000000000000000>>") = .error .tooManyBits := by
  have hn : (Numeral.ofNat (0 : Int).natAbs).length ≤ Numeral.decimalLimit := by decide +kernel
  have hsize : (Numeral.ofNat (8 * 10 ^ 30)).length ≤ Numeral.decimalLimit := by decide +kernel
  have hbytes : (WrittenSegment.sized 0 (8 * 10 ^ 30) hn hsize).segment.bytes =
      .error (.other .tooManyBits) := by
    show Segment.bytes ⟨.integer 0, (8 * 10 ^ 30 : Nat), []⟩ = _
    rw [bytes_integer not_asksUnicode_nil, sizedBytes, if_neg (by decide), if_neg (by decide),
      if_pos (by decide)]
  obtain ⟨column, hcolumn⟩ := exists_ofText_eq_error [] _ [] rfl hbytes
  have htext : binaryAround [] [sizedText 0 (8 * 10 ^ 30)] [] =
      text "<<0:8000000000000000000000000000000>>" := by decide +kernel
  rw [← htext]
  exact hcolumn

/-! ## Texts and their characters -/

section Texts

variable {types : List (Text × Text)} (htypes : ∀ p ∈ types, Written (.atom p.1) p.2)
include htypes

/-- A text contributes the low bytes of its code points, or its UTF-8 bytes with a Unicode type. The
    size plays no part. -/
theorem contributes_string {literal t : Text} (hliteral : ∀ rest, Reads literal [.string t] rest)
    (ht : ∀ c ∈ t, c.IsScalar) {size : Option Nat} (hsize : SizeFits size) :
    (AsksUnicode (types.map Prod.fst) →
      Contributes [segmentText literal size (types.map Prod.snd)] (t.flatMap Utf8.encodeOne)) ∧
    (¬ AsksUnicode (types.map Prod.fst) →
      Contributes [segmentText literal size (types.map Prod.snd)] (Latin1.lowBytes t)) := by
  have hcontributes : ∀ bytes,
      Segment.StandsFor ⟨.chars t, (size.getD 8 : Nat), types.map Prod.fst⟩ bytes →
        Contributes [segmentText literal size (types.map Prod.snd)] bytes := by
    intro bytes hbytes
    refine contributes_of_bytesOf [.ofParts htypes (spellsValue_string hliteral) hsize] ?_
    exact (bytesOf_singleton _).trans (bytes_eq_ok_iff.mpr hbytes)
  exact ⟨fun h => hcontributes _ (.encodedText h ht), fun h => hcontributes _ (.lowBytes h)⟩

/-- The characters of a text as segments with one size and the same types. -/
def characters (t : Text) {size : Option Nat} (hsize : SizeFits size) : List WrittenSegment :=
  t.map fun c => .ofParts htypes (spellsValue_val c) hsize

theorem map_text_characters (t : Text) {size : Option Nat} (hsize : SizeFits size) :
    (characters htypes t hsize).map (·.text) =
      t.map fun c => segmentText (Numeral.ofNat c.val) size (types.map Prod.snd) := List.map_map

theorem map_segment_characters (t : Text) {size : Option Nat} (hsize : SizeFits size) :
    (characters htypes t hsize).map (·.segment) =
      t.map fun c => ⟨.integer c.val, (size.getD 8 : Nat), types.map Prod.fst⟩ := List.map_map

theorem contributes_characters {t : Text} {size : Option Nat} (hsize : SizeFits size)
    {g : CodePoint → List UInt8}
    (h : ∀ c ∈ t, Segment.StandsFor ⟨.integer c.val, (size.getD 8 : Nat), types.map Prod.fst⟩
      (g c)) :
    Contributes (t.map fun c => segmentText (Numeral.ofNat c.val) size (types.map Prod.snd))
      (t.flatMap g) := by
  rw [← map_text_characters htypes t hsize]
  refine contributes_of_bytesOf _ ?_
  rw [map_segment_characters]
  exact bytesOf_map fun c hc => bytes_eq_ok_iff.mpr (h c hc)

/-- With one byte each the characters of a text contribute the low bytes of their numbers. -/
theorem contributes_characters_lowBytes {t : Text} {size : Option Nat} (hsize : SizeFits size)
    (h : ¬ AsksUnicode (types.map Prod.fst)) (hone : t = [] ∨ size.getD 8 = 8) :
    Contributes (t.map fun c => segmentText (Numeral.ofNat c.val) size (types.map Prod.snd))
      (Latin1.lowBytes t) := by
  have hlow : Latin1.lowBytes t = t.flatMap fun c => [UInt8.ofNat c.val] := List.map_eq_flatMap
  rw [hlow]
  refine contributes_characters htypes hsize fun c hc => ?_
  rw [hone.resolve_left (List.ne_nil_of_mem hc), ← bytes_eq_ok_iff, bytes_integer h,
    ← bigEndian_one]
  exact sizedBytes_of_le (show 8 * 1 ≤ bitLimit by decide) c.val

/-- Without a Unicode type the characters of a text contribute their size each. -/
theorem length_of_contributes_characters {t : Text} {size : Option Nat} (hsize : SizeFits size)
    (h : ¬ AsksUnicode (types.map Prod.fst)) {bytes : List UInt8}
    (hbytes : Contributes
      (t.map fun c => segmentText (Numeral.ofNat c.val) size (types.map Prod.snd)) bytes) :
    8 * bytes.length = size.getD 8 * t.length := by
  rw [← map_text_characters htypes t hsize] at hbytes
  cases hsegments : bytesOf ((characters htypes t hsize).map (·.segment)) with
  | error refusal => exact absurd (isRefused_of_bytesOf _ hsegments) hbytes.not_isRefused
  | ok ys =>
    obtain rfl := hbytes.unique (contributes_of_bytesOf _ hsegments)
    rw [map_segment_characters] at hsegments
    have hwidth : ∀ s ∈ t.map fun c =>
        (⟨.integer c.val, (size.getD 8 : Nat), types.map Prod.fst⟩ : Segment),
        ∀ xs, s.bytes = .ok xs → 8 * xs.length = size.getD 8 := by
      intro s hs xs hxs
      obtain ⟨c, -, rfl⟩ := List.mem_map.mp hs
      rw [bytes_integer h] at hxs
      have hsized := (sizedBytes_eq_ok_iff.mp hxs).1
      omega
    have hlength := mul_length_of_bytesOf hwidth hsegments
    rwa [List.length_map] at hlength

/-- A text without surrogates contributes its UTF-8 bytes with a Unicode type and the low bytes of
    its code points without one, whatever its size is. So its characters contribute the same exactly
    if there are none, if a Unicode type is given or if each of them has one byte. -/
theorem string_contributes_iff {literal t : Text}
    (hliteral : ∀ rest, Reads literal [.string t] rest) (ht : ∀ c ∈ t, c.IsScalar)
    (size : Option Nat) :
    (SizeFits size →
      (AsksUnicode (types.map Prod.fst) →
        Contributes [segmentText literal size (types.map Prod.snd)] (t.flatMap Utf8.encodeOne)) ∧
      (¬ AsksUnicode (types.map Prod.fst) →
        Contributes [segmentText literal size (types.map Prod.snd)] (Latin1.lowBytes t))) ∧
    ((∃ bytes, Contributes [segmentText literal size (types.map Prod.snd)] bytes ∧
        Contributes (t.map fun c => segmentText (Numeral.ofNat c.val) size (types.map Prod.snd))
          bytes) ↔
      SizeFits size ∧ (t = [] ∨ AsksUnicode (types.map Prod.fst) ∨ size.getD 8 = 8)) := by
  have hstring (hsize : SizeFits size) := contributes_string htypes hliteral ht hsize
  refine ⟨hstring, ?_, ?_⟩
  · rintro ⟨bytes, hbytes, hcharacters⟩
    have hsize := sizeFits_of_contributes (spellsValue_string hliteral) hbytes
    refine ⟨hsize, ?_⟩
    by_cases hunicode : AsksUnicode (types.map Prod.fst)
    · exact .inr (.inl hunicode)
    · -- the text gives a byte a character, so each character has to give one as well
      obtain rfl := hbytes.unique ((hstring hsize).2 hunicode)
      have hlength := length_of_contributes_characters htypes hsize hunicode hcharacters
      rw [Latin1.lowBytes, List.length_map] at hlength
      cases t with
      | nil => exact .inl rfl
      | cons c t =>
        exact .inr (.inr (Nat.eq_of_mul_eq_mul_right (Nat.succ_pos t.length) hlength).symm)
  · rintro ⟨hsize, hcase⟩
    by_cases hunicode : AsksUnicode (types.map Prod.fst)
    · exact ⟨_, (hstring hsize).1 hunicode,
        contributes_characters htypes hsize fun c hc => .encodedNumber hunicode (ht c hc)⟩
    · have hone := hcase.imp_right fun h => h.resolve_left hunicode
      exact ⟨_, (hstring hsize).2 hunicode,
        contributes_characters_lowBytes htypes hsize hunicode hone⟩

end Texts

/-- With sixteen bits a letter in quotes and its number are different, with a Unicode type they are
    the same. -/
theorem string_contributes_iff_letters :
    (∀ rest, Reads (text "\"a\"") [.string (text "a")] rest) ∧ (∀ c ∈ text "a", c.IsScalar) ∧
      Contributes [text "\"a\":16"] [0x61] ∧
      (¬ ∃ bytes, Contributes [text "\"a\":16"] bytes ∧ Contributes [text "97:16"] bytes) ∧
      ∃ bytes, Contributes [text "\"é\"/utf8"] bytes ∧ Contributes [text "233/utf8"] bytes := by
  have hliteral (s : String) : ∀ rest, Reads (enclose '"' (text s)) [.string (text s)] rest :=
    fun rest => Lexer.reads_string (text s) rest
  have hscalar (s : String) : ∀ c ∈ text s, c.IsScalar := Utf8.exists_text_eq_iff.mp ⟨s, rfl⟩
  have hsize : SizeFits (some 16) := sizeFits_some (by decide +kernel)
  have hname : IsBareName (text "utf8") := .mk (by decide) (by decide) (by decide)
  have htypes : ∀ p ∈ [(text "utf8", text "utf8")], Written (.atom p.1) p.2 :=
    List.forall_mem_singleton.mpr (.bareAtom hname)
  have hutf8 : AsksUnicode [text "utf8"] :=
    ⟨text "utf8", List.mem_singleton_self _, List.mem_cons_self⟩
  obtain ⟨hstring, hsame⟩ :=
    string_contributes_iff written_no_types (hliteral "a") (hscalar "a") (some 16)
  obtain ⟨-, hunicode⟩ := string_contributes_iff htypes (hliteral "é") (hscalar "é") none
  have hquoted : segmentText (enclose '"' (text "a")) (some 16) [] = text "\"a\":16" := by
    decide +kernel
  have hnumber : ((text "a").map fun c => segmentText (Numeral.ofNat c.val) (some 16) []) =
      [text "97:16"] := by decide +kernel
  have hquoted' : segmentText (enclose '"' (text "é")) none [text "utf8"] =
      text "\"é\"/utf8" := by decide +kernel
  have hnumber' : ((text "é").map fun c =>
      segmentText (Numeral.ofNat c.val) none [text "utf8"]) = [text "233/utf8"] := by decide +kernel
  rw [← hquoted, ← hnumber, ← hquoted', ← hnumber']
  refine ⟨hliteral "a", hscalar "a", (hstring hsize).2 not_asksUnicode_nil, ?_, ?_⟩
  · intro h
    obtain ⟨-, hempty | hasks | height⟩ := hsame.mp h
    · cases hempty
    · exact not_asksUnicode_nil hasks
    · cases height
  · exact hunicode.mpr ⟨nofun, .inr (.inl hutf8)⟩

/-- A letter in quotes keeps one byte where its number takes two. -/
theorem ofText_sizedLetter :
    ofText (text "<<\"a\":16>>") = .ok (.binary (text "a")) ∧
      ofText (text "<<97:16>>") = .ok (.binary (text "\x00a")) := by
  have hsize : SizeFits (some 16) := sizeFits_some (by decide +kernel)
  have hletter : SpellsValue (enclose '"' (text "a")) (.chars (text "a")) :=
    spellsValue_string fun rest => Lexer.reads_string (text "a") rest
  have hbytes : bytesOf [⟨.integer 97, (8 * 2 : Nat), []⟩] = .ok "\x00a".toUTF8.data.toList := by
    rw [bytesOf_singleton, bytes_integer not_asksUnicode_nil, sizedBytes_of_le (by decide)]
    rfl
  have hstring := ofText_binaryOf_string (s := "a") [.ofParts written_no_types hletter hsize] rfl
  have hnumber := ofText_binaryOf_string
    [.ofParts written_no_types (spellsValue_val 'a') hsize] hbytes
  have hquoted : binaryOf [segmentText (enclose '"' (text "a")) (some 16) []] =
      text "<<\"a\":16>>" := by decide +kernel
  have hdecimal : binaryOf [segmentText (Numeral.ofNat 97) (some 16) []] =
      text "<<97:16>>" := by decide +kernel
  rw [← hquoted, ← hdecimal]
  exact ⟨hstring, hnumber⟩

end Faultline.Term
