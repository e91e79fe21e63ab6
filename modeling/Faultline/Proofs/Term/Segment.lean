import Faultline.Proofs.Text.Utf8
import Faultline.Term.Segment
import Mathlib.Data.Nat.Digits.Lemmas
import Mathlib.Tactic.Ring

/-!
# What segments and binaries stand for

`Segment.StandsFor` says which bytes a segment of a binary contributes, and `BytesSpell` which text
the bytes of a whole binary are; neither computes them.

Results:
* `bigEndianValue_bigEndian`: the bytes of an integer have its value modulo a power of 256.
* `bytes_eq_ok_iff`: the bytes that are computed for a segment are those it stands for.
* `binaryText_eq_iff`: the text that is computed for bytes is the one they spell.
-/

namespace Faultline.Term

/-! ## Integers as bytes -/

/-- The number that bytes spell, most significant first. -/
def bigEndianValue (bytes : List UInt8) : Nat := Nat.ofDigits 256 (bytes.reverse.map UInt8.toNat)

theorem bigEndianOnto_eq (width : Nat) :
    ∀ (n : Int) (acc : List UInt8), bigEndianOnto width n acc = bigEndian width n ++ acc := by
  induction width with
  | zero =>
    intro n acc
    rfl
  | succ width ih =>
    intro n acc
    unfold bigEndian
    rw [bigEndianOnto, bigEndianOnto, ih, ih, List.append_assoc]
    rfl

theorem bigEndian_succ (width : Nat) (n : Int) :
    bigEndian (width + 1) n = bigEndian width (n / 256) ++ [UInt8.ofNat (n % 256).toNat] := by
  unfold bigEndian
  rw [bigEndianOnto, bigEndianOnto_eq, bigEndian]

theorem length_bigEndian (width : Nat) : ∀ n : Int, (bigEndian width n).length = width := by
  induction width with
  | zero =>
    intro n
    rfl
  | succ width ih =>
    intro n
    rw [bigEndian_succ, List.length_append, ih, List.length_singleton]

theorem bigEndianValue_append (bytes : List UInt8) (b : UInt8) :
    bigEndianValue (bytes ++ [b]) = b.toNat + 256 * bigEndianValue bytes := by
  unfold bigEndianValue
  rw [List.reverse_append, List.reverse_singleton, List.singleton_append, List.map_cons,
    Nat.ofDigits_cons]

/-- The bytes of an integer have its value modulo a power of 256. -/
theorem bigEndianValue_bigEndian (width : Nat) :
    ∀ n : Int, (bigEndianValue (bigEndian width n) : Int) = n % 256 ^ width := by
  induction width with
  | zero =>
    intro n
    simp [bigEndian, bigEndianOnto, bigEndianValue]
  | succ width ih =>
    intro n
    have hb : ((UInt8.ofNat (n % 256).toNat).toNat : Int) = n % 256 := by
      rw [Utf8.toNat_ofNat (by omega)]
      omega
    have hmod : n % (256 * 256 ^ width) = n % 256 + 256 * (n / 256 % 256 ^ width) := by
      rw [Int.emod_def n (256 * 256 ^ width), Int.emod_def (n / 256), Int.emod_def n 256,
        ← Int.ediv_ediv_of_nonneg (by decide)]
      ring
    rw [bigEndian_succ, bigEndianValue_append, Int.natCast_add, Int.natCast_mul, ih, hb, pow_succ',
      hmod]
    rfl

/-- Bytes of one length are determined by the number they spell. -/
theorem eq_of_bigEndianValue_eq {xs ys : List UInt8} (hlen : xs.length = ys.length)
    (h : bigEndianValue xs = bigEndianValue ys) : xs = ys := by
  have hlt : ∀ zs : List UInt8, ∀ d ∈ zs.reverse.map UInt8.toNat, d < 256 := by
    intro zs d hd
    obtain ⟨b, -, rfl⟩ := List.mem_map.mp hd
    exact b.toNat_lt
  have hdigits : xs.reverse.map UInt8.toNat = ys.reverse.map UInt8.toNat :=
    Nat.ofDigits_inj_of_len_eq (by decide) (by simpa using hlen) (hlt xs) (hlt ys) h
  have hinj : Function.Injective UInt8.toNat := fun a b hab => UInt8.toNat_inj.mp hab
  exact List.reverse_injective (hinj.list_map hdigits)

/-! ## Segments -/

/-- A list of type names asks for the encoding of code points. -/
def AsksUnicode (types : List Text) : Prop := ∃ t ∈ types, t ∈ unicodeTypes

/-- The bytes that a segment stands for. A size is a whole number of bytes, and no integer has more
    bits. -/
inductive Segment.StandsFor : Segment → List UInt8 → Prop where
  /-- A text gives the low byte of each code point. -/
  | lowBytes {t : Text} {size : Int} {types : List Text} (h : ¬ AsksUnicode types) :
    StandsFor ⟨.chars t, size, types⟩ (t.map fun c => UInt8.ofNat c.val)
  /-- A text with a Unicode type gives its UTF-8 bytes. -/
  | encodedText {t : Text} {size : Int} {types : List Text} (h : AsksUnicode types)
    (ht : ∀ c ∈ t, c.IsScalar) : StandsFor ⟨.chars t, size, types⟩ (t.flatMap Utf8.encodeOne)
  /-- A number with a Unicode type gives the UTF-8 bytes of its code point. -/
  | encodedNumber {c : CodePoint} {size : Int} {types : List Text} (h : AsksUnicode types)
    (hc : c.IsScalar) : StandsFor ⟨.integer c.val, size, types⟩ (Utf8.encodeOne c)
  /-- A number gives bytes that have its value modulo the power of two of its size. -/
  | number {n : Int} {bytes : List UInt8} {types : List Text} (h : ¬ AsksUnicode types)
    (hlimit : 8 * bytes.length ≤ bitLimit)
    (hn : (bigEndianValue bytes : Int) = n % 2 ^ (8 * bytes.length)) :
    StandsFor ⟨.integer n, (8 * bytes.length : Nat), types⟩ bytes

theorem not_asksUnicode_nil : ¬ AsksUnicode [] := by
  rintro ⟨_, h, -⟩
  cases h

theorem isUnicode_iff {s : Segment} : s.isUnicode = true ↔ AsksUnicode s.types := by
  simp only [Segment.isUnicode, List.any_eq_true, List.contains_iff_mem, AsksUnicode]

theorem utf8Bytes_eq_ok_iff {t : Text} {bytes : List UInt8} :
    utf8Bytes t = .ok bytes ↔ (∀ c ∈ t, c.IsScalar) ∧ t.flatMap Utf8.encodeOne = bytes := by
  rw [← Utf8.encode_eq_ok_iff]
  unfold utf8Bytes
  cases Utf8.encode t with
  | ok bytes => simp
  | error run => simp

theorem codePointBytes_eq_ok_iff {n : Int} {bytes : List UInt8} :
    codePointBytes n = .ok bytes ↔
      ∃ c : CodePoint, n = c.val ∧ c.IsScalar ∧ Utf8.encodeOne c = bytes := by
  cases n with
  | negSucc k =>
    constructor
    · intro h
      cases h
    · rintro ⟨c, hc, -⟩
      cases hc
  | ofNat k =>
    unfold codePointBytes
    by_cases hk : k < 0x110000
    · have hc : CodePoint.ofNat? k = some ⟨k, hk⟩ := dif_pos hk
      simp only [hc, utf8Bytes_eq_ok_iff, List.mem_singleton, forall_eq, List.flatMap_singleton]
      constructor
      · rintro ⟨hs, rfl⟩
        exact ⟨⟨k, hk⟩, rfl, hs, rfl⟩
      · rintro ⟨c, hc, hs, rfl⟩
        obtain rfl : k = c.val := Int.ofNat.inj hc
        exact ⟨hs, rfl⟩
    · have hc : CodePoint.ofNat? k = none := dif_neg hk
      simp only [hc, reduceCtorEq, false_iff, not_exists, not_and]
      intro c hc
      have := c.val_lt
      obtain rfl : k = c.val := Int.ofNat.inj hc
      omega

theorem two_pow_eight_mul (width : Nat) : (2 : Int) ^ (8 * width) = 256 ^ width := by
  rw [pow_mul]
  rfl

theorem sizedBytes_eq_ok_iff {size n : Int} {bytes : List UInt8} :
    sizedBytes size n = .ok bytes ↔
      size = (8 * bytes.length : Nat) ∧ 8 * bytes.length ≤ bitLimit ∧
        (bigEndianValue bytes : Int) = n % 2 ^ (8 * bytes.length) := by
  unfold sizedBytes
  constructor
  · intro h
    split_ifs at h with h1 h2 h3
    cases h
    rw [length_bigEndian, bigEndianValue_bigEndian, two_pow_eight_mul]
    exact ⟨by omega, by omega, rfl⟩
  · rintro ⟨rfl, hlimit, hn⟩
    rw [if_neg (by omega), if_neg (by omega), if_neg (by omega)]
    have hw : ((8 * bytes.length : Nat) / 8 : Int).toNat = bytes.length := by omega
    rw [hw]
    refine congrArg Except.ok (eq_of_bigEndianValue_eq (length_bigEndian _ _) ?_)
    have hv := bigEndianValue_bigEndian bytes.length n
    rw [← two_pow_eight_mul, ← hn] at hv
    exact Int.ofNat.inj hv

/-- The bytes that are computed for a segment are those it stands for. -/
theorem bytes_eq_ok_iff {s : Segment} {bytes : List UInt8} :
    s.bytes = .ok bytes ↔ s.StandsFor bytes := by
  obtain ⟨value, size, types⟩ := s
  unfold Segment.bytes
  constructor
  · intro h
    cases value with
    | float x => cases h
    | chars t =>
      simp only at h
      split_ifs at h with hu
      · obtain ⟨hs, rfl⟩ := utf8Bytes_eq_ok_iff.mp h
        exact .encodedText (isUnicode_iff.mp hu) hs
      · cases h
        exact .lowBytes (fun h' => hu (isUnicode_iff.mpr h'))
    | integer n =>
      simp only at h
      split_ifs at h with hu
      · obtain ⟨c, rfl, hs, rfl⟩ := codePointBytes_eq_ok_iff.mp h
        exact .encodedNumber (isUnicode_iff.mp hu) hs
      · obtain ⟨rfl, hlimit, hn⟩ := sizedBytes_eq_ok_iff.mp h
        exact .number (fun h' => hu (isUnicode_iff.mpr h')) hlimit hn
  · intro h
    cases h with
    | lowBytes h =>
      simp only
      rw [if_neg (mt isUnicode_iff.mp h)]
      rfl
    | encodedText h ht =>
      simp only
      rw [if_pos (isUnicode_iff.mpr h), utf8Bytes_eq_ok_iff]
      exact ⟨ht, rfl⟩
    | encodedNumber h hc =>
      simp only
      rw [if_pos (isUnicode_iff.mpr h), codePointBytes_eq_ok_iff]
      exact ⟨_, rfl, hc, rfl⟩
    | number h hlimit hn =>
      simp only
      rw [if_neg (mt isUnicode_iff.mp h), sizedBytes_eq_ok_iff]
      exact ⟨rfl, hlimit, hn⟩

/-- A number without a Unicode type takes its size. -/
theorem bytes_integer {types : List Text} (h : ¬ AsksUnicode types) (size n : Int) :
    Segment.bytes ⟨.integer n, size, types⟩ = sizedBytes size n :=
  if_neg (mt isUnicode_iff.mp h)

theorem sizedBytes_of_le {width : Nat} (h : 8 * width ≤ bitLimit) (n : Int) :
    sizedBytes (8 * width : Nat) n = .ok (bigEndian width n) := by
  rw [sizedBytes_eq_ok_iff, length_bigEndian, two_pow_eight_mul]
  exact ⟨rfl, h, bigEndianValue_bigEndian width n⟩

theorem bigEndian_one (n : Nat) : bigEndian 1 n = [UInt8.ofNat n] := by
  have hbyte : UInt8.ofNat ((n : Int) % 256).toNat = UInt8.ofNat n := by
    rw [← UInt8.toNat_inj, UInt8.toNat_ofNat', UInt8.toNat_ofNat']
    omega
  rw [bigEndian_succ, hbyte]
  rfl

/-! ## Binaries -/

/-- The text of a binary: its bytes are read as UTF-8, or as Latin-1 if they are not UTF-8. -/
inductive BytesSpell : List UInt8 → Text → Prop where
  | utf8 {t : Text} (h : ∀ c ∈ t, c.IsScalar) : BytesSpell (t.flatMap Utf8.encodeOne) t
  | latin1 {bytes : List UInt8}
    (h : ¬ ∃ t : Text, (∀ c ∈ t, c.IsScalar) ∧ t.flatMap Utf8.encodeOne = bytes) :
    BytesSpell bytes (bytes.map CodePoint.ofByte)

/-- The text that is computed for bytes is the one they spell. -/
theorem binaryText_eq_iff {bytes : List UInt8} {t : Text} :
    binaryText bytes = t ↔ BytesSpell bytes t := by
  unfold binaryText
  constructor
  · rintro rfl
    cases hd : Utf8.decode bytes with
    | ok t =>
      obtain ⟨hs, rfl⟩ := Utf8.decode_eq_ok_iff.mp hd
      exact .utf8 hs
    | error flaw =>
      refine .latin1 ?_
      rintro ⟨t, ht⟩
      rw [Utf8.decode_eq_ok_iff.mpr ht] at hd
      cases hd
  · intro h
    cases h with
    | utf8 h => rw [Utf8.decode_eq_ok_iff.mpr ⟨h, rfl⟩]
    | latin1 h =>
      cases hd : Utf8.decode bytes with
      | ok t => exact absurd ⟨t, Utf8.decode_eq_ok_iff.mp hd⟩ h
      | error flaw => rfl

end Faultline.Term
