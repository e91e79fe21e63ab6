import Faultline.Text.Utf8
import Mathlib.Data.List.Forall2
import Mathlib.Data.List.TakeWhile
import Mathlib.Tactic.SplitIfs

/-!
# UTF-8 is read back exactly

`decode` looks at first bytes and the ranges `following` gives them; `encodeOne` computes with the
number of a code point. Both describe the same sequences.

Results:
* `encode_eq_ok_iff`: a text has UTF-8 bytes exactly if it holds no surrogates.
* `decode_eq_ok_iff`: bytes are read as a text exactly if they are the bytes of the text.
* `decode_eq_ok_iff_encode`: reading and writing are inverse to each other.
* `decode_eq_ok_text_iff`: the bytes of the strings of the core library are those that are read.
-/

namespace Faultline.Utf8

/-! ## Ranges of bytes -/

/-- Whether bytes lie in ranges, one for one. -/
abbrev Within (ranges : List (UInt8 × UInt8)) (bytes : List UInt8) : Prop :=
  List.Forall₂ (fun r b => r.1 ≤ b ∧ b ≤ r.2) ranges bytes

theorem fill_append {ranges : List (UInt8 × UInt8)} {more : List UInt8} (h : Within ranges more)
    (rest : List UInt8) : fill ranges (more ++ rest) = (more.length, none) := by
  induction h with
  | nil => rfl
  | cons hb _ ih =>
    rw [List.cons_append, fill, if_pos (by simpa using hb), ih]
    rfl

theorem within_of_fill {ranges : List (UInt8 × UInt8)} :
    ∀ {rest : List UInt8} {filled : Nat}, fill ranges rest = (filled, none) →
      Within ranges (rest.take filled) := by
  induction ranges with
  | nil =>
    intro rest filled h
    cases h
    exact .nil
  | cons r ranges ih =>
    intro rest filled h
    cases rest with
    | nil => simp [fill] at h
    | cons b rest =>
      rw [fill] at h
      split_ifs at h with hb
      · rcases hf : fill ranges rest with ⟨more, flaw⟩
        rw [hf] at h
        cases h
        rw [List.take_succ_cons]
        exact .cons (by simpa using hb) (ih hf)
      · cases h

/-! ## First bytes and the bytes after them -/

theorem byte_eq_ofNat {b : UInt8} {n : Nat} (h : n = b.toNat) : UInt8.ofNat n = b := by
  rw [h, UInt8.ofNat_toNat]

theorem toNat_ofNat {n : Nat} (h : n < 0x100) : (UInt8.ofNat n).toNat = n :=
  UInt8.toNat_ofNat_of_lt' h

theorem toNat_continuation (n : Nat) : (continuation n).toNat = 0x80 + n % 0x40 := by
  unfold continuation
  exact toNat_ofNat (by omega)

theorem continuation_eq {b : UInt8} {n : Nat} (h : 0x80 + n % 0x40 = b.toNat) :
    continuation n = b := byte_eq_ofNat h

/-- A byte that continues a sequence. -/
def IsTail (b : UInt8) : Prop := 0x80 ≤ b.toNat ∧ b.toNat ≤ 0xBF

/-- The least byte that may follow a first byte of three or four. -/
def secondLow (b : UInt8) : UInt8 := if b = 0xE0 then 0xA0 else if b = 0xF0 then 0x90 else 0x80

/-- The greatest byte that may follow a first byte of three or four. -/
def secondHigh (b : UInt8) : UInt8 := if b = 0xED then 0x9F else if b = 0xF4 then 0x8F else 0xBF

/-- The table of first bytes by the length of the sequence. -/
theorem following_eq (b : UInt8) :
    following b =
      if b.toNat < 0x80 then some []
      else if b.toNat < 0xC2 then none
      else if b.toNat < 0xE0 then some [(0x80, 0xBF)]
      else if b.toNat < 0xF0 then some [(secondLow b, secondHigh b), (0x80, 0xBF)]
      else if b.toNat ≤ 0xF4 then some [(secondLow b, secondHigh b), (0x80, 0xBF), (0x80, 0xBF)]
      else none := by
  unfold following secondLow secondHigh
  simp only [UInt8.lt_iff_toNat_lt, ← UInt8.toNat_inj, UInt8.reduceToNat]
  split_ifs <;> first | rfl | omega

theorem secondLow_le_iff {b x : UInt8} :
    secondLow b ≤ x ↔
      0x80 ≤ x.toNat ∧ (b.toNat = 0xE0 → 0xA0 ≤ x.toNat) ∧ (b.toNat = 0xF0 → 0x90 ≤ x.toNat) := by
  unfold secondLow
  rw [UInt8.le_iff_toNat_le]
  simp only [← UInt8.toNat_inj, UInt8.reduceToNat]
  split_ifs <;> simp only [UInt8.reduceToNat] <;> omega

theorem le_secondHigh_iff {b x : UInt8} :
    x ≤ secondHigh b ↔
      x.toNat ≤ 0xBF ∧ (b.toNat = 0xED → x.toNat ≤ 0x9F) ∧ (b.toNat = 0xF4 → x.toNat ≤ 0x8F) := by
  unfold secondHigh
  rw [UInt8.le_iff_toNat_le]
  simp only [← UInt8.toNat_inj, UInt8.reduceToNat]
  split_ifs <;> simp only [UInt8.reduceToNat] <;> omega

theorem isTail_iff {x : UInt8} : IsTail x ↔ (0x80 ≤ x ∧ x ≤ 0xBF) := by
  simp only [IsTail, UInt8.le_iff_toNat_le, UInt8.reduceToNat]

/-! ## Sequences are the sequences of characters -/

theorem encodeOne_two {b x : UInt8} {c : CodePoint} (hx : IsTail x) (h1 : 0xC2 ≤ b.toNat)
    (h2 : b.toNat < 0xE0) (hc : c.val = b.toNat % 0x20 * 0x40 + x.toNat % 0x40) :
    c.IsScalar ∧ encodeOne c = [b, x] := by
  unfold IsTail at hx
  unfold CodePoint.IsScalar CodePoint.IsSurrogate encodeOne
  simp only
  rw [if_neg (by omega), if_pos (by omega), byte_eq_ofNat (b := b) (by omega),
    continuation_eq (b := x) (by omega)]
  exact ⟨by omega, rfl⟩

theorem encodeOne_three {b x y : UInt8} {c : CodePoint} (hx : IsTail x) (hy : IsTail y)
    (h1 : 0xE0 ≤ b.toNat) (h2 : b.toNat < 0xF0) (hlow : b.toNat = 0xE0 → 0xA0 ≤ x.toNat)
    (hhigh : b.toNat = 0xED → x.toNat ≤ 0x9F)
    (hc : c.val = (b.toNat % 0x10 * 0x40 + x.toNat % 0x40) * 0x40 + y.toNat % 0x40) :
    c.IsScalar ∧ encodeOne c = [b, x, y] := by
  unfold IsTail at hx hy
  unfold CodePoint.IsScalar CodePoint.IsSurrogate encodeOne
  simp only
  rw [if_neg (by omega), if_neg (by omega), if_pos (by omega), byte_eq_ofNat (b := b) (by omega),
    continuation_eq (b := x) (by omega), continuation_eq (b := y) (by omega)]
  exact ⟨by omega, rfl⟩

theorem encodeOne_four {b x y z : UInt8} {c : CodePoint} (hx : IsTail x) (hy : IsTail y)
    (hz : IsTail z) (h1 : 0xF0 ≤ b.toNat) (h2 : b.toNat ≤ 0xF4)
    (hlow : b.toNat = 0xF0 → 0x90 ≤ x.toNat) (hhigh : b.toNat = 0xF4 → x.toNat ≤ 0x8F)
    (hc : c.val = ((b.toNat % 0x08 * 0x40 + x.toNat % 0x40) * 0x40 + y.toNat % 0x40) * 0x40 +
      z.toNat % 0x40) :
    c.IsScalar ∧ encodeOne c = [b, x, y, z] := by
  unfold IsTail at hx hy hz
  unfold CodePoint.IsScalar CodePoint.IsSurrogate encodeOne
  simp only
  rw [if_neg (by omega), if_neg (by omega), if_neg (by omega), byte_eq_ofNat (b := b) (by omega),
    continuation_eq (b := x) (by omega), continuation_eq (b := y) (by omega),
    continuation_eq (b := z) (by omega)]
  exact ⟨by omega, rfl⟩

/-- Bytes that `following` allows after a first byte are the sequence of the character they
    spell. -/
theorem encodeOne_sequence {b : UInt8} {ranges : List (UInt8 × UInt8)} {more : List UInt8}
    (hb : following b = some ranges) (h : Within ranges more) {c : CodePoint}
    (hc : c.val = sequenceNumber b more) : c.IsScalar ∧ encodeOne c = b :: more := by
  rw [following_eq] at hb
  split_ifs at hb with h1 h2 h3 h4 h5 <;> cases hb
  · cases h
    have hc : c.val = b.toNat := hc
    unfold CodePoint.IsScalar CodePoint.IsSurrogate encodeOne
    simp only
    rw [if_pos (by omega), byte_eq_ofNat hc]
    exact ⟨by omega, rfl⟩
  · obtain _ | ⟨hx, ⟨⟩⟩ := h
    exact encodeOne_two (isTail_iff.mpr hx) (by omega) h3 hc
  · obtain _ | ⟨hx, _ | ⟨hy, ⟨⟩⟩⟩ := h
    have hlow := secondLow_le_iff.mp hx.1
    have hhigh := le_secondHigh_iff.mp hx.2
    exact encodeOne_three ⟨hlow.1, hhigh.1⟩ (isTail_iff.mpr hy) (by omega) h4 hlow.2.1 hhigh.2.1 hc
  · obtain _ | ⟨hx, _ | ⟨hy, _ | ⟨hz, ⟨⟩⟩⟩⟩ := h
    have hlow := secondLow_le_iff.mp hx.1
    have hhigh := le_secondHigh_iff.mp hx.2
    exact encodeOne_four ⟨hlow.1, hhigh.1⟩ (isTail_iff.mpr hy) (isTail_iff.mpr hz) (by omega) h5
      hlow.2.2 hhigh.2.2 hc

theorem sequenceNumber_lt {b : UInt8} {ranges : List (UInt8 × UInt8)} {more : List UInt8}
    (hb : following b = some ranges) (h : Within ranges more) :
    sequenceNumber b more < 0x110000 := by
  rw [following_eq] at hb
  split_ifs at hb with h1 h2 h3 h4 h5 <;> cases hb
  · cases h
    show b.toNat < 0x110000
    omega
  · obtain _ | ⟨hx, ⟨⟩⟩ := h
    simp only [sequenceNumber, leadBits, List.foldl_cons, List.foldl_nil, List.length_cons,
      List.length_nil]
    omega
  · obtain _ | ⟨hx, _ | ⟨hy, ⟨⟩⟩⟩ := h
    simp only [sequenceNumber, leadBits, List.foldl_cons, List.foldl_nil, List.length_cons,
      List.length_nil]
    omega
  · obtain _ | ⟨hx, _ | ⟨hy, _ | ⟨hz, ⟨⟩⟩⟩⟩ := h
    have hlow := secondLow_le_iff.mp hx.1
    have hhigh := le_secondHigh_iff.mp hx.2
    simp only [sequenceNumber, leadBits, List.foldl_cons, List.foldl_nil, List.length_cons,
      List.length_nil]
    omega

theorem isTail_continuation (n : Nat) : 0x80 ≤ continuation n ∧ continuation n ≤ 0xBF := by
  rw [← isTail_iff]
  unfold IsTail
  rw [toNat_continuation]
  omega

/-- The sequence of a character is one that `following` allows, and it spells the character. -/
theorem exists_sequence {c : CodePoint} (hc : c.IsScalar) :
    ∃ b ranges more, encodeOne c = b :: more ∧ following b = some ranges ∧ Within ranges more ∧
      sequenceNumber b more = c.val := by
  have hlt := c.val_lt
  unfold CodePoint.IsScalar CodePoint.IsSurrogate at hc
  unfold encodeOne
  simp only
  split_ifs with h1 h2 h3
  · generalize hb : UInt8.ofNat c.val = b
    have hn : b.toNat = c.val := by rw [← hb, toNat_ofNat (by omega)]
    refine ⟨b, [], [], rfl, ?_, .nil, hn⟩
    rw [following_eq, if_pos (by omega)]
  · generalize hb : UInt8.ofNat (0xC0 + c.val / 0x40) = b
    have hn : b.toNat = 0xC0 + c.val / 0x40 := by rw [← hb, toNat_ofNat (by omega)]
    refine ⟨b, [(0x80, 0xBF)], [_], rfl, ?_, .cons (isTail_continuation _) .nil, ?_⟩
    · rw [following_eq, if_neg (by omega), if_neg (by omega), if_pos (by omega)]
    · simp only [sequenceNumber, leadBits, List.foldl_cons, List.foldl_nil, List.length_cons,
        List.length_nil, toNat_continuation]
      omega
  · generalize hb : UInt8.ofNat (0xE0 + c.val / 0x1000) = b
    have hn : b.toNat = 0xE0 + c.val / 0x1000 := by rw [← hb, toNat_ofNat (by omega)]
    refine ⟨b, [(secondLow b, secondHigh b), (0x80, 0xBF)], [_, _], rfl, ?_,
      .cons ⟨secondLow_le_iff.mpr ?_, le_secondHigh_iff.mpr ?_⟩
        (.cons (isTail_continuation _) .nil), ?_⟩
    · rw [following_eq, if_neg (by omega), if_neg (by omega), if_neg (by omega), if_pos (by omega)]
    · rw [toNat_continuation]
      omega
    · rw [toNat_continuation]
      omega
    · simp only [sequenceNumber, leadBits, List.foldl_cons, List.foldl_nil, List.length_cons,
        List.length_nil, toNat_continuation]
      omega
  · generalize hb : UInt8.ofNat (0xF0 + c.val / 0x40000) = b
    have hn : b.toNat = 0xF0 + c.val / 0x40000 := by rw [← hb, toNat_ofNat (by omega)]
    refine ⟨b, [(secondLow b, secondHigh b), (0x80, 0xBF), (0x80, 0xBF)], [_, _, _], rfl, ?_,
      .cons ⟨secondLow_le_iff.mpr ?_, le_secondHigh_iff.mpr ?_⟩
        (.cons (isTail_continuation _) (.cons (isTail_continuation _) .nil)), ?_⟩
    · rw [following_eq, if_neg (by omega), if_neg (by omega), if_neg (by omega),
        if_neg (by omega), if_pos (by omega)]
    · rw [toNat_continuation]
      omega
    · rw [toNat_continuation]
      omega
    · simp only [sequenceNumber, leadBits, List.foldl_cons, List.foldl_nil, List.length_cons,
        List.length_nil, toNat_continuation]
      omega

theorem decodeFrom_encodeOne {c : CodePoint} (hc : c.IsScalar) (position : Nat)
    (rest : List UInt8) :
    decodeFrom position (encodeOne c ++ rest) =
      (decodeFrom (position + (encodeOne c).length) rest).map (c :: ·) := by
  obtain ⟨b, ranges, more, he, hf, hw, hn⟩ := exists_sequence hc
  have hv : CodePoint.wrap (sequenceNumber b more) = c := by rw [hn, CodePoint.wrap_val]
  rw [he, List.cons_append, decodeFrom, hf]
  simp only [fill_append hw, List.take_left, List.drop_left, hv, List.length_cons]
  rw [Nat.add_right_comm, Nat.add_assoc position]
  cases decodeFrom (position + (more.length + 1)) rest <;> rfl

/-- Reading one sequence of bytes and writing it again. -/
theorem encodeOne_wrap_sequence {b : UInt8} {ranges : List (UInt8 × UInt8)} {more : List UInt8}
    (hb : following b = some ranges) (h : Within ranges more) :
    let c := CodePoint.wrap (sequenceNumber b more)
    c.IsScalar ∧ encodeOne c = b :: more :=
  encodeOne_sequence hb h (Nat.mod_eq_of_lt (sequenceNumber_lt hb h))

/-- UTF-8 bytes are read as a text exactly if they are the bytes of the text. -/
theorem decodeFrom_eq_ok_iff {position : Nat} {bytes : List UInt8} {t : Text} :
    decodeFrom position bytes = .ok t ↔ (∀ c ∈ t, c.IsScalar) ∧ t.flatMap encodeOne = bytes := by
  constructor
  · intro h
    fun_induction decodeFrom position bytes generalizing t with
    | case1 =>
      cases h
      exact ⟨by simp, rfl⟩
    | case2 => cases h
    | case3 => cases h
    | case4 => cases h
    | case5 position b rest ranges hb filled hf t' ht ih =>
      cases h
      obtain ⟨hs, he⟩ := ih ht
      obtain ⟨hc, hone⟩ := encodeOne_wrap_sequence hb (within_of_fill hf)
      refine ⟨?_, ?_⟩
      · intro c hm
        rcases List.mem_cons.mp hm with rfl | hm
        · exact hc
        · exact hs c hm
      · rw [List.flatMap_cons, hone, he, List.cons_append, List.take_append_drop]
  · rintro ⟨hs, rfl⟩
    induction t generalizing position with
    | nil => rw [List.flatMap_nil, decodeFrom]
    | cons c t ih =>
      rw [List.flatMap_cons, decodeFrom_encodeOne (hs c (by simp)),
        ih (fun d hd => hs d (by simp [hd]))]
      rfl

/-! ## Writing and reading -/

theorem surrogateRun?_eq_none_iff {t : Text} : surrogateRun? t = none ↔ ∀ c ∈ t, c.IsScalar := by
  have h : t.dropWhile (fun c => decide c.IsScalar) = [] ↔ ∀ c ∈ t, c.IsScalar := by
    simp only [List.dropWhile_eq_nil_iff, decide_eq_true_eq]
  rw [← h]
  unfold surrogateRun? runAfter?
  cases t.dropWhile (fun c => decide c.IsScalar) with
  | nil => simp
  | cons c rest => simp

/-- A text has UTF-8 bytes exactly if it holds no surrogates. -/
theorem encode_eq_ok_iff {t : Text} {bytes : List UInt8} :
    encode t = .ok bytes ↔ (∀ c ∈ t, c.IsScalar) ∧ t.flatMap encodeOne = bytes := by
  unfold encode
  rw [← surrogateRun?_eq_none_iff]
  cases surrogateRun? t with
  | none => simp
  | some run => simp

theorem decode_eq_ok_iff {bytes : List UInt8} {t : Text} :
    decode bytes = .ok t ↔ (∀ c ∈ t, c.IsScalar) ∧ t.flatMap encodeOne = bytes :=
  decodeFrom_eq_ok_iff

/-- Reading bytes and writing a text are inverse to each other. -/
theorem decode_eq_ok_iff_encode {bytes : List UInt8} {t : Text} :
    decode bytes = .ok t ↔ encode t = .ok bytes := by
  rw [decode_eq_ok_iff, encode_eq_ok_iff]

/-! ## Strings -/

/-- A character has the bytes that the core library gives it. -/
theorem encodeOne_ofChar (c : Char) :
    encodeOne (CodePoint.ofChar c) = String.utf8EncodeChar c := by
  have hlt : c.val.toNat < 0x110000 := (CodePoint.ofChar c).val_lt
  have hlead (width : Nat) {base n : Nat} (h : n < width) : base + n = n % width + base := by
    rw [Nat.mod_eq_of_lt h, Nat.add_comm]
  show encodeOne ⟨c.val.toNat, hlt⟩ = _
  unfold encodeOne String.utf8EncodeChar continuation
  simp only [Nat.add_comm 0x80]
  generalize c.val.toNat = n at hlt
  by_cases h1 : n < 0x80
  · rw [if_pos h1, if_pos (show n ≤ 127 by omega)]
  rw [if_neg h1, if_neg (show ¬ n ≤ 127 by omega)]
  by_cases h2 : n < 0x800
  · rw [if_pos h2, if_pos (show n ≤ 2047 by omega), hlead 32 (by omega)]
  rw [if_neg h2, if_neg (show ¬ n ≤ 2047 by omega)]
  by_cases h3 : n < 0x10000
  · rw [if_pos h3, if_pos (show n ≤ 65535 by omega), hlead 16 (by omega)]
  · rw [if_neg h3, if_neg (show ¬ n ≤ 65535 by omega), hlead 8 (by omega)]

/-- The bytes of a string are those of its text. -/
theorem toUTF8_eq (s : String) : s.toUTF8.data.toList = (text s).flatMap encodeOne := by
  have hencode : s.toList.utf8Encode = s.toUTF8 := String.utf8Encode_toList
  rw [← hencode, List.utf8Encode, List.data_toByteArray, text, List.flatMap_map]
  simp only [encodeOne_ofChar]

theorem exists_ofChar {c : CodePoint} (h : c.IsScalar) : ∃ d : Char, CodePoint.ofChar d = c := by
  have hlt := c.val_lt
  unfold CodePoint.IsScalar CodePoint.IsSurrogate at h
  have hvalid : Nat.isValidChar c.val := by
    unfold Nat.isValidChar
    omega
  refine ⟨Char.ofNat c.val, ?_⟩
  ext
  rw [Char.ofNat, dif_pos hvalid]
  rfl

/-- A text without surrogates is the text of a string. -/
theorem exists_text_eq_iff {t : Text} : (∃ s : String, text s = t) ↔ ∀ c ∈ t, c.IsScalar := by
  constructor
  · rintro ⟨s, rfl⟩ c hc
    obtain ⟨d, -, rfl⟩ := List.mem_map.mp hc
    exact CodePoint.isScalar_ofChar d
  · intro h
    induction t with
    | nil => exact ⟨"", rfl⟩
    | cons c t ih =>
      obtain ⟨hc, ht⟩ := List.forall_mem_cons.mp h
      obtain ⟨d, rfl⟩ := exists_ofChar hc
      obtain ⟨s, rfl⟩ := ih ht
      exact ⟨String.ofList (d :: s.toList), by simp [text]⟩

/-- The bytes that are the UTF-8 form of a string are those that are read as its text. -/
theorem decode_eq_ok_text_iff {bytes : List UInt8} {s : String} :
    decode bytes = .ok (text s) ↔ s.toUTF8.data.toList = bytes := by
  rw [decode_eq_ok_iff, toUTF8_eq]
  exact and_iff_right (exists_text_eq_iff.mp ⟨s, rfl⟩)

end Faultline.Utf8
