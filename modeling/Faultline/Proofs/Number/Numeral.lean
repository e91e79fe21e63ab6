import Faultline.Number.Numeral
import Mathlib.Algebra.Group.Nat.Defs

/-!
# Decimal numerals

What `write` gives in base ten is a non-empty sequence of ASCII digits that spells the number.

Results:
* `isAsciiDigit_of_mem_ofNat`: only digits are written.
* `decimalValue_ofNat`: the digits spell the number.
* `length_ofNat_le`, `lt_pow_length_ofNat`: how many digits a number has.
* `isTooLong_iff`, `isTooLong_eq_false`: which numbers have more digits than may be written.
-/

namespace Faultline.Numeral

/-! ## Digits -/

theorem val_digitSign {d : Nat} (hd : d < 10) : (digitSign d).val = 0x30 + d := by
  unfold digitSign
  rw [if_pos hd]
  exact Nat.mod_eq_of_lt (by omega)

theorem isAsciiDigit_digitSign {d : Nat} (hd : d < 10) : (digitSign d).isAsciiDigit = true := by
  unfold CodePoint.isAsciiDigit
  rw [val_digitSign hd]
  simp only [Bool.and_eq_true, decide_eq_true_eq]
  omega

theorem digitBelow?_digitSign {d : Nat} (hd : d < 10) : digitBelow? 10 (digitSign d) = some d := by
  have hvalue : digitValue? (digitSign d) = some d := by
    unfold digitValue?
    rw [val_digitSign hd, if_pos (by omega)]
    congr 1
    omega
  unfold digitBelow?
  rw [hvalue]
  exact if_pos hd

theorem decimalValue_append (digits : Text) {d : Nat} (hd : d < 10) :
    decimalValue (digits ++ [digitSign d]) = decimalValue digits * 10 + d := by
  unfold decimalValue ofDigits
  rw [List.map_append, List.foldl_append, List.map_singleton, digitBelow?_digitSign hd]
  rfl

/-! ## Numerals -/

theorem ofNat_of_lt {n : Nat} (hn : n < 10) : ofNat n = [digitSign n] := by
  unfold ofNat
  rw [write, dif_pos (.inl hn)]

theorem ofNat_of_le {n : Nat} (hn : 10 ≤ n) :
    ofNat n = ofNat (n / 10) ++ [digitSign (n % 10)] := by
  unfold ofNat
  rw [write, dif_neg (by omega)]

theorem ofNat_ne_nil (n : Nat) : ofNat n ≠ [] := by
  by_cases hn : n < 10
  · rw [ofNat_of_lt hn]
    exact List.cons_ne_nil _ _
  · rw [ofNat_of_le (by omega)]
    exact List.append_ne_nil_of_right_ne_nil _ (List.cons_ne_nil _ _)

/-- Only digits are written. -/
theorem isAsciiDigit_of_mem_ofNat {c : CodePoint} (n : Nat) (h : c ∈ ofNat n) :
    c.isAsciiDigit = true := by
  induction n using Nat.strongRecOn with
  | ind n ih =>
    by_cases hn : n < 10
    · rw [ofNat_of_lt hn] at h
      obtain rfl := List.mem_singleton.mp h
      exact isAsciiDigit_digitSign hn
    · rw [ofNat_of_le (by omega)] at h
      rcases List.mem_append.mp h with h | h
      · exact ih (n / 10) (by omega) h
      · obtain rfl := List.mem_singleton.mp h
        exact isAsciiDigit_digitSign (by omega)

/-- The digits that are written spell the number. -/
theorem decimalValue_ofNat (n : Nat) : decimalValue (ofNat n) = n := by
  induction n using Nat.strongRecOn with
  | ind n ih =>
    by_cases hn : n < 10
    · rw [ofNat_of_lt hn]
      have hvalue := decimalValue_append [] hn
      rw [List.nil_append] at hvalue
      rw [hvalue]
      exact Nat.zero_add n
    · rw [ofNat_of_le (by omega), decimalValue_append _ (by omega), ih (n / 10) (by omega)]
      omega

/-- A number below a power of ten has at most as many digits as the exponent says. -/
theorem length_ofNat_le (k : Nat) : ∀ {n : Nat}, n < 10 ^ (k + 1) → (ofNat n).length ≤ k + 1 := by
  induction k with
  | zero =>
    intro n hn
    rw [ofNat_of_lt (by omega)]
    exact Nat.le_refl 1
  | succ k ih =>
    intro n hn
    by_cases hsmall : n < 10
    · rw [ofNat_of_lt hsmall, List.length_singleton]
      omega
    · have hdiv : n / 10 < 10 ^ (k + 1) := by
        rw [Nat.div_lt_iff_lt_mul (by decide)]
        rwa [Nat.pow_succ] at hn
      rw [ofNat_of_le (by omega), List.length_append, List.length_singleton]
      exact Nat.succ_le_succ (ih hdiv)

theorem lt_pow_length_ofNat (n : Nat) : n < 10 ^ (ofNat n).length := by
  induction n using Nat.strongRecOn with
  | ind n ih =>
    by_cases hn : n < 10
    · rw [ofNat_of_lt hn]
      exact hn
    · have hdiv := ih (n / 10) (by omega)
      rw [ofNat_of_le (by omega), List.length_append, List.length_singleton, Nat.pow_succ]
      omega

/-- A smaller number has no more digits. -/
theorem length_ofNat_mono {m n : Nat} (h : m ≤ n) : (ofNat m).length ≤ (ofNat n).length := by
  have hpos : 0 < (ofNat n).length := List.length_pos_iff.mpr (ofNat_ne_nil n)
  obtain ⟨k, hk⟩ := Nat.exists_eq_add_one.mpr hpos
  rw [hk]
  refine length_ofNat_le k ?_
  rw [← hk]
  exact Nat.lt_of_le_of_lt h (lt_pow_length_ofNat n)

theorem length_ofNat_val_le (c : CodePoint) : (ofNat c.val).length ≤ decimalLimit := by
  have hlt : c.val < 10 ^ (6 + 1) := Nat.lt_trans c.val_lt (by decide)
  exact Nat.le_trans (length_ofNat_le 6 hlt) (by decide)

/-! ## The limit of decimal numerals -/

theorem isTooLong_iff {n : Int} : isTooLong n = true ↔ 10 ^ decimalLimit ≤ n.natAbs := by
  rw [isTooLong, decide_eq_true_eq, Nat.pow_eq]

/-- A number with few enough digits is not too long. -/
theorem isTooLong_eq_false {n : Int} (h : (ofNat n.natAbs).length ≤ decimalLimit) :
    isTooLong n = false := by
  rw [← Bool.not_eq_true, isTooLong_iff, Nat.not_le]
  exact Nat.lt_of_lt_of_le (lt_pow_length_ofNat n.natAbs) (Nat.pow_le_pow_right (by decide) h)

end Faultline.Numeral
