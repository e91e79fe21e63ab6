import Faultline.Proofs.Number.Numeral
import Mathlib.Data.List.Forall2
import Mathlib.Data.Nat.Digits.Defs

/-!
# Numerals in a base

`Spells base t n` says that the text `t` is a numeral of the number `n`: ASCII digits and letters of
either case, each of a value below the base, whose positional value is `n`. Zeros may lead.

Results:
* `digitValue?_eq_some_iff`: the digits are the ones that are read.
* `spells_write`: what is written in a base is a numeral of the number.
* `Spells.unique`: a text is a numeral of one number at most.
* `ofDigits_of_spells`: a numeral spells its number for every function that gives the values of its
  digits.
* `decimalValue_of_spells`: hence a decimal numeral is read as its number.
-/

namespace Faultline.Numeral

/-! ## Digits -/

/-- The digits and their values: `0` to `9`, then the letters of either case from ten. -/
inductive IsDigit : CodePoint → Nat → Prop where
  | decimal {c : CodePoint} {d : Nat} (hd : d < 10) (hc : c.val = 0x30 + d) : IsDigit c d
  | lower {c : CodePoint} {d : Nat} (hd : d < 26) (hc : c.val = 0x61 + d) : IsDigit c (10 + d)
  | upper {c : CodePoint} {d : Nat} (hd : d < 26) (hc : c.val = 0x41 + d) : IsDigit c (10 + d)

theorem digitValue?_eq_some_iff {c : CodePoint} {d : Nat} :
    digitValue? c = some d ↔ IsDigit c d := by
  constructor
  · intro h
    unfold digitValue? at h
    split_ifs at h with hdecimal hlower hupper
    · cases h
      exact .decimal (by omega) (by omega)
    · obtain rfl : 10 + (c.val - 0x61) = d := by
        rw [← Option.some.inj h]
        omega
      exact .lower (by omega) (by omega)
    · obtain rfl : 10 + (c.val - 0x41) = d := by
        rw [← Option.some.inj h]
        omega
      exact .upper (by omega) (by omega)
  · intro h
    unfold digitValue?
    cases h with
    | decimal hd hc =>
      rw [if_pos (by omega), hc, Nat.add_sub_cancel_left]
    | lower hd hc =>
      rw [if_neg (by omega), if_pos (by omega), hc]
      congr 1
      omega
    | upper hd hc =>
      rw [if_neg (by omega), if_neg (by omega), if_pos (by omega), hc]
      congr 1
      omega

theorem digitBelow?_eq_some_iff {base d : Nat} {c : CodePoint} :
    digitBelow? base c = some d ↔ IsDigit c d ∧ d < base := by
  rw [← digitValue?_eq_some_iff]
  unfold digitBelow?
  cases digitValue? c with
  | none => simp
  | some v =>
    simp only [Option.ite_none_right_eq_some, Option.some.injEq]
    constructor
    · rintro ⟨hv, rfl⟩
      exact ⟨rfl, hv⟩
    · rintro ⟨rfl, hv⟩
      exact ⟨hv, rfl⟩

theorem IsDigit.unique {c : CodePoint} {d e : Nat} (hd : IsDigit c d) (he : IsDigit c e) :
    d = e := by
  rw [← digitValue?_eq_some_iff] at hd he
  exact Option.some.inj (hd.symm.trans he)

theorem IsDigit.val_le {c : CodePoint} {d : Nat} (h : IsDigit c d) :
    0x30 ≤ c.val ∧ c.val ≤ 0x7A := by
  cases h with
  | decimal hd hc | lower hd hc | upper hd hc => omega

theorem IsDigit.val_eq {c : CodePoint} {d : Nat} (h : IsDigit c d) (hd : d < 10) :
    c.val = 0x30 + d := by
  cases h with
  | decimal _ hc => exact hc
  | lower | upper => omega

theorem isDigit_digitSign {d : Nat} (hd : d < 36) : IsDigit (digitSign d) d := by
  by_cases hten : d < 10
  · exact .decimal hten (val_digitSign hten)
  · obtain ⟨k, rfl⟩ := Nat.exists_eq_add_of_le (Nat.not_lt.mp hten)
    refine .lower (by omega) ?_
    unfold digitSign
    rw [if_neg hten]
    show (0x57 + (10 + k)) % 0x80 = 0x61 + k
    omega

/-! ## Positional values -/

/-- The digits count from the left here, and from the right in the library. -/
theorem ofDigits_eq (base : Nat) (ds : List Nat) :
    ofDigits base ds = Nat.ofDigits base ds.reverse := by
  unfold ofDigits
  rw [List.foldl_eq_foldr_reverse, Nat.ofDigits_eq_foldr]
  congr 1
  funext d n
  rw [Nat.mul_comm, Nat.add_comm]
  rfl

/-- The text is a numeral of the number in the base. -/
def Spells (base : Nat) (t : Text) (n : Nat) : Prop :=
  t ≠ [] ∧ ∃ ds, List.Forall₂ (fun c d => IsDigit c d ∧ d < base) t ds ∧
    Nat.ofDigits base ds.reverse = n

theorem Spells.unique {base m n : Nat} {t : Text} (hm : Spells base t m) (hn : Spells base t n) :
    m = n := by
  obtain ⟨-, ds, hds, rfl⟩ := hm
  obtain ⟨-, es, hes, rfl⟩ := hn
  have hunique : Relator.RightUnique fun (c : CodePoint) d => IsDigit c d ∧ d < base :=
    fun _ _ _ hd he => hd.1.unique he.1
  rw [List.right_unique_forall₂' hunique hds hes]

theorem Spells.exists_isDigit {base n : Nat} {t : Text} (h : Spells base t n) :
    ∀ c ∈ t, ∃ d, IsDigit c d ∧ d < base := by
  obtain ⟨-, ds, hds, -⟩ := h
  induction hds with
  | nil => exact nofun
  | cons hc _ ih => exact List.forall_mem_cons.mpr ⟨⟨_, hc⟩, ih⟩

theorem spells_digitSign {base d : Nat} (hd : d < base) (hbase : base ≤ 36) :
    Spells base [digitSign d] d :=
  ⟨List.cons_ne_nil _ _, [d], .cons ⟨isDigit_digitSign (by omega), hd⟩ .nil, Nat.ofDigits_singleton⟩

/-- A digit behind a numeral is its last one. -/
theorem Spells.append_digitSign {base d n : Nat} {t : Text} (h : Spells base t n) (hd : d < base)
    (hbase : base ≤ 36) : Spells base (t ++ [digitSign d]) (d + base * n) := by
  obtain ⟨-, ds, hds, rfl⟩ := h
  refine ⟨List.append_ne_nil_of_right_ne_nil _ (List.cons_ne_nil _ _), ds ++ [d], ?_, ?_⟩
  · exact List.rel_append hds (.cons ⟨isDigit_digitSign (by omega), hd⟩ .nil)
  · rw [List.reverse_append, List.reverse_singleton, List.singleton_append, Nat.ofDigits_cons]

/-- What is written in a base is a numeral of the number. -/
theorem spells_write {base : Nat} (hlow : 2 ≤ base) (hhigh : base ≤ 36) (n : Nat) :
    Spells base (write base n) n := by
  induction n using Nat.strongRecOn with
  | ind n ih =>
    by_cases hn : n < base
    · rw [write, dif_pos (.inl hn)]
      exact spells_digitSign hn hhigh
    · have hquotient := ih (n / base) (Nat.div_lt_self (by omega) (by omega))
      have hlast := hquotient.append_digitSign (Nat.mod_lt n (by omega)) hhigh
      rw [Nat.mod_add_div] at hlast
      rwa [write, dif_neg (by omega)]

theorem spells_ofNat (n : Nat) : Spells 10 (ofNat n) n :=
  spells_write (by decide) (by decide) n

/-- A numeral spells its number for every function that gives the values of its digits. -/
theorem ofDigits_of_spells {base n : Nat} {t : Text} (h : Spells base t n) {f : CodePoint → Nat}
    (hf : ∀ c d, IsDigit c d → d < base → f c = d) : ofDigits base (t.map f) = n := by
  obtain ⟨-, ds, hds, rfl⟩ := h
  have hvalues : t.map f = ds := by
    induction hds with
    | nil => rfl
    | cons hc _ ih => rw [List.map_cons, ih, hf _ _ hc.1 hc.2]
  rw [hvalues, ofDigits_eq]

/-- A decimal numeral is read as its number. -/
theorem decimalValue_of_spells {t : Text} {n : Nat} (h : Spells 10 t n) : decimalValue t = n := by
  refine ofDigits_of_spells h fun c d hc hd => ?_
  rw [digitBelow?_eq_some_iff.mpr ⟨hc, hd⟩]
  rfl

end Faultline.Numeral
