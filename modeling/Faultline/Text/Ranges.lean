/-!
# Sets of numbers as ascending ranges

A character property is a set of code points, and its table lists the set as closed ranges in
ascending order. `inRanges` looks a number up and stops at the first range that begins above it.
-/

namespace Faultline.Text

/-- Whether `n` lies in one of the closed ranges, which stand in ascending order. -/
def inRanges : List (Nat × Nat) → Nat → Bool
  | [], _ => false
  | (first, last) :: rest, n =>
    if n < first then false else if n ≤ last then true else inRanges rest n

/-- A number that is found lies in a listed range. -/
theorem exists_of_inRanges {ranges : List (Nat × Nat)} {n : Nat} (h : inRanges ranges n = true) :
    ∃ r ∈ ranges, r.1 ≤ n ∧ n ≤ r.2 := by
  induction ranges with
  | nil => simp [inRanges] at h
  | cons r rest ih =>
    obtain ⟨first, last⟩ := r
    unfold inRanges at h
    split at h
    · simp at h
    · split at h
      · exact ⟨(first, last), by simp, by simp; omega⟩
      · obtain ⟨r, hr, hn⟩ := ih h
        exact ⟨r, by simp [hr], hn⟩

/-- A number of one set is in no other set whose ranges are apart from those of the first. -/
theorem inRanges_eq_false_of_apart {ranges others : List (Nat × Nat)}
    (hapart : ∀ r ∈ ranges, ∀ s ∈ others, r.2 < s.1 ∨ s.2 < r.1) {n : Nat}
    (h : inRanges others n = true) : inRanges ranges n = false := by
  rw [← Bool.not_eq_true]
  intro hn
  obtain ⟨r, hr, hfirst, hlast⟩ := exists_of_inRanges hn
  obtain ⟨s, hs, hfirst', hlast'⟩ := exists_of_inRanges h
  have := hapart r hr s hs
  omega

end Faultline.Text
