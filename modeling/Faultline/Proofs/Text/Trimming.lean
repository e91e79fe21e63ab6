import Faultline.Text.Blank
import Mathlib.Data.List.DropRight

/-!
# Blanks and trimming

No visible character of ASCII is a blank. A text is its trimmed form with what was taken off at
either end. `List.rdropWhile` takes off at the end what `List.dropWhile` takes off at the head.

Results:
* `not_isBlank_of_ascii`: which characters are no blanks.
* `trimmed_split`, `trimmed_eq`: trimming takes off code points of a class at both ends, and all that
  stand around a text without any.
* `exists_trim`, `trim_eq`: the same for blanks.
-/

namespace Faultline.Text

/-- The visible characters of ASCII are no blanks. -/
theorem not_isBlank_of_ascii {c : CodePoint} (hlow : 0x21 ≤ c.val) (hhigh : c.val ≤ 0x7E) :
    isBlank c = false := by
  rw [← Bool.not_eq_true]
  intro hblank
  obtain ⟨r, hr, hfirst, hlast⟩ := exists_of_inRanges hblank
  have hall : ∀ s ∈ blankRanges, s.2 < 0x21 ∨ 0x7E < s.1 := by decide
  have := hall r hr
  omega

section

variable {α : Type} {p : α → Bool}

theorem trimmed_split (p : α → Bool) (l : List α) :
    l.takeWhile p ++ ((l.dropWhile p).rdropWhile p ++ (l.dropWhile p).rtakeWhile p) = l := by
  rw [List.rdropWhile_append_rtakeWhile, List.takeWhile_append_dropWhile]

/-- Trimming takes off just what surrounds a part without code points of the class. -/
theorem trimmed_eq {before core after : List α} (hbefore : ∀ a ∈ before, p a = true)
    (hcore : ∀ a ∈ core, p a = false) (hafter : ∀ a ∈ after, p a = true) (hne : core ≠ []) :
    ((before ++ core ++ after).dropWhile p).rdropWhile p = core := by
  obtain ⟨c, rest, rfl⟩ := List.exists_cons_of_ne_nil hne
  have hfirst : ((before ++ c :: rest ++ after).dropWhile p) = c :: rest ++ after := by
    rw [List.append_assoc, List.dropWhile_append_of_pos hbefore, List.cons_append,
      List.dropWhile_cons_of_neg (by rw [hcore c List.mem_cons_self]; exact Bool.false_ne_true)]
  rw [hfirst, List.rdropWhile, List.reverse_append,
    List.dropWhile_append_of_pos fun a ha => hafter a (List.mem_reverse.mp ha)]
  -- what is left has nothing of the class, so nothing more is taken off at its end
  refine List.rdropWhile_eq_self_iff.mpr fun hl => ?_
  rw [hcore _ (List.getLast_mem hl)]
  exact Bool.false_ne_true

end

/-- A text is its trimmed form with blanks around it. -/
theorem exists_trim (t : Text) :
    ∃ before after, t = before ++ trim t ++ after ∧ (∀ c ∈ before, isBlank c = true) ∧
      ∀ c ∈ after, isBlank c = true := by
  refine ⟨t.takeWhile isBlank, (t.dropWhile isBlank).rtakeWhile isBlank, ?_, ?_, ?_⟩
  · rw [List.append_assoc]
    exact (trimmed_split isBlank t).symm
  · exact fun c hc => List.mem_takeWhile_imp hc
  · exact fun c hc => List.mem_rtakeWhile_imp hc

/-- Trimming takes off just the blanks around a text without blanks. -/
theorem trim_eq {before core after : Text} (hbefore : ∀ c ∈ before, isBlank c = true)
    (hcore : ∀ c ∈ core, isBlank c = false) (hafter : ∀ c ∈ after, isBlank c = true)
    (hne : core ≠ []) : trim (before ++ core ++ after) = core :=
  trimmed_eq hbefore hcore hafter hne

end Faultline.Text
