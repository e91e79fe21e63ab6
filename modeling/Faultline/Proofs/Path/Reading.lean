import Faultline.Path.Basic
import Mathlib.Tactic.SplitIfs

/-!
# Reading paths

A path is read off the pieces between the slashes of a text. `names` keeps the pieces that name
something; they are the components of the path, and a list of names that is joined by slashes is
read back.

Results:
* `components_ofText`, `isAbsolute_ofText_iff`, `rootOf_eq_twoSlashes_iff`: what a text is read as.
* `names_append_slash`: a slash between two texts puts their names together.
* `names_toText`, `not_slash_prefix_toText`: a relative path is read back from its text.
-/

namespace Faultline.FilePath

/-! ## Pieces between slashes -/

theorem splitSlashes_eq_splitOn (t : Text) : splitSlashes t = t.splitOn (CodePoint.ofChar '/') := by
  induction t with
  | nil => rfl
  | cons c t ih =>
    obtain ⟨piece, pieces, hpieces⟩ :=
      List.exists_cons_of_ne_nil (List.splitOnP_ne_nil (· == CodePoint.ofChar '/') t)
    rw [splitSlashes, ih]
    unfold List.splitOn
    rw [List.splitOnP_cons_eq_if_modifyHead, hpieces]
    by_cases hc : c = '/'
    · simp [hc]
    · simp [hc]

/-- The pieces between the slashes of a text that name something: those that are neither empty
    nor `.`. -/
def names (t : Text) : List Text :=
  (t.splitOn (CodePoint.ofChar '/')).filter fun piece => piece ≠ [] ∧ piece ≠ text "."

theorem isComponent_eq (piece : Text) :
    isComponent piece = decide (piece ≠ [] ∧ piece ≠ text ".") := by
  rw [Bool.eq_iff_iff]
  simp [isComponent]

theorem components_ofText (t : Text) : (ofText t).components = names t := by
  show (splitSlashes t).filter isComponent = names t
  rw [splitSlashes_eq_splitOn, names]
  exact List.filter_congr fun piece _ => isComponent_eq piece

/-- A slash between two texts puts their names together. -/
theorem names_append_slash (t u : Text) : names (t ++ text "/" ++ u) = names t ++ names u := by
  have hsplit : (t ++ text "/" ++ u).splitOn (CodePoint.ofChar '/') =
      t.splitOn (CodePoint.ofChar '/') ++ u.splitOn (CodePoint.ofChar '/') := by
    rw [List.append_assoc]
    exact List.splitOnP_append_cons t u (beq_self_eq_true _)
  rw [names, hsplit, List.filter_append]
  rfl

/-- A name can stand between slashes and be read back. -/
structure IsName (piece : Text) : Prop where
  ne_nil : piece ≠ []
  ne_dot : piece ≠ text "."
  no_slash : CodePoint.ofChar '/' ∉ piece

/-- What stands in a piece stands in the text and is no slash. -/
theorem mem_of_mem_splitSlashes {t piece : Text} (h : piece ∈ splitSlashes t) {c : CodePoint}
    (hc : c ∈ piece) : c ∈ t ∧ c ≠ '/' := by
  induction t generalizing piece with
  | nil =>
    rw [List.mem_singleton.mp h] at hc
    exact absurd hc List.not_mem_nil
  | cons d t ih =>
    have hinner {inner : Text} (hinner : inner ∈ splitSlashes t) (hc : c ∈ inner) :
        c ∈ d :: t ∧ c ≠ '/' :=
      ⟨List.mem_cons_of_mem _ (ih hinner hc).1, (ih hinner hc).2⟩
    rw [splitSlashes] at h
    split_ifs at h with hd
    · rcases List.mem_cons.mp h with rfl | h
      · exact absurd hc List.not_mem_nil
      · exact hinner h hc
    · split at h
      · rw [List.mem_singleton.mp h] at hc
        obtain rfl := List.mem_singleton.mp hc
        exact ⟨List.mem_cons_self, hd⟩
      · next front pieces hpieces =>
        rw [hpieces] at hinner
        rcases List.mem_cons.mp h with rfl | h
        · rcases List.mem_cons.mp hc with rfl | hc
          · exact ⟨List.mem_cons_self, hd⟩
          · exact hinner List.mem_cons_self hc
        · exact hinner (List.mem_cons_of_mem _ h) hc

theorem mem_splitSlashes_of_mem_names {t name : Text} (h : name ∈ names t) :
    name ∈ splitSlashes t := by
  rw [splitSlashes_eq_splitOn]
  exact (List.mem_filter.mp h).1

theorem mem_of_mem_names {t name : Text} (h : name ∈ names t) {c : CodePoint} (hc : c ∈ name) :
    c ∈ t :=
  (mem_of_mem_splitSlashes (mem_splitSlashes_of_mem_names h) hc).1

theorem isName_of_mem_names {t name : Text} (h : name ∈ names t) : IsName name := by
  obtain ⟨hnil, hdot⟩ := of_decide_eq_true (List.mem_filter.mp h).2
  refine ⟨hnil, hdot, ?_⟩
  intro hc
  exact (mem_of_mem_splitSlashes (mem_splitSlashes_of_mem_names h) hc).2 rfl

/-! ## Roots -/

/-- How many slashes stand at the head of a text. -/
def slashes (t : Text) : Nat := (t.takeWhile fun (c : CodePoint) => decide (c = '/')).length

theorem replicate_slash_prefix_iff (n : Nat) {t : Text} :
    List.replicate n (CodePoint.ofChar '/') <+: t ↔ n ≤ slashes t := by
  induction n generalizing t with
  | zero => simp
  | succ n ih =>
    cases t with
    | nil => simp [slashes, List.replicate_succ]
    | cons c t =>
      rw [List.replicate_succ, List.cons_prefix_cons, ih]
      by_cases hc : c = '/'
      · simp [slashes, hc]
      · simp [slashes, hc, Ne.symm hc]

theorem rootOf_eq (t : Text) :
    rootOf t = if slashes t = 0 then .relative else if slashes t = 2 then .twoSlashes else .slash := by
  unfold rootOf
  rw [← slashes]
  split
  · next h => rw [if_pos h]
  · next h => rw [if_neg (by omega), if_pos h]
  · next hzero htwo => rw [if_neg hzero, if_neg htwo]

/-- A path is absolute if its text has a slash at its head. -/
theorem isAbsolute_ofText_iff {t : Text} : (ofText t).isAbsolute = true ↔ text "/" <+: t := by
  have hone : text "/" <+: t ↔ 1 ≤ slashes t := replicate_slash_prefix_iff 1
  show (rootOf t != .relative) = true ↔ _
  rw [bne_iff_ne, hone, rootOf_eq]
  split_ifs with hzero htwo
  · simp [hzero]
  · simp [htwo]
  · simp [Nat.one_le_iff_ne_zero, hzero]

/-- Exactly two slashes at the head of a text make a root of their own. -/
theorem rootOf_eq_twoSlashes_iff {t : Text} :
    rootOf t = .twoSlashes ↔ text "//" <+: t ∧ ¬ text "///" <+: t := by
  have htwo : text "//" <+: t ↔ 2 ≤ slashes t := replicate_slash_prefix_iff 2
  have hthree : text "///" <+: t ↔ 3 ≤ slashes t := replicate_slash_prefix_iff 3
  rw [htwo, hthree, rootOf_eq]
  split_ifs with hzero htwo
  · exact iff_of_false nofun (by omega)
  · exact iff_of_true rfl (by omega)
  · exact iff_of_false nofun (by omega)

/-! ## Writing and reading back -/

theorem join_eq_intercalate (pieces : List Text) :
    Text.join (text "/") pieces = [CodePoint.ofChar '/'].intercalate pieces := by
  induction pieces with
  | nil => rfl
  | cons piece pieces ih =>
    cases pieces with
    | nil => simp [Text.join]
    | cons next rest =>
      rw [Text.join, ih, List.intercalate_cons_cons]
      · rfl
      · nofun

section Relative

variable {components : List Text} (h : ∀ c ∈ components, IsName c)

include h

theorem splitOn_join (hne : components ≠ []) :
    (Text.join (text "/") components).splitOn (CodePoint.ofChar '/') = components := by
  rw [join_eq_intercalate]
  exact List.splitOn_intercalate _ (fun c hc => (h c hc).no_slash) hne

theorem toText_relative (hne : components ≠ []) :
    toText ⟨.relative, components⟩ = Text.join (text "/") components := by
  have hjoin : Text.join (text "/") components ≠ [] := by
    intro hnil
    have hsplit := splitOn_join h hne
    rw [hnil, List.splitOn_nil] at hsplit
    exact (h [] (hsplit ▸ List.mem_singleton.mpr rfl)).ne_nil rfl
  show (if (Text.join (text "/") components).isEmpty then _ else _) = _
  rw [if_neg]
  · rfl
  · rwa [List.isEmpty_iff]

/-- A relative path is read back from its text. -/
theorem names_toText : names (toText ⟨.relative, components⟩) = components := by
  by_cases hne : components = []
  · rw [hne]
    decide
  · rw [toText_relative h hne, names, splitOn_join h hne, List.filter_eq_self]
    intro c hc
    exact decide_eq_true ⟨(h c hc).ne_nil, (h c hc).ne_dot⟩

/-- The text of a relative path is relative. -/
theorem not_slash_prefix_toText : ¬ text "/" <+: toText ⟨.relative, components⟩ := by
  by_cases hne : components = []
  · rw [hne]
    decide
  · rw [toText_relative h hne]
    rintro ⟨rest, hrest⟩
    have hsplit := splitOn_join h hne
    have hslash : ([CodePoint.ofChar '/'] ++ rest).splitOn (CodePoint.ofChar '/') =
        [] :: rest.splitOn (CodePoint.ofChar '/') :=
      List.splitOnP_append_cons [] rest (beq_self_eq_true _)
    rw [← hrest] at hsplit
    exact (h [] (hsplit ▸ hslash ▸ List.mem_cons_self)).ne_nil rfl

end Relative

end Faultline.FilePath
