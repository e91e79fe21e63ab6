import Faultline.Path.Shown
import Faultline.Proofs.Path.Reading
import Mathlib.Logic.Basic

/-!
# The place that a shown file names

Without links a file names a place in the tree of directories: `placeOf` walks down from the root
along the pieces of the file, or along those of the current directory first if the file is relative,
and goes up at every `..`. Showing a file relative to the current directory keeps its place.

A file is shown relative to the current directory if it lies there, but also if it stands under it
as both are written, even where a `..` behind the directory leads out of it again.

Results:
* `fold_append`, `fold_eq_append`: what folding `..` away does to components one after the other.
* `pathFrom?_cases`, `isSome_pathFrom?_iff`: when there is a path from a directory to a file.
* `placeOf_shownFile`: a shown file names the place of the file.
* `shownFile_ne_iff`: which files are not shown as they are.
-/

namespace Faultline.FilePath

/-! ## Folding -/

/-- The components behind those that were folded are folded onto the result. -/
theorem fold_append (done front back : List Text) :
    fold done (front ++ back) = fold (fold done front).reverse back := by
  induction front generalizing done with
  | nil => simp [fold]
  | cons c front ih =>
    rw [List.cons_append, fold, fold]
    split_ifs
    · exact ih _
    · exact ih _

/-- Components without `..` stay behind what was done. -/
theorem fold_eq_append {components : List Text} (h : text ".." ∉ components) (done : List Text) :
    fold done components = done.reverse ++ components := by
  induction components generalizing done with
  | nil => simp [fold]
  | cons c components ih =>
    rw [List.mem_cons, not_or] at h
    rw [fold, if_neg (Ne.symm h.1), ih h.2, List.reverse_cons, List.append_assoc]
    rfl

theorem mem_of_mem_fold {done components : List Text} {c : Text} (h : c ∈ fold done components) :
    c ∈ done ∨ c ∈ components ∧ c ≠ text ".." := by
  induction components generalizing done with
  | nil => exact .inl (List.mem_reverse.mp h)
  | cons d components ih =>
    rw [fold] at h
    split_ifs at h with hd
    · rcases ih h with hdone | ⟨hmem, hc⟩
      · exact .inl (List.mem_of_mem_drop hdone)
      · exact .inr ⟨List.mem_cons_of_mem _ hmem, hc⟩
    · rcases ih h with hdone | ⟨hmem, hc⟩
      · rcases List.mem_cons.mp hdone with rfl | hdone
        · exact .inr ⟨List.mem_cons_self, hd⟩
        · exact .inl hdone
      · exact .inr ⟨List.mem_cons_of_mem _ hmem, hc⟩

/-- No `..` is left after folding. -/
theorem not_up_mem_fold (components : List Text) : text ".." ∉ fold [] components := by
  intro h
  rcases mem_of_mem_fold h with h | ⟨-, h⟩
  · exact List.not_mem_nil h
  · exact h rfl

/-! ## Places -/

/-- One step of a walk from the root, the place being the names on the way down to it: an empty
    piece and `.` stay, `..` goes up unless at the root, and any other piece goes down. -/
def follow (place : List Text) (piece : Text) : List Text :=
  if piece = [] ∨ piece = text "." then place
  else if piece = text ".." then place.dropLast
  else place ++ [piece]

/-- The place that a file names when it is seen from a directory. -/
def placeOf (directory file : Text) : List Text :=
  let whole := if text "/" <+: file then file else directory ++ text "/" ++ file
  (whole.splitOn (CodePoint.ofChar '/')).foldl follow []

theorem foldl_follow_eq_fold (pieces done : List Text) :
    pieces.foldl follow done.reverse =
      fold done (pieces.filter fun piece => piece ≠ [] ∧ piece ≠ text ".") := by
  induction pieces generalizing done with
  | nil => rfl
  | cons piece pieces ih =>
    rw [List.foldl_cons, List.filter_cons, follow]
    by_cases hskip : piece = [] ∨ piece = text "."
    · have hdrop : ¬ (piece ≠ [] ∧ piece ≠ text ".") := fun h => hskip.elim h.1 h.2
      rw [if_pos hskip, ih, if_neg (by rwa [decide_eq_true_eq])]
    · have hkeep : piece ≠ [] ∧ piece ≠ text "." := not_or.mp hskip
      rw [if_neg hskip, if_pos (decide_eq_true hkeep), fold]
      split_ifs with hup
      · rw [← ih, List.drop_one, List.dropLast_reverse]
      · rw [← ih, List.reverse_cons]

theorem placeOf_of_absolute {file : Text} (h : text "/" <+: file) (directory : Text) :
    placeOf directory file = fold [] (names file) := by
  rw [placeOf, if_pos h]
  exact foldl_follow_eq_fold _ []

theorem placeOf_of_relative {file : Text} (h : ¬ text "/" <+: file) (directory : Text) :
    placeOf directory file = fold [] (names directory ++ names file) := by
  rw [placeOf, if_neg h, ← names_append_slash]
  exact foldl_follow_eq_fold _ []

/-! ## Paths from a directory -/

theorem behind?_eq_some_iff {front components rest : List Text} :
    behind? front components = some rest ↔ components = front ++ rest := by
  induction front generalizing components with
  | nil => simp [behind?]
  | cons c front ih =>
    cases components with
    | nil => simp [behind?]
    | cons d components =>
      rw [behind?, List.cons_append, List.cons.injEq]
      split_ifs with hc
      · rw [ih, hc]
        simp
      · exact iff_of_false nofun fun h => hc h.1.symm

theorem relativeTo?_eq_some_iff {directory p q : FilePath} :
    p.relativeTo? directory = some q ↔ p.root = directory.root ∧
      ∃ rest, p.components = directory.components ++ rest ∧ q = ⟨.relative, rest⟩ := by
  rw [relativeTo?]
  split_ifs with hroot
  · rw [Option.map_eq_some_iff, and_iff_right hroot]
    simp only [behind?_eq_some_iff, @eq_comm _ q]
  · exact iff_of_false nofun fun h => hroot h.1

theorem isSome_relativeTo?_iff {directory p : FilePath} :
    (p.relativeTo? directory).isSome ↔
      p.root = directory.root ∧ directory.components <+: p.components := by
  rw [Option.isSome_iff_exists]
  constructor
  · rintro ⟨q, hq⟩
    obtain ⟨hroot, rest, hrest, -⟩ := relativeTo?_eq_some_iff.mp hq
    exact ⟨hroot, rest, hrest.symm⟩
  · rintro ⟨hroot, rest, hrest⟩
    exact ⟨_, relativeTo?_eq_some_iff.mpr ⟨hroot, rest, hrest.symm, rfl⟩⟩

theorem resolve?_eq_some_iff {p q : FilePath} :
    p.resolve? = some q ↔ (p.isAbsolute = true ∧ ∀ c ∈ p.components, isNameable c = true) ∧
      q = ⟨.slash, fold [] p.components⟩ := by
  rw [resolve?]
  rw [← List.all_eq_true, ← Bool.and_eq_true]
  split_ifs with h
  · rw [Option.some.injEq, and_iff_right h, eq_comm]
  · exact iff_of_false nofun fun hp => h hp.1

/-- A path from a directory has the components that stand behind those of the directory, as both are
    written or else with both folded. -/
theorem pathFrom?_cases {directory file p : FilePath} (h : pathFrom? directory file = some p) :
    ∃ rest, p = ⟨.relative, rest⟩ ∧
      (file.components = directory.components ++ rest ∨
        fold [] file.components = fold [] directory.components ++ rest) := by
  unfold pathFrom? at h
  split at h
  · next q hq =>
    cases h
    obtain ⟨-, rest, hrest, hp⟩ := relativeTo?_eq_some_iff.mp hq
    exact ⟨rest, hp, .inl hrest⟩
  · split at h
    · next f d hf hd =>
      obtain ⟨-, rfl⟩ := resolve?_eq_some_iff.mp hf
      obtain ⟨-, rfl⟩ := resolve?_eq_some_iff.mp hd
      obtain ⟨-, rest, hrest, hp⟩ := relativeTo?_eq_some_iff.mp h
      exact ⟨rest, hp, .inr hrest⟩
    · cases h

/-- The components of a directory and those behind it lead to the file that they were taken from. -/
theorem fold_append_of_behind {directory file rest : List Text}
    (h : file = directory ++ rest ∨ fold [] file = fold [] directory ++ rest) :
    fold [] (directory ++ rest) = fold [] file := by
  rcases h with rfl | h
  · rfl
  · have hup : text ".." ∉ rest := by
      intro hmem
      refine not_up_mem_fold file ?_
      rw [h]
      exact List.mem_append_right _ hmem
    rw [fold_append, fold_eq_append hup, List.reverse_reverse, h]

end Faultline.FilePath

namespace Faultline

open FilePath

/-! ## Shown files -/

/-- The file stands under the directory as both are written. -/
def StandsUnder (directory file : Text) : Prop :=
  rootOf file = rootOf directory ∧ names directory <+: names file

/-- The file lies in the directory or is the directory. -/
def LiesIn (directory file : Text) : Prop := placeOf directory directory <+: placeOf directory file

/-- Every component of a path can be looked up. -/
def IsResolvable (t : Text) : Prop := ∀ c ∈ names t, isNameable c = true

instance (directory file : Text) : Decidable (StandsUnder directory file) :=
  inferInstanceAs (Decidable (_ ∧ _))

instance (directory file : Text) : Decidable (LiesIn directory file) :=
  inferInstanceAs (Decidable (_ <+: _))

instance (t : Text) : Decidable (IsResolvable t) := inferInstanceAs (Decidable (∀ c ∈ names t, _))

theorem liesIn_iff {directory file : Text} (hd : text "/" <+: directory) (hf : text "/" <+: file) :
    LiesIn directory file ↔ fold [] (names directory) <+: fold [] (names file) := by
  rw [LiesIn, placeOf_of_absolute hd, placeOf_of_absolute hf]

theorem resolve?_ofText_eq_some_iff {t : Text} (ht : text "/" <+: t) {p : FilePath} :
    (ofText t).resolve? = some p ↔ IsResolvable t ∧ p = ⟨.slash, fold [] (names t)⟩ := by
  rw [resolve?_eq_some_iff, and_iff_right (isAbsolute_ofText_iff.mpr ht), components_ofText]
  rfl

/-- There is a path from a directory to a file that stands under it or lies in it. -/
theorem isSome_pathFrom?_iff {directory file : Text} (hd : text "/" <+: directory)
    (hf : text "/" <+: file) :
    (pathFrom? (ofText directory) (ofText file)).isSome ↔ StandsUnder directory file ∨
      LiesIn directory file ∧ IsResolvable directory ∧ IsResolvable file := by
  have hstands : ((ofText file).relativeTo? (ofText directory)).isSome ↔
      StandsUnder directory file := by
    rw [isSome_relativeTo?_iff, components_ofText, components_ofText]
    rfl
  have hlies : (FilePath.relativeTo? ⟨.slash, fold [] (names file)⟩
      ⟨.slash, fold [] (names directory)⟩).isSome ↔ LiesIn directory file := by
    rw [isSome_relativeTo?_iff, liesIn_iff hd hf]
    exact and_iff_right rfl
  rw [← hstands, ← hlies]
  unfold pathFrom?
  split
  · next p hp => simp [hp]
  · next hnone =>
    rw [hnone]
    split
    · next f d hresolvef hresolved =>
      obtain ⟨hfile, rfl⟩ := (resolve?_ofText_eq_some_iff hf).mp hresolvef
      obtain ⟨hdirectory, rfl⟩ := (resolve?_ofText_eq_some_iff hd).mp hresolved
      simp [hfile, hdirectory]
    · next hunresolved =>
      refine iff_of_false nofun ?_
      rintro (h | ⟨-, hdirectory, hfile⟩)
      · cases h
      · exact hunresolved _ _ ((resolve?_ofText_eq_some_iff hf).mpr ⟨hfile, rfl⟩)
          ((resolve?_ofText_eq_some_iff hd).mpr ⟨hdirectory, rfl⟩)

/-- An absolute file is shown as it is, or by a path from the directory. -/
theorem shownFile_eq {file : Text} (hf : text "/" <+: file) (directory : Text) :
    shownFile (some directory) file =
      ((pathFrom? (ofText directory) (ofText file)).map toText).getD file := by
  unfold shownFile
  simp only
  rw [if_pos (isAbsolute_ofText_iff.mpr hf)]
  cases pathFrom? (ofText directory) (ofText file) with
  | none => rfl
  | some p => rfl

/-- What stands behind the directory in a path from it are names, and they lead to the file. -/
theorem exists_names_of_pathFrom? {directory file : Text} {p : FilePath}
    (h : pathFrom? (ofText directory) (ofText file) = some p) :
    ∃ rest, p = ⟨.relative, rest⟩ ∧ (∀ c ∈ rest, IsName c) ∧
      fold [] (names directory ++ rest) = fold [] (names file) := by
  obtain ⟨rest, rfl, hrest⟩ := pathFrom?_cases h
  rw [components_ofText, components_ofText] at hrest
  refine ⟨rest, rfl, ?_, fold_append_of_behind hrest⟩
  intro c hc
  refine isName_of_mem_names (t := file) ?_
  rcases hrest with hrest | hrest
  · rw [hrest]
    exact List.mem_append_right _ hc
  · have hmem : c ∈ fold [] (names file) := by
      rw [hrest]
      exact List.mem_append_right _ hc
    exact ((mem_of_mem_fold hmem).resolve_left List.not_mem_nil).1

/-- The text of a path from a directory to a file names the place of the file. -/
theorem placeOf_toText {directory file : Text} {p : FilePath} (hf : text "/" <+: file)
    (h : pathFrom? (ofText directory) (ofText file) = some p) :
    placeOf directory p.toText = placeOf directory file := by
  obtain ⟨rest, rfl, hnames, hfold⟩ := exists_names_of_pathFrom? h
  rw [placeOf_of_relative (not_slash_prefix_toText hnames), names_toText hnames, hfold,
    placeOf_of_absolute hf]

/-- An absolute file is shown otherwise than it is exactly if it stands under the directory as both
    are written, or lies in it and both can be resolved. -/
theorem shownFile_ne_iff {directory file : Text} (hd : text "/" <+: directory)
    (hf : text "/" <+: file) :
    shownFile (some directory) file ≠ file ↔ StandsUnder directory file ∨
      LiesIn directory file ∧ IsResolvable directory ∧ IsResolvable file := by
  rw [← isSome_pathFrom?_iff hd hf, shownFile_eq hf]
  cases hpath : pathFrom? (ofText directory) (ofText file) with
  | none => exact iff_of_false (fun h => h rfl) nofun
  | some p =>
    obtain ⟨rest, rfl, hnames, -⟩ := exists_names_of_pathFrom? hpath
    refine iff_of_true ?_ rfl
    intro (h : toText ⟨.relative, rest⟩ = file)
    rw [← h] at hf
    exact not_slash_prefix_toText hnames hf

/-- A shown file names the place of the file, whatever the file and the directory are. -/
theorem placeOf_shownFile (directory file : Text) :
    placeOf directory (shownFile (some directory) file) = placeOf directory file := by
  by_cases hf : text "/" <+: file
  · rw [shownFile_eq hf]
    cases hpath : pathFrom? (ofText directory) (ofText file) with
    | none => rfl
    | some p => exact placeOf_toText hf hpath
  · have hrelative : ¬ (ofText file).isAbsolute = true := mt isAbsolute_ofText_iff.mp hf
    rw [shownFile, if_neg hrelative]

/-- An absolute file that lies outside the directory is shown as it is unless it stands under the
    directory as both are written, and a file that is not shown as it is names something in the
    directory unless a `..` behind the directory leads out of it. -/
theorem shownFile_outside {directory file : Text} (hd : text "/" <+: directory)
    (hf : text "/" <+: file) :
    (¬ LiesIn directory file →
      (shownFile (some directory) file = file ↔ ¬ StandsUnder directory file)) ∧
    (shownFile (some directory) file ≠ file →
      (LiesIn directory (shownFile (some directory) file) ↔
        (StandsUnder directory file → LiesIn directory file))) := by
  have hchanged := shownFile_ne_iff hd hf
  constructor
  · intro hout
    rw [← not_iff_not, ← Ne, hchanged, not_not]
    exact or_iff_left fun h => hout h.1
  · intro hne
    have hplace : LiesIn directory (shownFile (some directory) file) ↔ LiesIn directory file := by
      rw [shownFile_eq hf] at hne ⊢
      cases hpath : pathFrom? (ofText directory) (ofText file) with
      | none =>
        rw [hpath] at hne
        exact absurd rfl hne
      | some p =>
        show _ <+: placeOf directory p.toText ↔ _
        rw [placeOf_toText hf hpath]
        rfl
    rw [hplace]
    constructor
    · exact fun h _ => h
    · intro h
      exact (hchanged.mp hne).elim h And.left

/-- A file in the directory beside the current one, written in two ways. -/
theorem shownFile_outside_sibling :
    (text "/" <+: text "/a/b" ∧ text "/" <+: text "/a/x/../c" ∧ text "/" <+: text "/a/b/../c") ∧
    ¬ LiesIn (text "/a/b") (text "/a/x/../c") ∧
    shownFile (some (text "/a/b")) (text "/a/x/../c") = text "/a/x/../c" ∧
    ¬ LiesIn (text "/a/b") (text "/a/b/../c") ∧
    shownFile (some (text "/a/b")) (text "/a/b/../c") ≠ text "/a/b/../c" := by
  have hd : text "/" <+: text "/a/b" := by decide
  have hf : text "/" <+: text "/a/x/../c" := by decide
  have hg : text "/" <+: text "/a/b/../c" := by decide
  have houtf : ¬ LiesIn (text "/a/b") (text "/a/x/../c") := by decide +kernel
  have houtg : ¬ LiesIn (text "/a/b") (text "/a/b/../c") := by decide +kernel
  refine ⟨⟨hd, hf, hg⟩, houtf, ?_, houtg, ?_⟩
  · exact ((shownFile_outside hd hf).1 houtf).mpr (by decide +kernel)
  · exact fun h => ((shownFile_outside hd hg).1 houtg).mp h (by decide +kernel)

/-- A file outside the directory that is not shown as it is, and names something outside. -/
theorem shownFile_leadingOut :
    ¬ LiesIn (text "/a/b") (text "/a/b/../../etc") ∧
    shownFile (some (text "/a/b")) (text "/a/b/../../etc") = text "../../etc" ∧
    ¬ LiesIn (text "/a/b") (text "../../etc") := by
  decide +kernel

end Faultline
