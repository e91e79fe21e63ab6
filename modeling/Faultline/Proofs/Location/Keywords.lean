import Faultline.Location
import Mathlib.Data.List.Forall2
import Mathlib.Logic.Relation

/-!
# Metadata as keywords

Metadata that is given as keys and values says where a node stands through the first values of three
keys alone. So it does not matter whether the keys and values come as a list, as a tuple or as the
mapping that keeps the first value of each key, and no edit of them matters that leaves the first
values of these keys as they are.

Results:
* `keepsFirst_keepFirst`: putting keys into a mapping one after the other keeps their first values.
* `Edit.firstValue_eq`: which edits leave the first values as they are.
* `resolveLocation_keywords`: all ways to give the keywords, edited or not, have the same result, and
  which place that is.
-/

namespace Faultline

/-- Keys that are texts, with their values. -/
abbrev Keywords := List (Text × Value)

namespace Keywords

/-! ## First values -/

/-- The first value of a key. -/
def firstValue (key : Text) (ps : Keywords) : Option Value :=
  (ps.find? fun p => p.1 = key).map Prod.snd

theorem firstValue_cons (key : Text) (p : Text × Value) (ps : Keywords) :
    firstValue key (p :: ps) = if p.1 = key then some p.2 else firstValue key ps := by
  unfold firstValue
  rw [List.find?_cons]
  split_ifs with hkey
  · simp [hkey]
  · simp [hkey]

theorem firstValue_append (key : Text) (ps qs : Keywords) :
    firstValue key (ps ++ qs) = (firstValue key ps).or (firstValue key qs) := by
  unfold firstValue
  rw [List.find?_append]
  cases ps.find? fun p => p.1 = key with
  | none => rfl
  | some p => rfl

theorem isSome_firstValue_iff {key : Text} {ps : Keywords} :
    (firstValue key ps).isSome = true ↔ key ∈ ps.map Prod.fst := by
  unfold firstValue
  simp

/-- The first value of a key depends on the pairs of that key only. -/
theorem firstValue_eq_of_filter {key : Text} {ps qs : Keywords}
    (h : ps.filter (fun p => p.1 = key) = qs.filter fun p => p.1 = key) :
    firstValue key ps = firstValue key qs := by
  unfold firstValue
  rw [← List.head?_filter, ← List.head?_filter, h]

/-! ## Mappings -/

/-- The mapping has the keys of the keywords, each once and with its first value. -/
structure KeepsFirst (ps m : Keywords) : Prop where
  nodup : (m.map Prod.fst).Nodup
  firstValue_eq : ∀ key, firstValue key m = firstValue key ps

/-- A pair is put into a mapping, unless its key is there. -/
def put (m : Keywords) (p : Text × Value) : Keywords := if p.1 ∈ m.map Prod.fst then m else m ++ [p]

/-- The mapping that arises when the pairs are put into it one after the other. -/
def keepFirst (ps : Keywords) : Keywords := ps.foldl put []

/-- Putting a pair in keeps the first values of the pairs that were put in and of this one. -/
theorem KeepsFirst.put {ps m : Keywords} (h : KeepsFirst ps m) (p : Text × Value) :
    KeepsFirst (ps ++ [p]) (m.put p) := by
  unfold Keywords.put
  split_ifs with hmem
  · -- the key is there, so its first value stands in front of the pair
    refine ⟨h.nodup, ?_⟩
    intro key
    rw [firstValue_append, ← h.firstValue_eq, firstValue_cons]
    split_ifs with hkey
    · subst hkey
      obtain ⟨v, hv⟩ := Option.isSome_iff_exists.mp (isSome_firstValue_iff.mpr hmem)
      rw [hv]
      rfl
    · exact (Option.or_none).symm
  · constructor
    · rw [List.map_append, List.map_singleton, List.nodup_append]
      refine ⟨h.nodup, List.pairwise_singleton _ _, ?_⟩
      intro key hkey k hk
      rw [List.mem_singleton.mp hk]
      rintro rfl
      exact hmem hkey
    · intro key
      rw [firstValue_append, firstValue_append, h.firstValue_eq]

theorem keepsFirst_foldl {ps m qs : Keywords} (h : KeepsFirst ps m) :
    KeepsFirst (ps ++ qs) (qs.foldl Keywords.put m) := by
  induction qs generalizing ps m with
  | nil => rwa [List.append_nil]
  | cons q qs ih =>
    rw [List.append_cons]
    exact ih (h.put q)

/-- Putting keys in one after the other keeps their first values. -/
theorem keepsFirst_keepFirst (ps : Keywords) : KeepsFirst ps ps.keepFirst := by
  have hempty : KeepsFirst [] [] := ⟨by simp, fun _ => rfl⟩
  exact keepsFirst_foldl hempty

/-! ## Edits -/

/-- The keys that say where a node stands. -/
def placeKeys : List Text := [text "line", text "file", text "file_line"]

/-- An edit that leaves the place as it is. -/
inductive Edit : Keywords → Keywords → Prop where
  /-- A pair is added behind one of the same key. -/
  | repeated {front : Keywords} {key : Text} (h : key ∈ front.map Prod.fst) (w : Value)
    (back : Keywords) : Edit (front ++ back) (front ++ (key, w) :: back)
  /-- A pair of another key is added. -/
  | other (front : Keywords) {key : Text} (h : key ∉ placeKeys) (w : Value) (back : Keywords) :
    Edit (front ++ back) (front ++ (key, w) :: back)
  /-- Pairs of distinct keys change places: those of each key keep their order. -/
  | permuted {ps qs : Keywords}
    (h : ∀ key, ps.filter (fun p => p.1 = key) = qs.filter fun p => p.1 = key) : Edit ps qs

/-- An edit leaves the first values of the keys that count as they are. -/
theorem Edit.firstValue_eq {ps qs : Keywords} (h : Edit ps qs) :
    ∀ key ∈ placeKeys, firstValue key ps = firstValue key qs := by
  intro key hkey
  cases h with
  | @repeated front k hmem w back =>
    rw [firstValue_append, firstValue_append, firstValue_cons]
    split_ifs with hk
    · subst hk
      obtain ⟨v, hv⟩ := Option.isSome_iff_exists.mp (isSome_firstValue_iff.mpr hmem)
      rw [hv]
      rfl
    · rfl
  | @other front k hk w back =>
    rw [firstValue_append, firstValue_append, firstValue_cons, if_neg]
    rintro rfl
    exact hk hkey
  | permuted h => exact firstValue_eq_of_filter (h key)

theorem firstValue_eq_of_edits {ps qs : Keywords} (h : Relation.EqvGen Edit ps qs) :
    ∀ key ∈ placeKeys, firstValue key ps = firstValue key qs := by
  induction h with
  | rel _ _ h => exact h.firstValue_eq
  | refl => exact fun _ _ => rfl
  | symm _ _ _ ih => exact fun key hkey => (ih key hkey).symm
  | trans _ _ _ _ _ ih ih' => exact fun key hkey => (ih key hkey).trans (ih' key hkey)

/-! ## Keywords as metadata -/

/-- The keywords as keys and values of any kind. -/
def entries (ps : Keywords) : List (Value × Value) := ps.map fun p => (.string p.1, p.2)

/-- A value is the pair of a key and its value. -/
inductive IsPair (p : Text × Value) : Value → Prop where
  | tuple : IsPair p (.tuple [.string p.1, p.2])
  | list : IsPair p (.list [.string p.1, p.2])

/-- The metadata gives the keywords: as a sequence of pairs, or as the mapping that keeps the first
    value of each key. -/
inductive Gives (ps : Keywords) : Value → Prop where
  | list {items : List Value} (h : List.Forall₂ IsPair ps items) : Gives ps (.list items)
  | tuple {items : List Value} (h : List.Forall₂ IsPair ps items) : Gives ps (.tuple items)
  | mapping {m : Keywords} (h : KeepsFirst ps m) : Gives ps (.mapping m.entries)

/-- The first value of a key, or none. -/
def value (key : Text) (ps : Keywords) : Value := (firstValue key ps).getD .none

theorem lookup_entries (key : Text) (ps : Keywords) :
    LocationMeta.lookup key ps.entries = value key ps := by
  unfold value
  induction ps with
  | nil => rfl
  | cons p ps ih =>
    rw [firstValue_cons, entries, List.map_cons, LocationMeta.lookup]
    split_ifs
    · rfl
    · exact ih

theorem pairs_eq {ps : Keywords} {items : List Value} (h : List.Forall₂ IsPair ps items) :
    LocationMeta.pairs items = .ok ps.entries := by
  induction h with
  | nil => rfl
  | cons hp _ ih =>
    cases hp with
    | tuple | list =>
      rw [LocationMeta.pairs, ih]
      rfl

/-- The place depends on the first values of the three keys only. -/
theorem ofPairs_congr {ps qs : Keywords}
    (h : ∀ key ∈ placeKeys, firstValue key ps = firstValue key qs) :
    LocationMeta.ofPairs ps.entries = LocationMeta.ofPairs qs.entries := by
  unfold LocationMeta.ofPairs
  simp only [lookup_entries, value, h (text "line") (by decide), h (text "file") (by decide),
    h (text "file_line") (by decide)]

/-- However keywords are given, they are read as the same metadata. -/
theorem Gives.ofValue_eq {ps : Keywords} {metadata : Value} (h : Gives ps metadata) :
    LocationMeta.ofValue metadata = (LocationMeta.ofPairs ps.entries).map some := by
  cases h with
  | @list items h | @tuple items h =>
    show (do let entries ← LocationMeta.pairs items; (LocationMeta.ofPairs entries).map some) = _
    rw [pairs_eq h]
    rfl
  | mapping h =>
    exact congrArg (Except.map some) (ofPairs_congr fun key _ => h.firstValue_eq key)

/-! ## Places -/

/-- A line and its number: none, the number itself, or a position, which begins with it. -/
inductive IsLine : Value → Nat → Prop where
  | none : IsLine .none 0
  | number (n : Nat) : IsLine (.int n) n
  | position (n : Nat) (more : List Value) : IsLine (.tuple (.int n :: more)) n

theorem IsLine.coerceLine {v : Value} {n : Nat} (h : IsLine v n) : coerceLine v = .ok n := by
  cases h with
  | none | number | position => rfl

theorem IsLine.unique {v : Value} {m n : Nat} (hm : IsLine v m) (hn : IsLine v n) : m = n :=
  Except.ok.inj (hm.coerceLine.symm.trans hn.coerceLine)

/-- A file: none, a name, or a name with a line. -/
inductive IsFile : Value → Prop where
  | none : IsFile .none
  | name (g : Text) : IsFile (.string g)
  | tuple (g : Text) {line : Value} {n : Nat} (h : IsLine line n) : IsFile (.tuple [.string g, line])
  | list (g : Text) {line : Value} {n : Nat} (h : IsLine line n) : IsFile (.list [.string g, line])

/-- The first values under the three keys are lines and a file. -/
structure WellTyped (ps : Keywords) : Prop where
  line : ∃ n, IsLine (value (text "line") ps) n
  file : IsFile (value (text "file") ps)
  fileLine : ∃ n, IsLine (value (text "file_line") ps) n

/-- Where the keywords point, in a file that is being compiled. -/
inductive Points (ps : Keywords) (f : Text) : Text → Nat → Prop where
  /-- No file is given: the place is the line of the file being compiled. -/
  | inPlace {n : Nat} (hfile : value (text "file") ps = .none)
    (hline : IsLine (value (text "line") ps) n) : Points ps f f n
  | named {g : Text} {n : Nat} (hfile : value (text "file") ps = .string g)
    (hline : IsLine (value (text "file_line") ps) n) : Points ps f g n
  | tuple {g : Text} {line : Value} {n : Nat}
    (hfile : value (text "file") ps = .tuple [.string g, line]) (hline : IsLine line n) :
    Points ps f g n
  | list {g : Text} {line : Value} {n : Nat}
    (hfile : value (text "file") ps = .list [.string g, line]) (hline : IsLine line n) :
    Points ps f g n

/-- Well-typed keywords point somewhere. -/
theorem WellTyped.exists_points {ps : Keywords} (h : WellTyped ps) (f : Text) :
    ∃ g n, Points ps f g n := by
  obtain ⟨⟨n, hline⟩, hfile, ⟨k, hfileLine⟩⟩ := h
  generalize hvalue : value (text "file") ps = v at hfile
  cases hfile with
  | none => exact ⟨f, n, .inPlace hvalue hline⟩
  | name g => exact ⟨g, k, .named hvalue hfileLine⟩
  | tuple g hpair => exact ⟨g, _, .tuple hvalue hpair⟩
  | list g hpair => exact ⟨g, _, .list hvalue hpair⟩

/-- Well-typed keywords are read, and the metadata points where they do. -/
theorem WellTyped.exists_ofPairs {ps : Keywords} (h : WellTyped ps) {f g : Text} {n : Nat}
    (hpoints : Points ps f g n) :
    ∃ m, LocationMeta.ofPairs ps.entries = .ok m ∧
      m.override?.getD (.string f, m.line) = (.string g, .int n) := by
  obtain ⟨⟨line, hline⟩, -, ⟨fileLine, hfileLine⟩⟩ := h
  unfold LocationMeta.ofPairs
  simp only [lookup_entries, hline.coerceLine, hfileLine.coerceLine]
  cases hpoints with
  | inPlace hfile hn =>
    rw [hfile, hn.unique hline]
    exact ⟨_, rfl, rfl⟩
  | named hfile hn =>
    rw [hfile, hn.unique hfileLine]
    exact ⟨_, rfl, rfl⟩
  | tuple hfile hn | list hfile hn =>
    simp only [hfile, LocationMeta.fileAndLine]
    refine ⟨⟨.int line, .string g, .int n⟩, ?_, rfl⟩
    show (do let k ← coerceLine _; return (⟨.int line, .string g, .int k⟩ : LocationMeta)) = _
    rw [hn.coerceLine]
    rfl

/-- The place that metadata is resolved to. -/
theorem resolveLocation_of_ofValue {metadata : Value} {m : LocationMeta}
    (h : LocationMeta.ofValue metadata = .ok (some m)) (file : Value) :
    resolveLocation metadata file = .ok (m.override?.getD (file, m.line)) := by
  unfold resolveLocation
  rw [h]
  dsimp only [bind, Except.bind]
  cases m.override? with
  | none => rfl
  | some place => rfl

theorem resolveLocation_congr {v w : Value} (h : LocationMeta.ofValue v = LocationMeta.ofValue w)
    (file : Value) : resolveLocation v file = resolveLocation w file := by
  unfold resolveLocation
  rw [h]

/-- Keywords that are given in any way, edited or not, are read as the same metadata and resolved to
    the same place. If they are well-typed, they point somewhere, and that is the place. -/
theorem resolveLocation_keywords {ps qs : Keywords} (hedits : Relation.EqvGen Edit ps qs)
    {v w : Value} (hv : Gives ps v) (hw : Gives qs w) :
    LocationMeta.ofValue v = LocationMeta.ofValue w ∧
      (∀ file, resolveLocation v file = resolveLocation w file) ∧
      (WellTyped ps → ∀ f, (∃ g n, Points ps f g n) ∧ ∀ g n, Points ps f g n →
        resolveLocation w (.string f) = .ok (.string g, .int n)) := by
  have hsame : LocationMeta.ofValue v = LocationMeta.ofValue w := by
    rw [hv.ofValue_eq, hw.ofValue_eq, ofPairs_congr (firstValue_eq_of_edits hedits)]
  refine ⟨hsame, resolveLocation_congr hsame, ?_⟩
  intro htyped f
  refine ⟨htyped.exists_points f, ?_⟩
  intro g n hpoints
  obtain ⟨m, hm, hplace⟩ := htyped.exists_ofPairs hpoints
  have hread : LocationMeta.ofValue w = .ok (some m) := by
    rw [← hsame, hv.ofValue_eq, hm]
    rfl
  rw [resolveLocation_of_ofValue hread, hplace]

/-- Keywords that name a file with a position in it, as a list, and as a mapping after their order
    was changed, a column was left out and a second line was added. -/
theorem resolveLocation_keywords_position :
    LocationMeta.ofValue (.list [
        .tuple [.string (text "file"), .tuple [.string (text "m.ex"), .tuple [.int 3, .int 7]]],
        .tuple [.string (text "line"), .int 12], .tuple [.string (text "column"), .int 4]]) =
      LocationMeta.ofValue (.mapping [(.string (text "line"), .int 12),
        (.string (text "file"), .tuple [.string (text "m.ex"), .tuple [.int 3, .int 7]])]) ∧
    resolveLocation (.mapping [(.string (text "line"), .int 12),
        (.string (text "file"), .tuple [.string (text "m.ex"), .tuple [.int 3, .int 7]])])
      (.string (text "b.ex")) = .ok (.string (text "m.ex"), .int 3) := by
  let file : Text × Value :=
    (text "file", .tuple [.string (text "m.ex"), .tuple [.int 3, .int 7]])
  let line : Text × Value := (text "line", .int 12)
  have hcolumn : Edit [file, line] [file, line, (text "column", .int 4)] :=
    .other [file, line] (by decide) _ []
  have hswapped : Edit [file, line] [line, file] := by
    refine .permuted fun key => ?_
    by_cases hfile : text "file" = key
    · subst hfile
      rfl
    · by_cases hline : text "line" = key
      · subst hline
        rfl
      · simp [file, line, hfile, hline]
  have hsecond : Edit [line, file] [line, file, (text "line", .int 5)] :=
    @Edit.repeated [line, file] (text "line") (by decide) _ []
  have hedits : Relation.EqvGen Edit [file, line, (text "column", .int 4)]
      [line, file, (text "line", .int 5)] :=
    .trans _ _ _ (.symm _ _ (.rel _ _ hcolumn))
      (.trans _ _ _ (.rel _ _ hswapped) (.rel _ _ hsecond))
  have hv : Gives [file, line, (text "column", .int 4)] _ :=
    .list (.cons .tuple (.cons .tuple (.cons .tuple .nil)))
  have hw : Gives [line, file, (text "line", .int 5)] _ := .mapping (keepsFirst_keepFirst _)
  have htyped : WellTyped [file, line, (text "column", .int 4)] :=
    ⟨⟨12, .number 12⟩, .tuple (text "m.ex") (.position 3 [.int 7]), ⟨0, .none⟩⟩
  obtain ⟨hsame, -, hplace⟩ := resolveLocation_keywords hedits hv hw
  exact ⟨hsame, (hplace htyped (text "b.ex")).2 _ _ (.tuple rfl (.position 3 [.int 7]))⟩

end Keywords

end Faultline
