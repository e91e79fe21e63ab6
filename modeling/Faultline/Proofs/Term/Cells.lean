import Faultline.Proofs.Term.Grammar

/-!
# Chains of cells

A list is written as a chain of cells, each with an element and what stands behind it: `[a, b]` is
`[a | [b | []]]`. `Denotes ts c` reads the tokens `ts` as such cells `c`, with the same notation as
`Derives`, and `Cell.value` is the term that the cells stand for. A chain that ends in the empty
list is a proper list, whichever brackets it is written with.

Results:
* `value_conses`, `value_conses_nil`: the value of a chain.
* `derives_iff_exists_denotes`: tokens are a term exactly if they denote cells, and the value of the
  term is the value of the cells.
-/

namespace Faultline.Term

/-- What a term is made of when its lists are chains. -/
inductive Cell where
  | atom (name : Text)
  | binary (t : Text)
  | int (n : Int)
  | float (x : Binary64)
  | tuple (elements : List Cell)
  /-- The end of a proper list. -/
  | nil
  /-- An element and what stands behind it. -/
  | cons (head tail : Cell)

/-- Elements put in front of an element put in front of a tail are all put in front of it. -/
theorem withTail_withTail (xs ys : List Term) (tail : Term) :
    withTail xs (withTail ys tail) = withTail (xs ++ ys) tail := by
  cases tail with
  | list more | improper more rest => simp [withTail]
  | atom name | binary t | int n | float x | tuple elements => rfl

namespace Cell

mutual

/-- The term that cells stand for. -/
def value : Cell → Term
  | .atom name => .atom name
  | .binary t => .binary t
  | .int n => .int n
  | .float x => .float x
  | .tuple elements => .tuple (valueEach elements)
  | .nil => .list []
  | .cons head tail => withTail [value head] (value tail)
termination_by structural c => c

/-- The terms that the cells of a list stand for. -/
def valueEach : List Cell → List Term
  | [] => []
  | c :: rest => value c :: valueEach rest
termination_by structural cs => cs

end

theorem valueEach_eq_map (cs : List Cell) : valueEach cs = cs.map value := by
  induction cs with
  | nil => rfl
  | cons c cs ih => rw [valueEach, ih, List.map_cons]

/-- A chain of elements with an end. -/
def conses (elements : List Cell) (last : Cell) : Cell := elements.foldr .cons last

/-- A chain that ends in the empty list is a proper list. -/
theorem value_conses_nil (elements : List Cell) :
    (conses elements .nil).value = .list (elements.map value) := by
  induction elements with
  | nil => rfl
  | cons c elements ih =>
    show withTail [c.value] (conses elements .nil).value = _
    rw [ih]
    rfl

/-- The elements of a chain stand in front of what its end stands for. -/
theorem value_conses {elements : List Cell} (hne : elements ≠ []) (last : Cell) :
    (conses elements last).value = withTail (elements.map value) last.value := by
  induction elements with
  | nil => exact absurd rfl hne
  | cons c elements ih =>
    cases elements with
    | nil => rfl
    | cons d elements =>
      show withTail [c.value] (conses (d :: elements) last).value = _
      rw [ih (List.cons_ne_nil d elements), withTail_withTail]
      rfl

end Cell

open Cell (conses)

/-- The tokens of a term and the cells they denote. -/
inductive Denotes : List Token → Cell → Prop where
  | atom (name : Text) : Denotes [.atom name] (.atom name)
  | int {ts : List Token} {n : Int} (h : IsNumber ts (.int n)) : Denotes ts (.int n)
  | float {ts : List Token} {x : Binary64} (h : IsNumber ts (.float x)) : Denotes ts (.float x)
  /-- Strings that stand next to each other are one chain of their code points. -/
  | chars (ss : List Text) (h : ss ≠ []) :
    Denotes (ss.map .string) (conses (ss.flatten.map fun c => .int c.val) .nil)
  | tuple (parts : List (List Token × Cell)) (h : ∀ p ∈ parts, Denotes p.1 p.2) :
    Denotes (.braceOpen :: commaJoin (parts.map Prod.fst) ++ [.braceClose])
      (.tuple (parts.map Prod.snd))
  | list (parts : List (List Token × Cell)) (h : ∀ p ∈ parts, Denotes p.1 p.2) :
    Denotes (.bracketOpen :: commaJoin (parts.map Prod.fst) ++ [.bracketClose])
      (conses (parts.map Prod.snd) .nil)
  /-- What stands behind the bar is the end of the chain. -/
  | withTail (parts : List (List Token × Cell)) (hne : parts ≠ [])
    (h : ∀ p ∈ parts, Denotes p.1 p.2) {ts : List Token} {last : Cell} (ht : Denotes ts last) :
    Denotes (.bracketOpen :: commaJoin (parts.map Prod.fst) ++ .bar :: ts ++ [.bracketClose])
      (conses (parts.map Prod.snd) last)
  | binary (parts : List (List Token × List UInt8)) (h : ∀ p ∈ parts, IsSegment p.1 p.2) {t : Text}
    (ht : BytesSpell (parts.flatMap Prod.snd) t) :
    Denotes (.binaryOpen :: commaJoin (parts.map Prod.fst) ++ [.binaryClose]) (.binary t)

/-- Parts of tokens and cells, with the values of the cells. -/
def valued (parts : List (List Token × Cell)) : List (List Token × Term) :=
  parts.map fun p => (p.1, p.2.value)

theorem map_fst_valued (parts : List (List Token × Cell)) :
    (valued parts).map Prod.fst = parts.map Prod.fst := by
  simp [valued, Function.comp_def]

theorem map_snd_valued (parts : List (List Token × Cell)) :
    (valued parts).map Prod.snd = (parts.map Prod.snd).map Cell.value := by
  simp [valued, Function.comp_def]

theorem forall_mem_valued {parts : List (List Token × Cell)}
    (h : ∀ p ∈ parts, Derives p.1 p.2.value) : ∀ q ∈ valued parts, Derives q.1 q.2 :=
  List.forall_mem_map.mpr h

/-- Tokens that denote cells are a term with their value. -/
theorem derives_of_denotes {ts : List Token} {c : Cell} (h : Denotes ts c) :
    Derives ts c.value := by
  induction h with
  | atom name => exact .atom name
  | int h => exact .number h
  | float h => exact .number h
  | chars ss hne =>
    rw [Cell.value_conses_nil, List.map_map]
    exact .chars ss hne
  | tuple parts h ih =>
    have hderives := Derives.tuple (valued parts) (forall_mem_valued ih)
    rwa [map_fst_valued, map_snd_valued, ← Cell.valueEach_eq_map] at hderives
  | list parts h ih =>
    have hderives := Derives.list (valued parts) (forall_mem_valued ih)
    rwa [map_fst_valued, map_snd_valued, ← Cell.value_conses_nil] at hderives
  | withTail parts hne h ht ih iht =>
    have hderives := Derives.withTail (valued parts) (by simpa [valued] using hne)
      (forall_mem_valued ih) iht
    rwa [map_fst_valued, map_snd_valued, ← Cell.value_conses (by simpa using hne)] at hderives
  | binary parts h ht => exact .binary parts h ht

theorem exists_denotes_of_isNumber {ts : List Token} {v : Term} (h : IsNumber ts v) :
    ∃ c, Denotes ts c ∧ c.value = v := by
  have hkind : (∃ n, v = .int n) ∨ ∃ x, v = .float x := by
    induction h with
    | integer n | char n | minusInt h => exact .inl ⟨_, rfl⟩
    | float x | minusFloat h => exact .inr ⟨_, rfl⟩
    | plus h ih => exact ih
  rcases hkind with ⟨n, rfl⟩ | ⟨x, rfl⟩
  · exact ⟨.int n, .int h, rfl⟩
  · exact ⟨.float x, .float h, rfl⟩

/-- If each part denotes cells of its value, the parts are those of some cells with their values. -/
theorem exists_valued {parts : List (List Token × Term)}
    (h : ∀ p ∈ parts, ∃ c, Denotes p.1 c ∧ c.value = p.2) :
    ∃ cells, (∀ q ∈ cells, Denotes q.1 q.2) ∧ valued cells = parts := by
  induction parts with
  | nil => exact ⟨[], by simp, rfl⟩
  | cons p parts ih =>
    obtain ⟨c, hc, hvalue⟩ := h p List.mem_cons_self
    obtain ⟨cells, hcells, hparts⟩ := ih fun q hq => h q (List.mem_cons_of_mem p hq)
    refine ⟨(p.1, c) :: cells, List.forall_mem_cons.mpr ⟨hc, hcells⟩, ?_⟩
    rw [← hparts, valued, List.map_cons, hvalue]
    rfl

theorem exists_denotes_of_derives {ts : List Token} {v : Term} (h : Derives ts v) :
    ∃ c, Denotes ts c ∧ c.value = v := by
  induction h with
  | atom name => exact ⟨_, .atom name, rfl⟩
  | number h => exact exists_denotes_of_isNumber h
  | chars ss hne =>
    refine ⟨_, .chars ss hne, ?_⟩
    rw [Cell.value_conses_nil, List.map_map]
    rfl
  | tuple parts h ih =>
    obtain ⟨cells, hcells, rfl⟩ := exists_valued ih
    rw [map_fst_valued, map_snd_valued]
    refine ⟨_, .tuple cells hcells, ?_⟩
    rw [Cell.value, Cell.valueEach_eq_map]
  | list parts h ih =>
    obtain ⟨cells, hcells, rfl⟩ := exists_valued ih
    rw [map_fst_valued, map_snd_valued]
    exact ⟨_, .list cells hcells, Cell.value_conses_nil _⟩
  | withTail parts hne h ht ih iht =>
    obtain ⟨cells, hcells, rfl⟩ := exists_valued ih
    obtain ⟨last, hlast, rfl⟩ := iht
    have hne' : cells ≠ [] := by simpa [valued] using hne
    rw [map_fst_valued, map_snd_valued]
    exact ⟨_, .withTail cells hne' hcells hlast, Cell.value_conses (by simpa using hne') last⟩
  | binary parts h ht => exact ⟨_, .binary parts h ht, rfl⟩

/-- Tokens are a term exactly if they denote cells, and its value is the value of the cells. -/
theorem derives_iff_exists_denotes {ts : List Token} {v : Term} :
    Derives ts v ↔ ∃ c, Denotes ts c ∧ c.value = v := by
  constructor
  · exact exists_denotes_of_derives
  · rintro ⟨c, hc, rfl⟩
    exact derives_of_denotes hc

end Faultline.Term
