import Faultline.Term.Comparison

/-!
# Equality of terms

`content` is what a term holds apart from its kind: the text of an atom or a binary, the exact value
of a number. Two terms are found equal exactly if their contents are the same, so equality of terms
has all the laws of identity.

Results:
* `equal_iff`: terms are equal exactly if their contents are the same.
* `isEqual_eq`: asking the terms in turn finds the same.
* `isUnequal_eq`: asking whether they are unequal finds the opposite.
* `content_of_at?`: equal terms are equal at every place.
* `isEqual_consistent`: the laws of equality, and that improper lists never equal proper ones.
-/

namespace Faultline

/-- What a term holds apart from its kind. -/
inductive Content where
  /-- The text of an atom or a binary. -/
  | text (t : Text)
  /-- The value of an integer or a finite floating-point number, in units of `2 ^ -1074`. -/
  | number (units : Int)
  | infinity (negative : Bool)
  | tuple (elements : List Content)
  | list (elements : List Content)
  | improper (elements : List Content) (tail : Content)

/-- Whether it is the value of a number. -/
def Content.isNumeric : Content → Bool
  | .number _ => true
  | .infinity _ => true
  | _ => false

namespace Binary64

/-- What a floating-point number holds. -/
def content (x : Binary64) : Content :=
  match x.signedUnits? with
  | some units => .number units
  | none => .infinity x.negative

theorem isNumeric_content (x : Binary64) : x.content.isNumeric = true := by
  unfold content
  cases x.signedUnits? with
  | none => rfl
  | some units => rfl

theorem content_ne {c : Content} (hc : c.isNumeric = false) (x : Binary64) : x.content ≠ c := by
  rintro rfl
  rw [isNumeric_content] at hc
  cases hc

theorem equal_iff {x y : Binary64} : x.equal y = true ↔ x.content = y.content := by
  unfold equal content
  cases x.signedUnits? with
  | none =>
    cases y.signedUnits? with
    | none => simp
    | some n => simp
  | some m =>
    cases y.signedUnits? with
    | none => simp
    | some n => simp

theorem equalsInt_iff {x : Binary64} {n : Int} :
    x.equalsInt n = true ↔ x.content = .number (n * Int.pow 2 unitBits) := by
  unfold equalsInt content
  cases x.signedUnits? with
  | none => simp
  | some m => simp

end Binary64

namespace Term

mutual

/-- What a term holds apart from its kind. -/
def content : Term → Content
  | .atom name => .text name
  | .binary t => .text t
  | .int n => .number (n * Int.pow 2 Binary64.unitBits)
  | .float x => x.content
  | .tuple elements => .tuple (contentEach elements)
  | .list elements => .list (contentEach elements)
  | .improper elements tail => .improper (contentEach elements) (content tail)
termination_by structural t => t

/-- What the terms of a list hold. -/
def contentEach : List Term → List Content
  | [] => []
  | t :: rest => content t :: contentEach rest
termination_by structural ts => ts

end

theorem contentEach_eq_map (ts : List Term) : contentEach ts = ts.map content := by
  induction ts with
  | nil => rfl
  | cons t ts ih => rw [contentEach, ih, List.map_cons]

/-- Integers of the same value are the same. -/
theorem units_inj {m n : Int} :
    m * Int.pow 2 Binary64.unitBits = n * Int.pow 2 Binary64.unitBits ↔ m = n :=
  Int.mul_eq_mul_right_iff (Int.ne_of_gt (Int.pow_pos (by decide)))

/-- A term is found equal to a text exactly if it is the same text. -/
theorem textOf?_beq_iff {a : Text} {t : Term} :
    (t.textOf? == some a) = true ↔ .text a = t.content := by
  cases t with
  | atom b | binary b =>
    rw [textOf?, beq_iff_eq, Option.some.injEq, content, Content.text.injEq, eq_comm]
  | float x => exact iff_of_false Bool.false_ne_true (Binary64.content_ne rfl x).symm
  | _ => exact iff_of_false Bool.false_ne_true nofun

mutual

/-- Terms are equal exactly if their contents are the same. -/
theorem equal_iff : ∀ s t : Term, equal s t = true ↔ s.content = t.content
  | .atom a, t => textOf?_beq_iff
  | .binary a, t => textOf?_beq_iff
  | .int m, t => by
    cases t with
    | int n => rw [equal, beq_iff_eq, content, content, Content.number.injEq, units_inj]
    | float x => exact Binary64.equalsInt_iff.trans eq_comm
    | _ => exact iff_of_false Bool.false_ne_true nofun
  | .float x, t => by
    cases t with
    | int n => exact Binary64.equalsInt_iff
    | float y => exact Binary64.equal_iff
    | _ => exact iff_of_false Bool.false_ne_true (Binary64.content_ne rfl x)
  | .tuple xs, t => by
    cases t with
    | tuple ys => rw [equal, equalEach_iff xs ys, content, content, Content.tuple.injEq]
    | float y => exact iff_of_false Bool.false_ne_true (Binary64.content_ne rfl y).symm
    | _ => exact iff_of_false Bool.false_ne_true nofun
  | .list xs, t => by
    cases t with
    | list ys => rw [equal, equalEach_iff xs ys, content, content, Content.list.injEq]
    | float y => exact iff_of_false Bool.false_ne_true (Binary64.content_ne rfl y).symm
    | _ => exact iff_of_false Bool.false_ne_true nofun
  | .improper xs u, t => by
    cases t with
    | improper ys w =>
      rw [equal, Bool.and_eq_true, equalEach_iff xs ys, equal_iff u w, content, content,
        Content.improper.injEq]
    | float y => exact iff_of_false Bool.false_ne_true (Binary64.content_ne rfl y).symm
    | _ => exact iff_of_false Bool.false_ne_true nofun

theorem equalEach_iff : ∀ xs ys : List Term, equalEach xs ys = true ↔ contentEach xs = contentEach ys
  | [], [] => by simp [equalEach, contentEach]
  | [], y :: ys => by simp [equalEach, contentEach]
  | x :: xs, [] => by simp [equalEach, contentEach]
  | x :: xs, y :: ys => by
    rw [equalEach, Bool.and_eq_true, equal_iff x y, equalEach_iff xs ys, contentEach, contentEach,
      List.cons.injEq]

end

/-! ## Asking in turn -/

/-- Asking the terms in turn finds what comparing them finds. Where only one of them answers, or one
    of them is asked out of turn, that makes no difference. -/
theorem isEqual_eq (s t : Term) : isEqual s t = equal s t := by
  cases s with
  | atom a =>
    cases t with
    | atom b | binary b => exact Bool.beq_comm
    | _ => rfl
  | binary a =>
    cases t with
    | binary b => exact Bool.beq_comm
    | _ => rfl
  | int m | float x | tuple xs | list xs | improper xs u =>
    cases t with
    | _ => rfl

theorem getD_or_map_not (first second : Option Bool) (unanswered : Bool) :
    ((first.map fun b => !b).or (second.map fun b => !b)).getD (!unanswered) =
      !(first.or second).getD unanswered := by
  cases first with
  | some b => rfl
  | none => cases second <;> rfl

/-- Whoever is asked, the answer whether the terms are unequal is the opposite of the answer whether
    they are equal, and so is what counts if both leave it open. -/
theorem isUnequal_eq (s t : Term) : isUnequal s t = !isEqual s t := by
  unfold isUnequal isEqual askBoth
  split
  · exact getD_or_map_not _ _ false
  · exact getD_or_map_not _ _ false

/-- Terms are found equal exactly if their contents are the same. -/
theorem isEqual_iff {s t : Term} : isEqual s t = true ↔ s.content = t.content := by
  rw [isEqual_eq, equal_iff]

/-! ## Places -/

/-- A way from a term to one inside it. -/
inductive Branch where
  | element (index : Nat)
  | tail

/-- The term to which a way leads. -/
def branch? (t : Term) : Branch → Option Term
  | .element index => t.elements?.bind fun elements => elements[index]?
  | .tail =>
    match t with
    | .improper _ tail => some tail
    | _ => none

/-- The term at a place, which is told by the ways that lead to it. -/
def at? (t : Term) : List Branch → Option Term
  | [] => some t
  | b :: rest => (t.branch? b).bind fun inner => inner.at? rest

/-- Terms of the same content have elements of the same content. -/
theorem contentEach_of_elements? {s t : Term} {xs ys : List Term} (h : s.content = t.content)
    (hs : s.elements? = some xs) (ht : t.elements? = some ys) :
    contentEach xs = contentEach ys := by
  cases s with
  | atom a | binary a | int m | float x => cases hs
  | tuple us =>
    cases hs
    cases t with
    | tuple vs =>
      cases ht
      exact Content.tuple.inj h
    | list vs | improper vs v => cases h
    | _ => cases ht
  | list us =>
    cases hs
    cases t with
    | list vs =>
      cases ht
      exact Content.list.inj h
    | tuple vs | improper vs v => cases h
    | _ => cases ht
  | improper us u =>
    cases hs
    cases t with
    | improper vs v =>
      cases ht
      exact (Content.improper.inj h).1
    | tuple vs | list vs => cases h
    | _ => cases ht

theorem content_of_branch? {s t a b : Term} {way : Branch} (h : s.content = t.content)
    (hs : s.branch? way = some a) (ht : t.branch? way = some b) : a.content = b.content := by
  cases way with
  | element index =>
    obtain ⟨xs, hxs, ha⟩ := Option.bind_eq_some_iff.mp hs
    obtain ⟨ys, hys, hb⟩ := Option.bind_eq_some_iff.mp ht
    have helements := contentEach_of_elements? h hxs hys
    rw [contentEach_eq_map, contentEach_eq_map] at helements
    have hindex := congrArg (fun contents => contents[index]?) helements
    simpa [ha, hb] using hindex
  | tail =>
    cases s with
    | improper us u =>
      cases t with
      | improper vs v =>
        cases hs
        cases ht
        exact (Content.improper.inj h).2
      | _ => cases ht
    | _ => cases hs

/-- Terms of the same content have the same content at every place that both have. -/
theorem content_of_at? {a b : Term} (place : List Branch) : ∀ {s t : Term},
    s.content = t.content → s.at? place = some a → t.at? place = some b →
      a.content = b.content := by
  induction place with
  | nil =>
    intro s t h hs ht
    cases hs
    cases ht
    exact h
  | cons way place ih =>
    intro s t h hs ht
    obtain ⟨s', hs', ha⟩ := Option.bind_eq_some_iff.mp hs
    obtain ⟨t', ht', hb⟩ := Option.bind_eq_some_iff.mp ht
    exact ih (content_of_branch? h hs' ht') ha hb

/-- A term with an improper list differs from every term with a proper list at the same place. -/
theorem content_ne_of_at? {s t tail : Term} {place : List Branch} {elements more : List Term}
    (hs : s.at? place = some (.improper elements tail)) (ht : t.at? place = some (.list more)) :
    s.content ≠ t.content := by
  intro h
  cases content_of_at? place h hs ht

/-- Equality of terms means that their contents are the same; it is reflexive, symmetric and
    transitive. Unequal is the opposite, whichever term stands first. Terms with an improper list
    and a proper one at the same place are never equal. -/
theorem isEqual_consistent :
    (∀ s t, isEqual s t = true ↔ s.content = t.content) ∧
    (∀ t, isEqual t t = true) ∧
    (∀ s t, isEqual s t = isEqual t s) ∧
    (∀ s t u, isEqual s t = true → isEqual t u = true → isEqual s u = true) ∧
    (∀ s t, isUnequal s t = !isEqual s t ∧ isUnequal t s = !isEqual s t) ∧
    ∀ s t place elements tail more,
      s.at? place = some (.improper elements tail) → t.at? place = some (.list more) →
        isEqual s t = false ∧ isEqual t s = false := by
  have hsymm (s t : Term) : isEqual s t = isEqual t s := by
    rw [Bool.eq_iff_iff, isEqual_iff, isEqual_iff, eq_comm]
  refine ⟨fun s t => isEqual_iff, fun t => isEqual_iff.mpr rfl, hsymm, ?_, ?_, ?_⟩
  · intro s t u hst htu
    exact isEqual_iff.mpr ((isEqual_iff.mp hst).trans (isEqual_iff.mp htu))
  · intro s t
    exact ⟨isUnequal_eq s t, (isUnequal_eq t s).trans (by rw [hsymm])⟩
  · intro s t place elements tail more hs ht
    have hne : isEqual s t = false :=
      Bool.eq_false_iff.mpr (mt isEqual_iff.mp (content_ne_of_at? hs ht))
    exact ⟨hne, (hsymm t s).trans hne⟩

/-- The number one and a name, as they may be written. -/
def exactPair : Term := .tuple [.int 1, .atom (text "a")]

/-- The same with a floating-point number. -/
def roundedPair : Term := .tuple [.float (.ofInt 1), .atom (text "a")]

/-- The same with a text. -/
def textPair : Term := .tuple [.float (.ofInt 1), .binary (text "a")]

/-- A list in the tail of another. -/
def tailOf (inner : Term) : Term := .improper [.int 0] (.tuple [.int 2, inner])

theorem isEqual_pairs :
    (isEqual exactPair roundedPair = true ∧ isEqual roundedPair textPair = true ∧
      isEqual exactPair textPair = true) ∧
    ((tailOf (.improper [.int 1] (.int 2))).at? [.tail, .element 1] =
        some (.improper [.int 1] (.int 2)) ∧
      (tailOf (.list [.int 1])).at? [.tail, .element 1] = some (.list [.int 1]) ∧
      isEqual (tailOf (.improper [.int 1] (.int 2))) (tailOf (.list [.int 1])) = false ∧
      isEqual (tailOf (.list [.int 1])) (tailOf (.improper [.int 1] (.int 2))) = false) := by
  obtain ⟨-, -, -, htrans, -, hplace⟩ := isEqual_consistent
  have hrounded : isEqual exactPair roundedPair = true := by decide +kernel
  have htext : isEqual roundedPair textPair = true := by decide +kernel
  exact ⟨⟨hrounded, htext, htrans _ _ _ hrounded htext⟩, rfl, rfl,
    hplace _ _ [.tail, .element 1] _ _ _ rfl rfl⟩

end Term

end Faultline
