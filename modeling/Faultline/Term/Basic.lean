import Faultline.Value

/-!
# Terms

The values that serialized terms spell: atoms, binary texts, numbers, tuples and lists. A list whose
last tail is no list is improper: its elements stand before the bar, the tail after it.

`equal` compares terms by value: an atom and a binary of the same text are equal, integers and
floating-point numbers are compared exactly, and an improper list never equals a proper one.
-/

namespace Faultline

/-- A decoded term. -/
inductive Term where
  | atom (name : Text)
  /-- The text of a binary. -/
  | binary (t : Text)
  | int (n : Int)
  | float (x : Binary64)
  | tuple (elements : List Term)
  | list (elements : List Term)
  /-- A list with elements before the bar and a tail after it. -/
  | improper (elements : List Term) (tail : Term)

namespace Term

instance : Inhabited Term := ⟨.list []⟩

/-- Whether a term is the text of a binary. -/
def isText : Term → Bool
  | .binary _ => true
  | _ => false

/-- The text of an atom or a binary. -/
def textOf? : Term → Option Text
  | .atom name => some name
  | .binary t => some t
  | _ => none

/-- The elements of a list, those before the bar if it is improper. -/
def listElements? : Term → Option (List Term)
  | .list elements => some elements
  | .improper elements _ => some elements
  | _ => none

/-- The elements of a tuple or a list. -/
def elements? : Term → Option (List Term)
  | .tuple elements => some elements
  | t => t.listElements?

/-- Elements put in front of a tail: in front of its elements if the tail is a list. -/
def withTail (elements : List Term) : Term → Term
  | .list more => .list (elements ++ more)
  | .improper more tail => .improper (elements ++ more) tail
  | tail => .improper elements tail

/-! ## Texts of terms -/

mutual

/-- A term as messages show it. -/
def display : Term → Text
  | .atom name => text "Atom(" ++ Text.quoted name ++ text ")"
  | .binary t => Text.quoted t
  | .int n => Numeral.ofInt n
  | .float x => x.display
  | .tuple elements =>
    text "(" ++ Text.join (text ", ") (displayEach elements) ++
      (if elements.length = 1 then text ",)" else text ")")
  | .list elements => text "[" ++ Text.join (text ", ") (displayEach elements) ++ text "]"
  | .improper elements tail =>
    text "ImproperList([" ++ Text.join (text ", ") (displayEach elements) ++ text "], tail=" ++
      display tail ++ text ")"
termination_by structural t => t

/-- The terms of a list, each as `display` shows it. -/
def displayEach : List Term → List Text
  | [] => []
  | t :: rest => display t :: displayEach rest
termination_by structural ts => ts

end

mutual

/-- Whether a term holds an integer that is too long to be written in decimal. -/
def isTooLong : Term → Bool
  | .int n => Numeral.isTooLong n
  | .tuple elements => isAnyTooLong elements
  | .list elements => isAnyTooLong elements
  | .improper elements tail => isAnyTooLong elements || isTooLong tail
  | _ => false
termination_by structural t => t

/-- Whether one of the terms holds an integer that is too long to be written in decimal. -/
def isAnyTooLong : List Term → Bool
  | [] => false
  | t :: rest => isTooLong t || isAnyTooLong rest
termination_by structural ts => ts

end

/-! ## Equality -/

mutual

/-- Whether two terms have the same value. -/
def equal : Term → Term → Bool
  | .atom s, t => t.textOf? == some s
  | .binary s, t => t.textOf? == some s
  | .int m, t => (match t with
    | .int n => m == n
    | .float y => y.equalsInt m
    | _ => false)
  | .float x, t => (match t with
    | .int n => x.equalsInt n
    | .float y => x.equal y
    | _ => false)
  | .tuple xs, .tuple ys => equalEach xs ys
  | .list xs, .list ys => equalEach xs ys
  | .improper xs s, .improper ys t => equalEach xs ys && equal s t
  | _, _ => false
termination_by structural t => t

/-- Whether two lists of terms have the same values in the same order. -/
def equalEach : List Term → List Term → Bool
  | [], [] => true
  | x :: xs, y :: ys => equal x y && equalEach xs ys
  | _, _ => false
termination_by structural ts => ts

end

example : equal (.atom (text "a")) (.binary (text "a")) = true := by decide
example : equal (.improper [.int 1] (.int 2)) (.list [.int 1]) = false := by decide

end Term

end Faultline
