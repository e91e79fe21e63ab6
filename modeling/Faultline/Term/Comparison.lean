import Faultline.Term.Basic

/-!
# Asking terms whether they are equal

Two terms are compared by asking one of them, and then the other if the first leaves it open. The
left one is asked first, unless the right one is of a narrower kind: an atom is a kind of text, and
an improper list is a kind of list. If both leave it open the terms differ. Whether two terms are
unequal is asked in the same way.

A list looks at elements only, those of an improper list included. That no improper list equals a
proper one therefore rests on the improper one being asked first, on whichever side it stands.

Elements and tails are compared by `equal`, which is this comparison itself.
-/

namespace Faultline.Term

/-- Whether the second term is of a narrower kind than the first. -/
def isNarrowedBy : Term → Term → Bool
  | .binary _, .atom _ => true
  | .list _, .improper _ _ => true
  | _, _ => false

/-- What the first term answers when it is asked whether it equals the second; `none` leaves it
    open. An integer does not know floating-point numbers, which know integers. -/
def answerEqual : Term → Term → Option Bool
  | .int m, .int n => some (m == n)
  | .float x, .int n => some (x.equalsInt n)
  | .float x, .float y => some (x.equal y)
  | .tuple xs, .tuple ys => some (equalEach xs ys)
  | .list xs, .list ys => some (equalEach xs ys)
  | .list xs, .improper ys _ => some (equalEach xs ys)
  | .improper xs s, .improper ys t => some (equalEach xs ys && equal s t)
  | .improper _ _, .list _ => some false
  | s, t =>
    match s.textOf?, t.textOf? with
    | some a, some b => some (a == b)
    | _, _ => none

/-- What the first term answers when it is asked whether it is unequal to the second. -/
def answerUnequal (s t : Term) : Option Bool := (answerEqual s t).map fun equal => !equal

/-- The answer of the first of two terms that does not leave it open, or else a given one. -/
def askBoth (answer : Term → Term → Option Bool) (unanswered : Bool) (s t : Term) : Bool :=
  if isNarrowedBy s t then ((answer t s).or (answer s t)).getD unanswered
  else ((answer s t).or (answer t s)).getD unanswered

/-- Whether a term is found equal to another. -/
def isEqual (s t : Term) : Bool := askBoth answerEqual false s t

/-- Whether a term is found unequal to another. -/
def isUnequal (s t : Term) : Bool := askBoth answerUnequal true s t

example : answerEqual (.list [.int 1]) (.improper [.int 1] (.int 2)) = some true := by decide
example : isEqual (.list [.int 1]) (.improper [.int 1] (.int 2)) = false := by decide

end Faultline.Term
