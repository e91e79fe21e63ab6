import Faultline.Failure

/-!
# Sums of values

The sum of two numbers is a number, and the sum of two sequences of one kind is both in a row. A sum
is exact for integers; a floating-point number makes it a floating-point number. All other sums
fail, and a sequence on the left says what it cannot be joined with.
-/

namespace Faultline.Value

/-- A number as a floating-point number, if it is one; the inner `none` is no number. -/
def float? : Value → Option (Outcome (Option Binary64))
  | .float x => some (.ok (some x))
  | .nan => some (.ok Option.none)
  | v =>
    match v.integer? with
    | Option.none => Option.none
    | some n =>
      let x := Binary64.ofInt n
      some (if x.magnitude = .infinite then .error .integerTooLarge else .ok (some x))

/-- The sum of two floating-point numbers. -/
def floatSum (x y : Option Binary64) : Value :=
  match x, y with
  | some x, some y =>
    match x.add? y with
    | some z => .float z
    | Option.none => .nan
  | _, _ => .nan

/-- The failure of adding two values. -/
def noSum (v w : Value) : Failure :=
  match v with
  | .string _ | .list _ | .tuple _ => .notJoined v.kindName w.kindName
  | .bytes _ => .notJoinedToBytes w.kindName
  | _ => .noOperator (text "+") v.kindName w.kindName

/-- The sum of two values. -/
def plus (v w : Value) : Outcome Value :=
  match v, w with
  | .string s, .string t => .ok (.string (s ++ t))
  | .bytes s, .bytes t => .ok (.bytes (s ++ t))
  | .list xs, .list ys => .ok (.list (xs ++ ys))
  | .tuple xs, .tuple ys => .ok (.tuple (xs ++ ys))
  | v, w =>
    match v.integer?, w.integer?, v.float?, w.float? with
    | some m, some n, _, _ => .ok (.int (m + n))
    | _, _, some x, some y => do
      let x ← x
      let y ← y
      return floatSum x y
    | _, _, _, _ => .error (noSum v w)

end Faultline.Value
