/-!
# Binary floating-point numbers

A binary64 number is a sign with a magnitude, and every finite magnitude is a whole number of units
of `2 ^ -1074`, the least positive number. Rounding is exact arithmetic on natural numbers: a ratio
goes to the nearest number of 53 significant bits, a tie to the even neighbour, and what rounds to
`2 ^ 1024` or more is infinite.
-/

namespace Faultline

/-- A magnitude: a whole number of units of `2 ^ -1074`, or infinity. -/
inductive Magnitude where
  | finite (units : Nat)
  | infinite
deriving DecidableEq

/-- A binary64 number. Zero has either sign. -/
structure Binary64 where
  negative : Bool
  magnitude : Magnitude
deriving DecidableEq

namespace Binary64

/-- One is `2 ^ unitBits` units. -/
def unitBits : Nat := 1074

/-- The bits of a full significand. -/
def significandBits : Nat := 53

/-- Finite magnitudes lie below this number of units, which is `2 ^ 1024`. -/
def unitLimit : Nat := Nat.pow 2 2098

/-- The whole number nearest to a ratio; a tie goes to the even one. -/
def nearest (numerator denominator : Nat) : Nat :=
  let q := numerator / denominator
  let r := numerator % denominator
  if 2 * r < denominator then q
  else if denominator < 2 * r then q + 1
  else if q % 2 = 0 then q else q + 1

/-- Neighbours of a magnitude of `units` units differ by `2 ^ gapBits units` units. -/
def gapBits (units : Nat) : Nat := (units.log2 + 1) - significandBits

/-- The magnitude nearest to a ratio of units. -/
def roundUnits (numerator denominator : Nat) : Magnitude :=
  let gap := Nat.pow 2 (gapBits (numerator / denominator))
  let units := nearest numerator (denominator * gap) * gap
  if units < unitLimit then .finite units else .infinite

/-- The magnitude nearest to `digits · 10 ^ exponent`. Exponents that put the number far outside the
    finite magnitudes are decided without computing the power. -/
def roundDecimal (digits : Nat) (exponent : Int) : Magnitude :=
  let size : Int := exponent + (digits.log2 * 30103 / 100000 : Nat)
  if digits = 0 then .finite 0
  else if size > 400 then .infinite
  else if size < -400 then .finite 0
  else if 0 ≤ exponent then roundUnits (digits * Nat.pow 10 exponent.toNat * Nat.pow 2 unitBits) 1
  else roundUnits (digits * Nat.pow 2 unitBits) (Nat.pow 10 (-exponent).toNat)

/-- The number nearest to `± digits · 10 ^ exponent`. -/
def ofDecimal (negative : Bool) (digits : Nat) (exponent : Int) : Binary64 :=
  ⟨negative, roundDecimal digits exponent⟩

/-- The number nearest to an integer. -/
def ofInt (n : Int) : Binary64 :=
  ⟨decide (n < 0), roundUnits (n.natAbs * Nat.pow 2 unitBits) 1⟩

/-- The number with the other sign. -/
def negate (x : Binary64) : Binary64 := { x with negative := !x.negative }

/-- The number nearest to a hundred times a number. -/
def percent (x : Binary64) : Binary64 :=
  match x.magnitude with
  | .infinite => x
  | .finite units => { x with magnitude := roundUnits (units * 100) 1 }

/-- A finite number as a signed number of units. -/
def signedUnits? (x : Binary64) : Option Int :=
  match x.magnitude with
  | .infinite => none
  | .finite units => some (if x.negative then -(units : Int) else units)

/-- The number nearest to the sum of two numbers, if they are not infinities of different sign. A
    sum of zero is negative only if both numbers are. -/
def add? (x y : Binary64) : Option Binary64 :=
  match x.signedUnits?, y.signedUnits? with
  | some m, some n =>
    let negative := decide (m + n < 0) || (decide (m + n = 0) && x.negative && y.negative)
    some ⟨negative, roundUnits (m + n).natAbs 1⟩
  | some _, none => some y
  | none, some _ => some x
  | none, none => if x.negative = y.negative then some x else none

/-- Whether two numbers are equal; the two zeros are. -/
def equal (x y : Binary64) : Bool :=
  match x.signedUnits?, y.signedUnits? with
  | some m, some n => m == n
  | none, none => x.negative == y.negative
  | _, _ => false

/-- Whether a number equals an integer exactly. -/
def equalsInt (x : Binary64) (n : Int) : Bool :=
  x.signedUnits? == some (n * Int.pow 2 unitBits)

/-- Whether a number is zero, of either sign. -/
def isZero (x : Binary64) : Bool := x.magnitude == .finite 0

example : ofDecimal false 5 (-1) = ⟨false, .finite (2 ^ 1073)⟩ := by decide +kernel
example : ofDecimal true 25 (-325) = ⟨true, .finite 1⟩ := by decide +kernel
example : ofDecimal false 1 309 = ⟨false, .infinite⟩ := by decide +kernel
example : add? ⟨true, .finite 3⟩ ⟨false, .finite 3⟩ = some ⟨false, .finite 0⟩ := by decide +kernel

end Binary64

end Faultline
