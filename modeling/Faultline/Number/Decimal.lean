import Faultline.Number.Binary64
import Faultline.Number.Numeral

/-!
# Decimal texts of binary numbers

`shortest` finds the fewest significant digits that read back as the same number: on the grids of
one, two, … seventeen digits it tests the two neighbours of the exact value, and of two that read
back it takes the nearer, at a tie the even one. `atPlaces` and `atDigits` round the exact value to
a number of places or of significant digits.

`Binary64.display` writes the shortest digits: positional from `0.0001` up to sixteen digits before
the point, and otherwise with an exponent of at least two digits.
-/

namespace Faultline

/-- A positive decimal number: its significant digits, and the place of the point counted from
    before the first of them. -/
structure Decimal where
  digits : Text
  point : Int
deriving DecidableEq

namespace Decimal

open Binary64 (unitBits nearest roundDecimal)

/-- The least `e` for which a positive number of units lies below `10 ^ e`. -/
def magnitudeExponent (units : Nat) : Int :=
  (Numeral.ofNat (units * Nat.pow 10 330 / Nat.pow 2 unitBits)).length - 330

/-- The exact value of `units` units times `10 ^ places`, as a ratio. -/
def scaled (units : Nat) (places : Int) : Nat × Nat :=
  if 0 ≤ places then (units * Nat.pow 10 places.toNat, Nat.pow 2 unitBits)
  else (units, Nat.pow 2 unitBits * Nat.pow 10 (-places).toNat)

/-- The nearer of the neighbours of a number on the grid of multiples of `10 ^ -places`, among those
    that read back as the number. -/
def readingBack? (units : Nat) (places : Int) : Option Nat :=
  let (n, d) := scaled units places
  let low := n / d
  let readsBack (k : Nat) : Bool := roundDecimal k (-places) == .finite units
  match readsBack low, readsBack (low + 1) with
  | true, true => some (nearest n d)
  | true, false => some low
  | false, true => some (low + 1)
  | false, false => none

/-- A text without the zeros at its end. -/
def dropTrailingZeros (t : Text) : Text :=
  (t.reverse.dropWhile fun c => decide (c = CodePoint.ofChar '0')).reverse

/-- A multiple of `10 ^ -places` by its significant digits. -/
def ofMultiple (k : Nat) (places : Int) : Decimal :=
  let digits := Numeral.ofNat k
  ⟨digits, digits.length - places⟩

/-- The fewest significant digits that read back as a positive number of units. -/
def shortest (units : Nat) : Decimal :=
  let e := magnitudeExponent units
  let grid (count : Nat) : Int := count - e
  let found := (List.range 17).findSome? fun i =>
    (readingBack? units (grid (i + 1))).map fun k => ofMultiple k (grid (i + 1))
  let decimal := found.getD (ofMultiple (scaled units (grid 17)).1 (grid 17))
  { decimal with digits := dropTrailingZeros decimal.digits }

/-- A number of units rounded to significant digits, a tie to the even digit; zeros at the end
    stay. -/
def atDigits (units count : Nat) : Decimal :=
  if units = 0 then ⟨List.replicate count (CodePoint.ofChar '0'), 1⟩
  else
    let places : Int := count - magnitudeExponent units
    let (n, d) := scaled units places
    let rounded := Numeral.ofNat (nearest n d)
    ⟨rounded.take count, rounded.length - places⟩

/-- A number of units rounded to places after the point, as the digits before and after it. -/
def atPlaces (units places : Nat) : Text × Text :=
  let (n, d) := scaled units places
  let digits := Numeral.padded 10 (places + 1) (nearest n d)
  (digits.take (digits.length - places), digits.drop (digits.length - places))

/-- An exponent: its mark, its sign and at least two digits. -/
def exponentText (mark : CodePoint) (e : Int) : Text :=
  mark :: (if e < 0 then '-' else '+') :: Numeral.padded 10 2 e.natAbs

/-- Digits with a point after the first and an exponent. -/
def scientific (mark : CodePoint) (d : Decimal) : Text :=
  d.digits.take 1 ++ (if d.digits.length ≤ 1 then [] else text "." ++ d.digits.drop 1) ++
    exponentText mark (d.point - 1)

/-- Digits with the point at its place, filled up with zeros on either side of the digits; the
    second text is empty when no digits follow the point. -/
def positional (d : Decimal) : Text × Text :=
  if d.point ≤ 0 then
    (text "0", List.replicate (-d.point).toNat (CodePoint.ofChar '0') ++ d.digits)
  else
    let before := d.point.toNat
    (d.digits.take before ++ List.replicate (before - d.digits.length) (CodePoint.ofChar '0'),
      d.digits.drop before)

/-- Whether the shortest digits are written with an exponent: below `0.0001`, and from sixteen
    digits before the point on. -/
def needsExponent (d : Decimal) : Bool := d.point ≤ -4 || d.point > 16

/-- A positive or zero number of units by its shortest digits, with one digit at least after the
    point when it has no exponent. -/
def shortestText (units : Nat) : Text :=
  if units = 0 then text "0.0"
  else
    let d := shortest units
    if needsExponent d then scientific 'e' d
    else
      let (whole, rest) := positional d
      whole ++ text "." ++ (if rest.isEmpty then text "0" else rest)

end Decimal

namespace Binary64

/-- The text of a number: the shortest digits that read back. -/
def display (x : Binary64) : Text :=
  let unsigned := match x.magnitude with
    | .infinite => text "inf"
    | .finite units => Decimal.shortestText units
  if x.negative then '-' :: unsigned else unsigned

/-- The number that digits, a fraction and an exponent spell, digits given as texts. -/
def read (whole fraction : Text) (exponent : Int) : Binary64 :=
  ofDecimal false (Numeral.decimalValue (whole ++ fraction)) (exponent - fraction.length)

end Binary64

end Faultline
