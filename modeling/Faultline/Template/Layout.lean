import Faultline.Template.Fault

/-!
# Layouts of fields

A layout says how the value of a field is written: fill and alignment, sign, width, digit separator,
precision and presentation, in this order and all optional. `Layout.parse` reads a layout and
`Layout.write` writes a value by it. Texts, integers and floating-point numbers take layouts; other
values take none but the empty one.
-/

namespace Faultline.Template

/-- Numbers in templates stay below this limit. -/
def numberLimit : Nat := Nat.pow 2 63

/-- The number at the head of a text, its digits being decimal digits of any script, and how many
    code points it spans. -/
def numberFrom (n span : Nat) : Text → Except Fault (Nat × Nat)
  | [] => .ok (n, span)
  | c :: rest =>
    match Text.decimalValue? c with
    | none => .ok (n, span)
    | some d =>
      if n * 10 + d < numberLimit then numberFrom (n * 10 + d) (span + 1) rest
      else .error .tooManyDigits

/-- The number at the head of a text, if it begins with a digit, and the text behind it. -/
def leadingNumber (t : Text) : Except Fault (Option Nat × Text) :=
  match numberFrom 0 0 t with
  | .error fault => .error fault
  | .ok (n, span) => .ok (if span = 0 then none else some n, t.drop span)

/-- Where a value stands in a field that is wider. -/
inductive Align where
  | left
  | right
  | center
  /-- The filling goes between the sign and the digits. -/
  | inside
deriving DecidableEq

/-- The alignment that a mark asks for. -/
def Align.ofMark? (c : CodePoint) : Option Align :=
  if c = '<' then some .left
  else if c = '>' then some .right
  else if c = '^' then some .center
  else if c = '=' then some .inside
  else none

/-- A layout. -/
structure Layout where
  fill : CodePoint
  align : Align
  /-- The sign mark: `+`, `-` or a space. -/
  sign : Option CodePoint
  noNegativeZero : Bool
  alternate : Bool
  width : Option Nat
  /-- The digit separator. -/
  separator : Option CodePoint
  precision : Option Nat
  presentation : Option CodePoint

namespace Layout

/-! ## Reading -/

/-- The fill and the alignment at the head of a layout. -/
def readAlign (t : Text) : Option CodePoint × Option Align × Text :=
  match t with
  | [] => (none, none, [])
  | [c] =>
    match Align.ofMark? c with
    | some a => (none, some a, [])
    | none => (none, none, [c])
  | c :: d :: rest =>
    match Align.ofMark? d with
    | some a => (some c, some a, rest)
    | none =>
      match Align.ofMark? c with
      | some a => (none, some a, d :: rest)
      | none => (none, none, c :: d :: rest)

/-- One of the marks at the head of a text. -/
def readMark (marks : Text) : Text → Option CodePoint × Text
  | [] => (none, [])
  | c :: rest => if marks.contains c then (some c, rest) else (none, c :: rest)

/-- The digit separator at the head of a text. -/
def readSeparator (t : Text) : Except Fault (Option CodePoint × Text) :=
  let (comma, t) := readMark (text ",") t
  let (underscore, t) := readMark (text "_") t
  match comma, underscore with
  | some _, some _ => .error .bothSeparators
  | none, some u =>
    if t.head? = some (CodePoint.ofChar ',') then .error .bothSeparators else .ok (some u, t)
  | some c, none => .ok (some c, t)
  | none, none => .ok (none, t)

/-- The precision at the head of a text. -/
def readPrecision (t : Text) : Except Fault (Option Nat × Text) :=
  match readMark (text ".") t with
  | (none, t) => .ok (none, t)
  | (some _, t) =>
    match leadingNumber t with
    | .error fault => .error fault
    | .ok (none, _) => .error .missingPrecision
    | .ok (some n, t) => .ok (some n, t)

/-- Whether a digit separator goes with a presentation. -/
def separates (mark : CodePoint) (presentation : Option CodePoint) : Bool :=
  match presentation with
  | none => true
  | some c =>
    (text "defgEG%F\x00").contains c || (decide (mark = '_') && (text "boxX").contains c)

/-- The presentation that a layout ends with. The code point zero asks for none, which is something
    only where there is no standard one. -/
def presentationOf (standard : Option CodePoint) (c : CodePoint) : Option CodePoint :=
  if standard.isNone ∧ c.val = 0 then none else some c

/-- Reads a layout for values of a kind that stand right or left without an alignment. Texts have
    the presentation `s` if none is given. -/
def parse (kind : Text) (rightward : Bool) (standard : Option CodePoint) (spelling : Text) :
    Except Fault Layout := do
  let (fill, align, t) := readAlign spelling
  let (sign, t) := readMark (text " +-") t
  let (noNegativeZero, t) := readMark (text "z") t
  let (alternate, t) := readMark (text "#") t
  let (pad, t) := if fill.isNone then readMark (text "0") t else (none, t)
  let (width, t) ← leadingNumber t
  let (separator, t) ← readSeparator t
  let (precision, t) ← readPrecision t
  let presentation ← match t with
    | [] => pure standard
    | [c] => pure (presentationOf standard c)
    | _ => throw (.layout spelling kind)
  match separator with
  | some mark =>
    unless separates mark presentation do
      throw (.separator mark (presentation.getD ' '))
  | none => pure ()
  let usual : Align := if rightward then (if pad.isSome then .inside else .right) else .left
  return {
    fill := fill.getD (pad.getD ' ')
    align := align.getD usual
    sign, noNegativeZero := noNegativeZero.isSome, alternate := alternate.isSome
    width, separator, precision, presentation }

/-! ## Writing -/

/-- A number of fill code points. -/
def filling (l : Layout) (n : Nat) : Text := List.replicate n l.fill

/-- A value with the filling that its field needs; `front` stays in front of inside filling. -/
def pad (l : Layout) (front body : Text) : Text :=
  let missing := l.width.getD 0 - (front.length + body.length)
  match l.align with
  | .left => front ++ body ++ l.filling missing
  | .right => l.filling missing ++ front ++ body
  | .center => l.filling (missing / 2) ++ front ++ body ++ l.filling (missing - missing / 2)
  | .inside => front ++ l.filling missing ++ body

/-- The last `count` digits of a number in groups of `size`, counted from the right. -/
def groupLast (size : Nat) (mark : CodePoint) : (count : Nat) → Text → Text
  | _, [] => []
  | 0, digits => digits
  | count + 1, c :: rest =>
    if count % size = 0 ∧ rest ≠ [] then c :: mark :: groupLast size mark count rest
    else c :: groupLast size mark count rest

/-- Digits in groups of `size`, counted from the right. -/
def group (size : Nat) (mark : CodePoint) (digits : Text) : Text :=
  groupLast size mark digits.length digits

/-- How long a number of digits is with its separators. -/
def groupedLength (size : Nat) (mark : Option CodePoint) (count : Nat) : Nat :=
  match mark with
  | none => count
  | some _ => count + (count - 1) / size

/-- Digits with separators, and with the fewest zeros in front that fill a width. -/
def groupTo (size : Nat) (mark : Option CodePoint) (width : Nat) (digits : Text) : Text :=
  let zeros := ((List.range (width + 1)).find? fun zeros =>
    decide (width ≤ groupedLength size mark (zeros + digits.length))).getD 0
  let filled := List.replicate zeros (CodePoint.ofChar '0') ++ digits
  match mark with
  | none => filled
  | some m => group size m filled

/-- The sign of a number. -/
def signText (l : Layout) (negative : Bool) : Text :=
  if negative then text "-"
  else if l.sign = some '+' then text "+"
  else if l.sign = some ' ' then text " "
  else []

/-- A number of a sign, a mark of its base, digits, and what follows the digits. -/
def number (l : Layout) (negative : Bool) (mark digits rest : Text) : Text :=
  let front := l.signText negative ++ mark
  let fixed := front.length + rest.length
  let width := if l.fill = '0' ∧ l.align = .inside then l.width.getD 0 - fixed else 0
  let size := if (l.presentation.map fun c => (text "boxX").contains c) = some true then 4 else 3
  let grouped := if digits.isEmpty then [] else groupTo size l.separator width digits
  l.pad front (grouped ++ rest)

/-- ASCII letters as capitals. -/
def capitals (t : Text) : Text :=
  t.map fun c =>
    if 0x61 ≤ c.val ∧ c.val ≤ 0x7A then CodePoint.asciiOfMod (c.val - 0x20)
    else c

/-- Writes a text. -/
def writeText (l : Layout) (t : Text) : Except Fault Text :=
  if l.sign = some ' ' then .error (.notForText (text "Space"))
  else if l.sign.isSome then .error (.notForText (text "Sign"))
  else if l.noNegativeZero then .error (.notForText (text "Negative zero coercion (z)"))
  else if l.alternate then .error (.notForText (text "Alternate form (#)"))
  else if l.align = .inside then .error (.notForText (text "'=' alignment"))
  else .ok (l.pad [] (match l.precision with
    | some n => t.take n
    | none => t))

/-- The base that a presentation of integers asks for, and its mark. -/
def base (presentation : CodePoint) : Nat × Text :=
  if presentation = 'b' then (2, text "0b")
  else if presentation = 'o' then (8, text "0o")
  else if presentation = 'x' then (16, text "0x")
  else if presentation = 'X' then (16, text "0X")
  else (10, [])

/-- Writes the code point with a number. -/
def writeCharacter (l : Layout) (n : Int) : Except Fault Text :=
  if l.sign.isSome then .error (.notForCharacter (text "Sign"))
  else if l.alternate then .error (.notForCharacter (text "Alternate form (#)"))
  else if n < -Int.pow 2 63 ∨ Int.pow 2 63 ≤ n then .error .characterWidth
  else
    match n with
    | .ofNat k =>
      match CodePoint.ofNat? k with
      | some c => .ok (l.pad [] [c])
      | none => .error .characterRange
    | .negSucc _ => .error .characterRange

/-- Writes an integer in a base. -/
def writeInteger (l : Layout) (presentation : CodePoint) (n : Int) : Except Fault Text :=
  if l.precision.isSome then .error .integerPrecision
  else if l.noNegativeZero then .error .integerNegativeZero
  else if presentation = 'c' then l.writeCharacter n
  else
    let (base, mark) := base presentation
    if base = 10 && Numeral.isTooLong n then .error .longInteger
    else
      let digits := Numeral.write base n.natAbs
      .ok (l.number (decide (n < 0)) (if l.alternate then mark else [])
        (if presentation = 'X' then capitals digits else digits) [])

/-! ## Floating-point numbers -/

/-- A point and digits, without the point if there are no digits and it need not be kept. -/
def fractionText (keepPoint : Bool) (digits : Text) : Text :=
  if digits.isEmpty && !keepPoint then [] else text "." ++ digits

/-- Decimal digits with an exponent, as the digits before the point and the rest. -/
def withExponent (keepPoint : Bool) (d : Decimal) : Text × Text :=
  (d.digits.take 1,
    fractionText keepPoint (d.digits.drop 1) ++ Decimal.exponentText 'e' (d.point - 1))

/-- A magnitude with a number of places. -/
def fixed (alternate : Bool) (units places : Nat) : Text × Text :=
  let (whole, fraction) := Decimal.atPlaces units places
  (whole, fractionText alternate fraction)

/-- No magnitude has more significant digits than this. -/
def exactDigits : Nat := 1100

/-- A magnitude with a number of significant digits, with an exponent where the digits do not reach
    the point or begin far behind it. A general number drops the zeros at its end. -/
def general (alternate oneMore : Bool) (units precision : Nat) : Text × Text :=
  let precision := max (if alternate then precision else min precision exactDigits) 1
  let rounded := Decimal.atDigits units precision
  let d : Decimal :=
    if alternate then rounded
    else
      let kept := Decimal.dropTrailingZeros rounded.digits
      { rounded with digits := if kept.isEmpty then text "0" else kept }
  if d.point ≤ -4 ∨ d.point > precision - (if oneMore then 1 else 0) then
    withExponent alternate d
  else
    let (whole, fraction) := Decimal.positional d
    (whole, fractionText alternate
      (if fraction.isEmpty && oneMore then text "0" else fraction))

/-- The shortest digits of a magnitude, with a point before the exponent if it has to be kept. -/
def shortest (keepPoint : Bool) (units : Nat) : Text × Text :=
  let shown := Decimal.shortestText units
  let whole := shown.takeWhile (·.isAsciiDigit)
  let rest := shown.drop whole.length
  (whole, if keepPoint && decide (rest.head? = some (CodePoint.ofChar 'e')) then text "." ++ rest
    else rest)

/-- A magnitude in a presentation, as the digits before the point and the rest. -/
def magnitude (l : Layout) (presentation : Option CodePoint) (m : Magnitude) : Text × Text :=
  match m with
  | .infinite => ([], text "inf")
  | .finite units =>
    match presentation with
    | none =>
      match l.precision with
      | none => shortest l.alternate units
      | some p => general l.alternate true units p
    | some c =>
      let precision := l.precision.getD 6
      if (text "eE").contains c then
        withExponent l.alternate (Decimal.atDigits units (precision + 1))
      else if (text "fF%").contains c then fixed l.alternate units precision
      else general l.alternate false units precision

/-- Whether letters in a presentation are capitals. -/
def isCapital (l : Layout) : Bool :=
  match l.presentation with
  | some c => (text "EFG").contains c
  | none => false

/-- The greatest precision of floating-point numbers. -/
def precisionLimit : Nat := Nat.pow 2 31 - 1

/-- What keeps a floating-point number from being written, if anything does. -/
def floatFault? (l : Layout) : Option Fault :=
  if precisionLimit < l.precision.getD 0 then some .precisionTooBig else none

/-- A floating-point number that can be written. -/
def floatText (l : Layout) (x : Binary64) : Text :=
  let isPercent := l.presentation = some '%'
  let x := if isPercent then x.percent else x
  let (whole, rest) := l.magnitude l.presentation x.magnitude
  let rest := if isPercent then rest ++ text "%" else rest
  let isZero := (whole ++ rest.takeWhile fun (c : CodePoint) => decide (c ≠ 'e')).all
    fun (c : CodePoint) => decide (c = '0' ∨ c = '.' ∨ c = '%')
  let negative := x.negative && !(l.noNegativeZero && isZero)
  l.number negative [] whole (if l.isCapital then capitals rest else rest)

/-- Writes a floating-point number. -/
def writeFloat (l : Layout) (x : Binary64) : Except Fault Text :=
  match l.floatFault? with
  | some fault => .error fault
  | none => .ok (l.floatText x)

/-- Writes the floating-point value that is no number. It has no sign of its own. -/
def writeNaN (l : Layout) : Except Fault Text :=
  match l.floatFault? with
  | some fault => .error fault
  | none =>
    let word := if l.presentation = some '%' then text "nan%" else text "nan"
    .ok (l.number false [] [] (if l.isCapital then capitals word else word))

/-- Writes an integer in the presentation that the layout asks for. -/
def writeNumber (kind : Text) (l : Layout) (n : Int) : Except Fault Text :=
  match l.presentation with
  | none => l.writeInteger 'd' n
  | some c =>
    if (text "bcdoxXn").contains c then l.writeInteger c n
    else if (text "eEfFgG%").contains c then
      let x := Binary64.ofInt n
      if x.magnitude = .infinite then .error .integerTooLarge else l.writeFloat x
    else .error (.presentation c kind)

/-- The layout of a floating-point number that a text spells. -/
def parseFloat (spelling : Text) : Except Fault Layout := do
  let l ← parse ValueKind.float.name true none spelling
  match l.presentation with
  | none => return l
  | some c =>
    if (text "eEfFgGn%").contains c then return l
    else throw (.presentation c ValueKind.float.name)

/-- Writes a value by the layout that a text spells. -/
def write (v : Value) (spelling : Text) : Except Fault Text :=
  if spelling.isEmpty then showing v v.plain
  else
    match v with
    | .string t => do
      let l ← parse v.kindName false (some 's') spelling
      if l.presentation = some 's' then l.writeText t
      else throw (.presentation (l.presentation.getD 's') v.kindName)
    | .int n => do
      let l ← parse v.kindName true (some 'd') spelling
      l.writeNumber v.kindName n
    | .bool b => do
      let l ← parse v.kindName true (some 'd') spelling
      l.writeNumber v.kindName (if b then 1 else 0)
    | .float x => do
      let l ← parseFloat spelling
      l.writeFloat x
    | .nan => do
      let l ← parseFloat spelling
      l.writeNaN
    | other => .error (.noLayout other.kindName)

end Layout

end Faultline.Template
