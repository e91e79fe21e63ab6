import Faultline.Text.Blank
import Faultline.Text.Numeric

/-!
# Numerals

Whole numbers as texts. `write` gives the digits of a number in a base from 2 to 36, lower case and
most significant first. `readInteger?` is the liberal reading of an integer: blanks around it, a
sign, the mark of the base (`0x`, `0o`, `0b`), single underscores between digits, and the decimal
digits of any script.

A decimal numeral of more than `decimalLimit` digits is neither read by `readDecimal?` nor written.
-/

namespace Faultline.Numeral

/-- The greatest number of digits of a decimal numeral. -/
def decimalLimit : Nat := 4300

/-! ## Writing -/

/-- The sign of a digit value below 36: `0` to `9`, then `a` to `z`. -/
def digitSign (d : Nat) : CodePoint :=
  if d < 10 then CodePoint.asciiOfMod (0x30 + d)
  else CodePoint.asciiOfMod (0x57 + d)

/-- The digits of `n` in a base, most significant first; a base below two has one digit only. -/
def write (base n : Nat) : Text :=
  if _h : n < base ∨ base < 2 then [digitSign n]
  else write base (n / base) ++ [digitSign (n % base)]
termination_by n
decreasing_by exact Nat.div_lt_self (by omega) (by omega)

/-- A natural number in decimal. -/
def ofNat (n : Nat) : Text := write 10 n

/-- An integer in decimal, with a minus sign when it is negative. -/
def ofInt : Int → Text
  | .ofNat n => ofNat n
  | .negSucc n => CodePoint.ofChar '-' :: ofNat (n + 1)

/-- A number in a base, filled up with zeros on the left. -/
def padded (base width n : Nat) : Text :=
  let digits := write base n
  List.replicate (width - digits.length) (CodePoint.ofChar '0') ++ digits

/-- Whether a decimal numeral of the integer has more digits than may be written. -/
def isTooLong (n : Int) : Bool := Nat.pow 10 decimalLimit ≤ n.natAbs

/-- The message about a decimal numeral past the limit, with what is said about its length. -/
def limitMessage (length : Text) : Text :=
  text "Exceeds the limit (" ++ ofNat decimalLimit ++
    text " digits) for integer string conversion" ++ length ++
    text "; use sys.set_int_max_str_digits() to increase the limit"

/-! ## Reading -/

/-- The value of a digit: ASCII digits, then ASCII letters of either case from ten. -/
def digitValue? (c : CodePoint) : Option Nat :=
  if 0x30 ≤ c.val ∧ c.val ≤ 0x39 then some (c.val - 0x30)
  else if 0x61 ≤ c.val ∧ c.val ≤ 0x7A then some (c.val - 0x57)
  else if 0x41 ≤ c.val ∧ c.val ≤ 0x5A then some (c.val - 0x37)
  else none

/-- The value of a digit of a base. -/
def digitBelow? (base : Nat) (c : CodePoint) : Option Nat :=
  match digitValue? c with
  | some d => if d < base then some d else none
  | none => none

/-- The number that digit values spell in a base, most significant first. -/
def ofDigits (base : Nat) (digits : List Nat) : Nat :=
  digits.foldl (fun n d => n * base + d) 0

/-- The number that a text of ASCII digits spells; other code points count as zero. -/
def decimalValue (digits : Text) : Nat :=
  ofDigits 10 (digits.map fun c => (digitBelow? 10 c).getD 0)

/-- The digit values of a text in which single underscores may stand between digits. -/
def groupedDigits? (base : Nat) : Text → Option (List Nat)
  | [] => none
  | [c] => (digitBelow? base c).map ([·])
  | c :: d :: rest =>
    match digitBelow? base c with
    | none => none
    | some v =>
      if d = '_' then (groupedDigits? base rest).map (v :: ·)
      else (groupedDigits? base (d :: rest)).map (v :: ·)

/-- A code point in ASCII: itself, a space for a blank, or the ASCII form of a decimal digit. -/
def toAscii? (c : CodePoint) : Option CodePoint :=
  if c.val < 0x80 then some c
  else if Text.isBlank c then some ' '
  else (Text.decimalValue? c).map digitSign

/-- The ASCII blanks that may surround an integer. -/
def isAsciiBlank (c : CodePoint) : Bool := (0x09 ≤ c.val && c.val ≤ 0x0D) || c.val = 0x20

/-- The letter of the mark that a numeral in a base may begin with, as in `0x1f`. -/
def markLetters (base : Nat) : Text :=
  if base = 16 then text "xX"
  else if base = 8 then text "oO"
  else if base = 2 then text "bB"
  else []

/-- A numeral without the mark of its base and the underscore that may follow the mark. -/
def withoutMark (base : Nat) (t : Text) : Text :=
  match t with
  | z :: letter :: rest =>
    if z = '0' ∧ letter ∈ markLetters base then
      match rest with
      | [] => []
      | c :: after => if c = '_' then after else c :: after
    else t
  | _ => t

/-- The integer that a text spells in a base, read liberally. -/
def readInteger? (base : Nat) (t : Text) : Option Int :=
  match t.mapM toAscii? with
  | none => none
  | some ascii =>
    let trimmed := ((ascii.dropWhile isAsciiBlank).reverse.dropWhile isAsciiBlank).reverse
    let magnitude (body : Text) : Option Int :=
      (groupedDigits? base (withoutMark base body)).map fun ds => Int.ofNat (ofDigits base ds)
    match trimmed with
    | [] => none
    | c :: rest =>
      if c = '-' then (magnitude rest).map (- ·)
      else if c = '+' then magnitude rest
      else magnitude (c :: rest)

/-- The number of decimal digits in a text, leading zeros included. -/
def digitCount (t : Text) : Nat := ((t.filterMap toAscii?).filter (·.isAsciiDigit)).length

/-- The integer that a text spells in decimal, read liberally, if it has no more digits than may be
    read. -/
def readDecimal? (t : Text) : Option Int :=
  if decimalLimit < digitCount t then none else readInteger? 10 t

example : ofInt (-120) = text "-120" := by decide +kernel
example : readInteger? 16 (text " 0X_fF ") = some 255 := by decide +kernel
example : readInteger? 10 (text "1__0") = none := by decide +kernel

end Faultline.Numeral
