import Faultline.Failure
import Faultline.Term.Malformed
import Faultline.Text.Uppercase

/-!
# Reading tokens

`scan` reads the token at the head of a text and says how many code points it spans; `lexFrom` skips
blanks and scans until the text ends. Scanning looks at the rest of the text only, so the tokens of
a suffix do not depend on what stands before it, and columns are added up by `lexFrom` alone.

A scan that fails says at which distance from its start; `lexFrom` turns the distance into a column.
The tokens in front of the failure are kept, because a lexer that is used again still holds them.
-/

namespace Faultline.Term.Lexer

/-- Why scanning stopped. -/
inductive Stop where
  /-- The text is malformed at a distance from where the scan started. -/
  | malformed (cause : Malformed) (distance : Nat)
  /-- A decimal numeral has too many digits. -/
  | longNumeral (digits : Nat)

/-- The same stop, seen from a place further to the left. -/
def Stop.shift (k : Nat) : Stop → Stop
  | .malformed cause distance => .malformed cause (k + distance)
  | .longNumeral digits => .longNumeral digits

/-! ## Escapes -/

/-- Whether a code point is an octal digit. -/
def isOctalDigit (c : CodePoint) : Bool := 0x30 ≤ c.val && c.val ≤ 0x37

/-- The code points that a letter after a backslash names; any other code point names itself. -/
def named (c : CodePoint) : CodePoint :=
  if c = 'n' then '\n'
  else if c = 't' then '\t'
  else if c = 'r' then '\r'
  else if c = 's' then ' '
  else if c = 'e' then '\x1b'
  else if c = 'b' then '\x08'
  else if c = 'f' then '\x0c'
  else if c = 'v' then '\x0b'
  else if c = 'd' then '\x7f'
  else c

/-- The code point that the digits of a hex escape name. -/
def hexValue? (digits : Text) : Option CodePoint :=
  match Numeral.readInteger? 16 digits with
  | some (.ofNat n) => CodePoint.ofNat? n
  | _ => none

/-- The digits of a hex escape, given the text after its `x`, and how many code points they span:
    what stands between braces, or else two code points. -/
def hexDigits (rest : Text) : Except Stop (Text × Nat) :=
  let plain := rest.take 2
  match rest with
  | [] => .ok (plain, plain.length)
  | c :: inner =>
    if c = '{' then
      let digits := inner.takeWhile fun (d : CodePoint) => decide (d ≠ '}')
      if digits.length = inner.length then .error (.malformed .openHexEscape (1 + digits.length))
      else .ok (digits, digits.length + 2)
    else .ok (plain, plain.length)

/-- The code point of an escape, given the text after its backslash, and how many code points the
    escape spans from there. -/
def escape : Text → Except Stop (CodePoint × Nat)
  | [] => .error (.malformed .openEscape 0)
  | c :: rest =>
    if isOctalDigit c then
      let digits := (c :: rest.take 2).takeWhile isOctalDigit
      let value := Numeral.ofDigits 8 (digits.map fun d => d.val - 0x30)
      .ok (CodePoint.wrap value, digits.length)
    else if c = 'x' then
      match hexDigits rest with
      | .error stop => .error (stop.shift 1)
      | .ok (digits, width) =>
        match hexValue? digits with
        | some value => .ok (value, 1 + width)
        | none => .error (.malformed (.hexEscape digits) (1 + width))
    else if c = '^' then
      match rest with
      | [] => .ok (c, 1)
      | d :: _ => .ok (CodePoint.ofMod d.val 32 (by decide) (by decide), 2)
    else .ok (named c, 1)

/-! ## Literals

Each scanner is given the text after the first code point of the token, and says how many code
points of it belong to the token. -/

/-- What is wrong with a text that ends inside quotes. -/
def openQuote (quote : CodePoint) : Malformed :=
  if quote = '"' then .openString else .openAtom

/-- The text between quotes. `width` code points after the opening quote have been read. -/
def quotedFrom (quote : CodePoint) (width : Nat) (s : Text) : Except Stop (Text × Nat) :=
  match s with
  | [] => .error (.malformed (openQuote quote) 0)
  | c :: rest =>
    if c = quote then .ok ([], width + 1)
    else if c = '\\' then
      match escape rest with
      | .error stop => .error (stop.shift (width + 2))
      | .ok (value, span) =>
        match quotedFrom quote (width + 1 + span) (rest.drop span) with
        | .error stop => .error stop
        | .ok (t, total) => .ok (value :: t, total)
    else
      match quotedFrom quote (width + 1) rest with
      | .error stop => .error stop
      | .ok (t, total) => .ok (c :: t, total)
termination_by s.length
decreasing_by all_goals (simp only [List.length_drop, List.length_cons]; omega)

/-- A character literal, given the text after its `$`. -/
def charLiteral : Text → Except Stop (Token × Nat)
  | [] => .error (.malformed .openChar 0)
  | c :: rest =>
    if c = '\\' then
      match escape rest with
      | .error stop => .error (stop.shift 2)
      | .ok (value, span) => .ok (.char value.val, 1 + span)
    else .ok (.char c.val, 1)

/-- Whether a code point may stand in the digits of a number. -/
def isNumberPart (c : CodePoint) : Bool := c.isAsciiDigit || decide (c = '_')

/-- A text without its underscores. -/
def withoutUnderscores (t : Text) : Text := t.filter fun (c : CodePoint) => decide (c ≠ '_')

/-- Whether numerals of a base may have any number of digits: the powers of two. -/
def isUnlimited (base : Nat) : Bool := [2, 4, 8, 16, 32].contains base

/-- The integer that digits spell in a base. -/
def basedValue? (base : Nat) (digits : Text) : Option Int :=
  if !isUnlimited base && Numeral.decimalLimit < digits.length then none
  else Numeral.readInteger? base digits

/-- An integer with a base, given the digits of the base and the text after the `#`. `width` code
    points after the first one have been read. -/
def basedInteger (baseDigits : Text) (width : Nat) (rest : Text) : Except Stop (Token × Nat) :=
  if Numeral.decimalLimit < baseDigits.length then .error (.longNumeral baseDigits.length)
  else
    let base := Numeral.decimalValue baseDigits
    if 2 ≤ base ∧ base ≤ 36 then
      let body := rest.takeWhile fun c => Text.isAlphanumeric c || decide (c = '_')
      match basedValue? base (withoutUnderscores body) with
      | some n => .ok (.integer n, width + body.length)
      | none => .error (.malformed (.basedInteger base) 0)
    else .error (.malformed (.integerBase base) 0)

/-- The sign of an exponent and the text after it. -/
def exponentSign : Text → Bool × Nat × Text
  | [] => (false, 0, [])
  | c :: rest => if c = '-' then (true, 1, rest) else if c = '+' then (false, 1, rest)
    else (false, 0, c :: rest)

/-- The exponent at the head of a text and how many code points it spans; none is the exponent
    zero. -/
def exponentPart : Text → Except Stop (Int × Nat)
  | [] => .ok (0, 0)
  | c :: rest =>
    if c = 'e' ∨ c = 'E' then
      let (negative, signWidth, after) := exponentSign rest
      let digits := after.takeWhile (·.isAsciiDigit)
      if digits.isEmpty then .error (.malformed .exponent 0)
      else
        let value : Int := Numeral.decimalValue digits
        .ok (if negative then -value else value, 1 + signWidth + digits.length)
    else .ok (0, 0)

/-- A floating-point number, given the digits before the point and the text after it. `width` code
    points after the first one have been read. -/
def floatLiteral (whole : Text) (width : Nat) (rest : Text) : Except Stop (Token × Nat) :=
  let fraction := rest.takeWhile isNumberPart
  match exponentPart (rest.drop fraction.length) with
  | .error stop => .error stop
  | .ok (exponent, span) =>
    .ok (.float (Binary64.read whole (withoutUnderscores fraction) exponent),
      width + fraction.length + span)

/-- A plain integer, given its digits. `width` code points after the first one have been read. -/
def plainInteger (digits : Text) (width : Nat) : Except Stop (Token × Nat) :=
  if Numeral.decimalLimit < digits.length then .error (.longNumeral digits.length)
  else .ok (.integer (Numeral.decimalValue digits), width)

/-- A number that begins with a digit. -/
def number (first : CodePoint) (rest : Text) : Except Stop (Token × Nat) :=
  let run := rest.takeWhile isNumberPart
  let digits := first :: withoutUnderscores run
  match rest.drop run.length with
  | [] => plainInteger digits run.length
  | [c] =>
    if c = '#' then basedInteger digits (run.length + 1) [] else plainInteger digits run.length
  | c :: d :: after =>
    if c = '#' then basedInteger digits (run.length + 1) (d :: after)
    else if c = '.' ∧ d.isAsciiDigit then floatLiteral digits (run.length + 1) (d :: after)
    else plainInteger digits run.length

/-! ## Names -/

/-- Whether a code point may stand in a name. -/
def isNamePart (c : CodePoint) : Bool :=
  Text.isAlphanumeric c || decide (c = '_') || decide (c = '@')

/-- A name that begins with a letter or an underscore: a capital or an underscore makes it a
    variable, anything else an atom. -/
def name (first : CodePoint) (rest : Text) : Token × Nat :=
  let run := rest.takeWhile isNamePart
  let whole := first :: run
  (if Text.isUppercase first || decide (first = '_') then .variableName whole else .atom whole,
    run.length)

/-! ## Tokens -/

/-- The mark that two code points make together. -/
def doubleMark? (c d : CodePoint) : Option Token :=
  if c = '<' ∧ d = '<' then some .binaryOpen
  else if c = '>' ∧ d = '>' then some .binaryClose
  else none

/-- The mark that a code point makes alone. -/
def singleMark? (c : CodePoint) : Option Token :=
  if c = '{' then some .braceOpen
  else if c = '}' then some .braceClose
  else if c = '[' then some .bracketOpen
  else if c = ']' then some .bracketClose
  else if c = ',' then some .comma
  else if c = '|' then some .bar
  else if c = ':' then some .colon
  else if c = '/' then some .slash
  else if c = '-' then some .minus
  else if c = '+' then some .plus
  else if c = '.' then some .dot
  else none

/-- A mark, given its first code point and the text after it. -/
def mark (c : CodePoint) (rest : Text) : Except Stop (Token × Nat) :=
  match rest.head?.bind (doubleMark? c) with
  | some token => .ok (token, 1)
  | none =>
    match singleMark? c with
    | some token => .ok (token, 0)
    | none => .error (.malformed (.character c) 0)

/-- The token that begins with a code point other than a blank, and how many code points of the text
    after it belong to the token. -/
def scan (c : CodePoint) (rest : Text) : Except Stop (Token × Nat) :=
  if c = '"' then (quotedFrom c 0 rest).map fun (t, width) => (.string t, width)
  else if c = '\'' then (quotedFrom c 0 rest).map fun (t, width) => (.atom t, width)
  else if c = '$' then charLiteral rest
  else if c.isAsciiDigit then number c rest
  else if Text.isLetter c || decide (c = '_') then .ok (name c rest)
  else mark c rest

/-- The lexemes of a text that starts at a column, and what stopped the reading before the end. -/
def lexFrom (column : Nat) (s : Text) : List Lexeme × Option Stop :=
  match s with
  | [] => ([⟨.eof, column⟩], none)
  | c :: rest =>
    if Text.isBlank c then lexFrom (column + 1) rest
    else
      match scan c rest with
      | .error stop => ([], some (stop.shift column))
      | .ok (token, more) =>
        let (lexemes, stop) := lexFrom (column + 1 + more) (rest.drop more)
        (⟨token, column⟩ :: lexemes, stop)
termination_by s.length
decreasing_by all_goals (simp only [List.length_drop, List.length_cons]; omega)

/-- A stop as the failure to read a text, the distance being the column. -/
def Stop.failure (whole : Text) : Stop → Failure
  | .malformed cause column => .decode ⟨cause.message, whole, some column⟩
  | .longNumeral digits => .longNumeral digits

end Lexer

/-- The lexemes of a text, the end of the text last. -/
def tokenize (t : Text) : Outcome (List Lexeme) :=
  match Lexer.lexFrom 1 t with
  | (lexemes, none) => .ok lexemes
  | (_, some stop) => .error (stop.failure t)

/-! ## A lexer that is used again -/

/-- A lexer of one text, with the lexemes it holds from earlier use. -/
structure Lexer where
  text : Text
  held : List Lexeme

namespace Lexer

/-- A lexer that has not been used. -/
def fresh (t : Text) : Lexer := ⟨t, []⟩

/-- Reads the text from its start. The lexer holds what it read, also in front of a failure. -/
def tokenize (l : Lexer) : Outcome (List Lexeme) × Lexer :=
  (Term.tokenize l.text, { l with held := (lexFrom 1 l.text).1 })

/-- The lexemes that the lexer holds; if it holds none, it reads the text first. -/
def iterate (l : Lexer) : Outcome (List Lexeme) × Lexer :=
  if l.held.isEmpty then l.tokenize else (.ok l.held, l)

end Lexer

end Faultline.Term
