import Faultline.Value

/-!
# What can be wrong with a template

The faults of message templates: in the text of the template, in the choice of an argument, and in
the layout that a field asks for.
-/

namespace Faultline.Template

/-- The two ways to number the fields of a template. -/
inductive Numbering where
  /-- Fields without a number take the arguments in order. -/
  | automatic
  /-- Fields name their argument by number. -/
  | manual
deriving DecidableEq

/-- Why a template cannot be filled in. -/
inductive Fault where
  /-- An opening brace ends the template. -/
  | loneOpen
  /-- A closing brace stands alone. -/
  | loneClose
  /-- A field has no closing brace. -/
  | unclosedField
  /-- The layout of a field has no closing brace. -/
  | unclosedLayout
  /-- An opening brace stands in the name of a field. -/
  | braceInName
  /-- The template ends where a conversion has to stand. -/
  | missingConversion
  /-- A conversion is followed by something other than a colon or a closing brace. -/
  | afterConversion
  /-- The conversion is not known. -/
  | conversion (letter : CodePoint)
  /-- Fields nest too deeply. -/
  | tooDeep
  /-- A number has too many digits. -/
  | tooManyDigits
  /-- Fields with and without numbers are mixed; the numbering in use comes first. -/
  | mixedNumbering (inUse : Numbering)
  /-- There is no argument with this number. -/
  | noArgument (index : Nat)
  /-- There is no argument with this name. -/
  | noName (name : Text)
  /-- An index or attribute is empty. -/
  | emptyStep
  /-- An index has no closing bracket. -/
  | unclosedIndex
  /-- An index is followed by something other than a point or a bracket. -/
  | afterIndex
  /-- A sequence of this kind is too short for the index. -/
  | indexRange (kind : Text)
  /-- A sequence of this kind is indexed by text. -/
  | textIndex (kind : Text)
  /-- A mapping has no such key. -/
  | noKey (key : Value)
  /-- A value of this kind has no elements. -/
  | notIndexable (kind : Text)
  /-- A value of this kind has no such attribute. -/
  | noAttribute (kind name : Text)
  /-- This kind itself has no such attribute. -/
  | noKindAttribute (kind name : Text)
  /-- This kind itself has no elements. -/
  | kindNotIndexable (kind : Text)
  /-- This kind is narrowed to what its values hold and cannot be narrowed again. -/
  | narrowedAlready (kind : Value)
  /-- A value of this kind takes no layout. -/
  | noLayout (kind : Text)
  /-- The layout is not well formed. -/
  | layout (spelling kind : Text)
  /-- A precision is missing after the point. -/
  | missingPrecision
  /-- A number is to have more places than can be counted. -/
  | precisionTooBig
  /-- Both digit separators are asked for. -/
  | bothSeparators
  /-- The digit separator does not go with the presentation. -/
  | separator (mark presentation : CodePoint)
  /-- The presentation is not known for this kind. -/
  | presentation (letter : CodePoint) (kind : Text)
  /-- A text cannot be laid out with this option. -/
  | notForText (option : Text)
  /-- An integer cannot be laid out with a precision. -/
  | integerPrecision
  /-- An integer cannot be laid out without negative zeros. -/
  | integerNegativeZero
  /-- A character cannot be laid out with this option. -/
  | notForCharacter (option : Text)
  /-- The number is no code point. -/
  | characterRange
  /-- The integer is too large for a machine word. -/
  | characterWidth
  /-- The integer is too large for a binary floating-point number. -/
  | integerTooLarge
  /-- An integer has more decimal digits than may be written. -/
  | longInteger

namespace Fault

/-- A code point that cannot be shown in a message stands there by its number. -/
def shownLetter (limit : Nat) (c : CodePoint) : Text :=
  if 32 < c.val ∧ c.val < limit then [c] else text "\\x" ++ Numeral.write 16 c.val

/-- The message of a fault. -/
def message : Fault → Text
  | .loneOpen => text "Single '\x7b' encountered in format string"
  | .loneClose => text "Single '\x7d' encountered in format string"
  | .unclosedField => text "expected '\x7d' before end of string"
  | .unclosedLayout => text "unmatched '\x7b' in format spec"
  | .braceInName => text "unexpected '\x7b' in field name"
  | .missingConversion => text "end of string while looking for conversion specifier"
  | .afterConversion => text "expected ':' after conversion specifier"
  | .conversion letter => text "Unknown conversion specifier " ++ shownLetter 127 letter
  | .tooDeep => text "Max string recursion exceeded"
  | .tooManyDigits => text "Too many decimal digits in format string"
  | .mixedNumbering .manual =>
    text "cannot switch from manual field specification to automatic field numbering"
  | .mixedNumbering .automatic =>
    text "cannot switch from automatic field numbering to manual field specification"
  | .noArgument index =>
    text "Replacement index " ++ Numeral.ofNat index ++
      text " out of range for positional args tuple"
  | .noName name => Text.quoted name
  | .emptyStep => text "Empty attribute in format string"
  | .unclosedIndex => text "Missing ']' in format string"
  | .afterIndex => text "Only '.' or '[' may follow ']' in format field specifier"
  | .indexRange kind =>
    if kind = text "str" then text "string index out of range"
    else if kind = text "bytes" then text "index out of range"
    else kind ++ text " index out of range"
  | .textIndex kind =>
    if kind = text "str" then text "string indices must be integers, not 'str'"
    else if kind = text "bytes" then text "byte indices must be integers or slices, not str"
    else kind ++ text " indices must be integers or slices, not str"
  | .noKey key => key.display
  | .notIndexable kind => text "'" ++ kind ++ text "' object is not subscriptable"
  | .noAttribute kind name =>
    text "'" ++ kind ++ text "' object has no attribute '" ++ name ++ text "'"
  | .noKindAttribute kind name =>
    text "type object '" ++ kind ++ text "' has no attribute '" ++ name ++ text "'"
  | .kindNotIndexable kind => text "type '" ++ kind ++ text "' is not subscriptable"
  | .narrowedAlready kind => kind.display ++ text " is not a generic class"
  | .noLayout kind =>
    text "unsupported format string passed to " ++ kind ++ text ".__format__"
  | .layout spelling kind =>
    text "Invalid format specifier '" ++ spelling ++ text "' for object of type '" ++ kind ++
      text "'"
  | .missingPrecision => text "Format specifier missing precision"
  | .precisionTooBig => text "precision too big"
  | .bothSeparators => text "Cannot specify both ',' and '_'."
  | .separator mark shape =>
    text "Cannot specify '" ++ [mark] ++ text "' with '" ++ shownLetter 128 shape ++
      text "'."
  | .presentation letter kind =>
    text "Unknown format code '" ++ shownLetter 128 letter ++ text "' for object of type '" ++
      kind ++ text "'"
  | .notForText option => option ++ text " not allowed in string format specifier"
  | .integerPrecision => text "Precision not allowed in integer format specifier"
  | .integerNegativeZero =>
    text "Negative zero coercion (z) not allowed in integer format specifier"
  | .notForCharacter option => option ++ text " not allowed with integer format specifier 'c'"
  | .characterRange => text "%c arg not in range(0x110000)"
  | .characterWidth => text "Python int too large to convert to C long"
  | .integerTooLarge => text "int too large to convert to float"
  | .longInteger => Numeral.limitMessage []

end Fault

/-- A text that shows a value, unless the value cannot be shown. -/
def showing (v : Value) (t : Text) : Except Fault Text :=
  if v.isTooLong then .error .longInteger else .ok t

end Faultline.Template
