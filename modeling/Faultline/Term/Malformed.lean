import Faultline.Term.Basic
import Faultline.Term.Token

/-!
# What is wrong with a serialized term

The causes for which a text is refused: in its characters, in the order of its tokens, and in the
shape of the decoded term.
-/

namespace Faultline.Term

/-- Why a text is refused. -/
inductive Malformed where
  /-- The text ends after a backslash. -/
  | openEscape
  /-- The text ends inside the braces of a hex escape. -/
  | openHexEscape
  /-- What stands in a hex escape is not the number of a code point. -/
  | hexEscape (digits : Text)
  /-- The text ends inside double quotes. -/
  | openString
  /-- The text ends inside single quotes. -/
  | openAtom
  /-- The text ends after the mark of a character literal. -/
  | openChar
  /-- The base of an integer is not from 2 to 36. -/
  | integerBase (base : Nat)
  /-- What follows the base is no integer of that base. -/
  | basedInteger (base : Nat)
  /-- An exponent has no digits. -/
  | exponent
  /-- No token begins with this code point. -/
  | character (c : CodePoint)
  /-- A term is not followed by the terminator. -/
  | noTerminator
  /-- Tokens stand after the terminator. -/
  | afterTerminator
  /-- A variable stands where a term is expected. -/
  | variableName (name : Text)
  /-- No term begins with this token. -/
  | token (token : Token)
  /-- A sign is not followed by a number. -/
  | sign
  /-- A tuple is not closed. -/
  | openTuple
  /-- A list is not closed. -/
  | openList
  /-- A binary is not closed. -/
  | openBinary
  /-- No segment of a binary begins with this token. -/
  | segment (token : Token)
  /-- A colon in a segment is not followed by a size. -/
  | segmentSize
  /-- A slash or minus in a segment is not followed by a type. -/
  | segmentType
  /-- A segment is a floating-point number. -/
  | floatSegment
  /-- A segment with a Unicode type is not the number of a code point. -/
  | codePoint (n : Int)
  /-- The size of a segment is no multiple of eight. -/
  | partialByte (size : Int)
  /-- The term is no tuple of six elements that begins with the sigil marker. -/
  | sigilShape
  /-- The content of a sigil is no list with elements. -/
  | sigilContent
  /-- The letter of a sigil is neither a number nor a text. -/
  | sigilLetter (letter : Term)
  /-- The term is no list of one atom. -/
  | aliasShape
  /-- The term is no list. -/
  | listShape
  /-- The term has none of the shapes of a structured token. -/
  | shape

namespace Malformed

/-- The message of a cause. -/
def message : Malformed → Text
  | .openEscape => text "Unterminated escape sequence"
  | .openHexEscape => text "Unterminated hex escape"
  | .hexEscape digits => text "Invalid hex escape '\\x" ++ digits ++ text "'"
  | .openString => text "Unterminated string"
  | .openAtom => text "Unterminated quoted atom"
  | .openChar => text "Unterminated character literal"
  | .integerBase base => text "Invalid integer base " ++ Numeral.ofNat base
  | .basedInteger base => text "Invalid base " ++ Numeral.ofNat base ++ text " integer"
  | .exponent => text "Invalid float exponent"
  | .character c => text "Unexpected character '" ++ [c] ++ text "'"
  | .noTerminator => text "Expected end of term"
  | .afterTerminator => text "Unexpected input after term"
  | .variableName name => text "Variables are not allowed in terms: " ++ name
  | .token t => text "Unexpected token " ++ t.typeName
  | .sign => text "Expected a number after sign"
  | .openTuple => text "Expected '\x7d' to close tuple"
  | .openList => text "Expected ']' to close list"
  | .openBinary => text "Expected '>>' to close binary"
  | .segment t => text "Unexpected token " ++ t.typeName ++ text " in binary"
  | .segmentSize => text "Expected segment size"
  | .segmentType => text "Expected type specifier"
  | .floatSegment => text "Float segments are not supported"
  | .codePoint n => text "Invalid code point " ++ Numeral.ofInt n ++ text " in binary"
  | .partialByte size =>
    text "Segment size " ++ Numeral.ofInt size ++ text " is not a whole number of bytes"
  | .sigilShape => text "Expected a six element sigil tuple"
  | .sigilContent => text "Expected non-empty sigil content"
  | .sigilLetter letter => text "Invalid sigil letter " ++ letter.display
  | .aliasShape => text "Expected a single quoted alias"
  | .listShape => text "Expected a list"
  | .shape => text "Not a structured token"

/-- Whether the message would hold an integer that is too long to be written in decimal. -/
def isTooLong : Malformed → Bool
  | .codePoint n => Numeral.isTooLong n
  | .partialByte size => Numeral.isTooLong size
  | .sigilLetter letter => letter.isTooLong
  | _ => false

end Malformed

end Faultline.Term
