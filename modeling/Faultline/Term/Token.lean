import Faultline.Value

/-!
# Tokens of the term notation

A token is what the lexer reads as one unit of a serialized term; literals carry their value. A
lexeme is a token with the column it starts at. The lexer counts columns from one; lexemes that are
built otherwise may have any.
-/

namespace Faultline.Term

/-- A token of the term notation. -/
inductive Token where
  /-- The end of the text. -/
  | eof
  /-- The terminator of a term. -/
  | dot
  /-- An atom, bare or between single quotes. -/
  | atom (name : Text)
  /-- A name that begins with a capital or an underscore. -/
  | variableName (name : Text)
  | integer (n : Int)
  | float (x : Binary64)
  /-- A character literal, by the number of its code point. -/
  | char (n : Int)
  /-- A text between double quotes. -/
  | string (t : Text)
  | braceOpen
  | braceClose
  | bracketOpen
  | bracketClose
  | binaryOpen
  | binaryClose
  | comma
  | bar
  | colon
  | slash
  | minus
  | plus
deriving DecidableEq

namespace Token

/-- The name of a token's type. -/
def typeName : Token → Text
  | .eof => text "EOF"
  | .dot => text "DOT"
  | .atom _ => text "ATOM"
  | .variableName _ => text "VARIABLE"
  | .integer _ => text "INTEGER"
  | .float _ => text "FLOAT"
  | .char _ => text "CHAR"
  | .string _ => text "STRING"
  | .braceOpen => text "LBRACE"
  | .braceClose => text "RBRACE"
  | .bracketOpen => text "LBRACKET"
  | .bracketClose => text "RBRACKET"
  | .binaryOpen => text "BIN_OPEN"
  | .binaryClose => text "BIN_CLOSE"
  | .comma => text "COMMA"
  | .bar => text "PIPE"
  | .colon => text "COLON"
  | .slash => text "SLASH"
  | .minus => text "MINUS"
  | .plus => text "PLUS"

/-- The tokens that carry no value. -/
def marks : List Token :=
  [.eof, .dot, .braceOpen, .braceClose, .bracketOpen, .bracketClose, .binaryOpen, .binaryClose,
    .comma, .bar, .colon, .slash, .minus, .plus]

/-- The token without a value whose type has a name. -/
def mark? (typeName : Text) : Option Token := marks.find? fun t => t.typeName == typeName

/-- The value of a literal. -/
def value? : Token → Option Value
  | .atom name | .variableName name => some (.string name)
  | .string t => some (.string t)
  | .integer n | .char n => some (.int n)
  | .float x => some (.float x)
  | _ => none

/-- Whether a token holds an integer that is too long to be written in decimal. -/
def isTooLong : Token → Bool
  | .integer n | .char n => Numeral.isTooLong n
  | _ => false

end Token

/-- A token and the column it starts at. -/
structure Lexeme where
  token : Token
  column : Int
deriving DecidableEq

/-- A lexeme in one line: the type, the value if there is one, and the column. -/
def Lexeme.display (l : Lexeme) : Text :=
  let value := match l.token.value? with
    | some v => Faultline.text ", " ++ v.display
    | none => []
  Faultline.text "TermToken(" ++ l.token.typeName ++ value ++ Faultline.text ", col " ++
    Numeral.ofInt l.column ++ Faultline.text ")"

end Faultline.Term
