import Faultline.Value

/-!
# Errors in serialized terms

A text that should spell a term and does not is refused with a message, the text and, where one code
point is to blame, its column, counted from one.
-/

namespace Faultline.Term

/-- Why a text is not accepted as the spelling of a term. -/
structure DecodeError where
  /-- What went wrong. -/
  message : Text
  /-- The text that was read. -/
  text : Text
  /-- The column of the offending code point, if known. -/
  column : Option Int
deriving DecidableEq

/-- A message about a text and a column in one line: the column unless it is `none`, the message and
    the text between quote marks. Values of any kind can be told. -/
def DecodeError.line (message text column : Value) : Text :=
  let place := match column with
    | .none => []
    | column => Faultline.text "[column " ++ column.plain ++ Faultline.text "] "
  place ++ message.plain ++ Faultline.text " in " ++ text.display

/-- The error in one line. -/
def DecodeError.display (e : DecodeError) : Text :=
  line (.string e.message) (.string e.text) (e.column.elim .none .int)

end Faultline.Term
