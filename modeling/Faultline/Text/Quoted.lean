import Faultline.Number.Numeral
import Faultline.Text.Unprintable

/-!
# Quoted texts and bytes

How a text is shown inside a message: between quote marks, with a backslash before the quote mark
and before a backslash, line breaks and tabs by name, and code points without a visible form by
number. The quote mark is the single one, unless the text holds a single one and no double one.
-/

namespace Faultline.Text

/-- The quote mark for a text that holds, or does not hold, single and double quotes. -/
def quoteMark (hasSingle hasDouble : Bool) : CodePoint :=
  if hasSingle && !hasDouble then '"' else '\''

/-- A code point by its number: `\xNN`, `\uNNNN` or `\UNNNNNNNN`, the shortest that fits. -/
def byNumber (c : CodePoint) : Text :=
  if c.val < 0x100 then text "\\x" ++ Numeral.padded 16 2 c.val
  else if c.val < 0x10000 then text "\\u" ++ Numeral.padded 16 4 c.val
  else text "\\U" ++ Numeral.padded 16 8 c.val

/-- A code point as it stands between quote marks. -/
def quoteOne (mark c : CodePoint) : Text :=
  if c = mark ∨ c = '\\' then ['\\', c]
  else if c = '\n' then text "\\n"
  else if c = '\r' then text "\\r"
  else if c = '\t' then text "\\t"
  else if isUnprintable c then byNumber c
  else [c]

/-- A text between quote marks. -/
def quoted (t : Text) : Text :=
  let mark := quoteMark (t.contains (CodePoint.ofChar '\'')) (t.contains (CodePoint.ofChar '"'))
  mark :: t.flatMap (quoteOne mark) ++ [mark]

/-- A byte as it stands between quote marks: ASCII as it is, other bytes by number. -/
def quoteByte (mark : CodePoint) (b : UInt8) : Text :=
  if b < 0x80 then quoteOne mark (CodePoint.ofByte b) else byNumber (CodePoint.ofByte b)

/-- Bytes between quote marks, after the letter `b`. -/
def quotedBytes (bytes : List UInt8) : Text :=
  let mark := quoteMark (bytes.contains 0x27) (bytes.contains 0x22)
  text "b" ++ [mark] ++ bytes.flatMap (quoteByte mark) ++ [mark]

/-- A text with every code point outside ASCII written by number. -/
def asciiOnly (t : Text) : Text :=
  t.flatMap fun c => if c.val < 0x80 then [c] else byNumber c

example : quoted (text "it's") = text "\"it's\"" := by decide +kernel
example : quoted (text "a\\'\"\n") = text "'a\\\\\\'\"\\n'" := by decide +kernel

end Faultline.Text
