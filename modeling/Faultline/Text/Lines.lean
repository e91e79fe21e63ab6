import Faultline.Text.CodePoint
import Faultline.Text.Ranges

/-!
# Lines

A text read line by line. A line ends at a line feed, a carriage return or both together, a vertical
tab, a form feed, an information separator `0x1C` to `0x1E`, a next line `0x85`, or a line or
paragraph separator.
-/

namespace Faultline.Text

/-- The line breaks as ascending ranges. -/
def lineBreakRanges : List (Nat × Nat) :=
  [(0xA, 0xD), (0x1C, 0x1E), (0x85, 0x85), (0x2028, 0x2029)]

/-- Whether a code point ends a line. -/
def isLineBreak (c : CodePoint) : Bool := inRanges lineBreakRanges c.val

/-- The lines of a text. A break ends the line in front of it, so there is no line behind a break at
    the end. -/
def lines : Text → List Text
  | [] => []
  | c :: rest =>
    if c = '\r' ∧ rest.head? = some (CodePoint.ofChar '\n') then lines rest
    else if isLineBreak c then [] :: lines rest
    else
      match lines rest with
      | [] => [[c]]
      | line :: more => (c :: line) :: more

/-- The last line of a text. -/
def lastLine (t : Text) : Text := (lines t).getLast?.getD []

example : lines (text "a\r\nb\n\n") = [text "a", text "b", []] := by decide +kernel

end Faultline.Text
