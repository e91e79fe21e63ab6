import Faultline.Text.CodePoint
import Faultline.Text.Ranges

/-!
# Blanks

The code points that separate tokens and that trimming removes: Unicode white space (version 14.0)
together with the information separators `0x1C` to `0x1F`.
-/

namespace Faultline.Text

/-- The blanks as ascending ranges. -/
def blankRanges : List (Nat × Nat) :=
  [(0x9, 0xD), (0x1C, 0x20), (0x85, 0x85), (0xA0, 0xA0), (0x1680, 0x1680), (0x2000, 0x200A),
   (0x2028, 0x2029), (0x202F, 0x202F), (0x205F, 0x205F), (0x3000, 0x3000)]

/-- Whether a code point is a blank. -/
def isBlank (c : CodePoint) : Bool := inRanges blankRanges c.val

/-- A text without the blanks at its head. -/
def trimStart (t : Text) : Text := t.dropWhile isBlank

/-- A text without the blanks at either end. -/
def trim (t : Text) : Text := (trimStart (trimStart t).reverse).reverse

end Faultline.Text
