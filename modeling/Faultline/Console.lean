import Faultline.Text.Blank
import Faultline.Value

/-!
# The console

Warnings go to the console, coloured or not. Whether they are coloured is pinned by the caller, or
else settled when it is first asked and kept from then on: by the variable `FRONTDIAG_ANSI` if it
holds a word for yes or no, else by a non-empty `NO_COLOR`, else by whether the stream is a
terminal.
-/

namespace Faultline

/-- What the warnings are written to. -/
inductive Stream where
  /-- A stream that is no terminal. -/
  | plain
  | terminal
  /-- A stream that cannot say whether it is a terminal. -/
  | bare
deriving DecidableEq

/-- The console and what decides about its colours. -/
structure Console where
  /-- Whether output is coloured, once that is pinned or settled. -/
  colored : Option Bool
  /-- The values of the environment variables that are set. -/
  environment : Text → Option Text
  stream : Stream

namespace Console

/-- The variable that asks for colours or forbids them. -/
def colorVariable : Text := text "FRONTDIAG_ANSI"

/-- The variable that forbids colours when it is not empty. -/
def noColorVariable : Text := text "NO_COLOR"

/-- The variable that tells how many columns a line has. -/
def columnsVariable : Text := text "COLUMNS"

/-- A console without variables on a stream that is no terminal, nothing being settled. -/
def initial : Console := ⟨none, fun _ => none, .plain⟩

/-- The words for yes. -/
def yesWords : List Text := [text "1", text "true", text "yes", text "on"]

/-- The words for no. -/
def noWords : List Text := [text "0", text "false", text "no", text "off"]

/-- What a setting says, if it holds a word for yes or no in letters of either case. -/
def settingOf? (value : Text) : Option Bool :=
  -- beyond ASCII, no letter has a letter of these words as its lower-case form
  let word := (Text.trim value).map CodePoint.asciiLower
  if yesWords.contains word then some true
  else if noWords.contains word then some false
  else none

/-- What the variables and the stream say about colours. -/
def detect (c : Console) : Bool :=
  match (c.environment colorVariable).bind settingOf? with
  | some setting => setting
  | none =>
    match c.environment noColorVariable with
    | some (_ :: _) => false
    | _ => decide (c.stream = .terminal)

/-- Whether output is coloured. -/
def isColored (c : Console) : Bool := c.colored.getD c.detect

/-- The console after it was asked whether output is coloured. -/
def settle (c : Console) : Console := { c with colored := some c.isColored }

/-- Pins whether output is coloured, or leaves it to be settled anew. -/
def pin (c : Console) (colored : Option Bool) : Console := { c with colored := colored }

/-- Sets a variable, or unsets it. -/
def setVariable (c : Console) (name : Text) (value : Option Text) : Console :=
  { c with environment := fun n => if n = name then value else c.environment n }

/-- Writes to another stream from here on. -/
def redirect (c : Console) (stream : Stream) : Console := { c with stream := stream }

/-- How many columns a line has, if the environment tells it. -/
def columns? (c : Console) : Option Nat :=
  match (c.environment columnsVariable).bind Numeral.readDecimal? with
  | some (.ofNat (n + 1)) => some (n + 1)
  | _ => none

/-! ## Colours -/

/-- The colours and styles of the console. -/
inductive Color where
  | yellow
  | red
  | bold
  | reset
deriving DecidableEq

/-- The escape sequence that switches to a colour. -/
def Color.code : Color → Text
  | .yellow => text "\x1b[33m"
  | .red => text "\x1b[31m"
  | .bold => text "\x1b[1m"
  | .reset => text "\x1b[0m"

/-- A text in a colour if output is coloured. -/
def colorize (c : Console) (t : Text) (color : Color) : Text :=
  if c.isColored then color.code ++ t ++ Color.reset.code else t

/-- What stands in front of every warning. -/
def warningMark (c : Console) : Text := c.colorize (text "warning: ") .yellow

end Console

end Faultline
