import Faultline.CommandLine.Switch
import Faultline.Text.Lines
import Faultline.Text.Quoted

/-!
# Misuse of the command line

What can be wrong with the arguments of the program, and the words for it. A misuse is told in the
name of the scope that found it; arguments that no scope knows are told in the name of the program.
-/

namespace Faultline.CommandLine

/-- How much is logged. -/
inductive Level where
  | debug
  | info
  | warning
  | error
deriving DecidableEq

namespace Level

/-- All levels, the most talkative first. -/
def all : List Level := [.debug, .info, .warning, .error]

/-- The name of a level. -/
def name : Level → Text
  | .debug => text "debug"
  | .info => text "info"
  | .warning => text "warning"
  | .error => text "error"

/-- The level with a name. -/
def ofName? (t : Text) : Option Level := all.find? fun l => l.name == t

@[simp] theorem ofName?_name (l : Level) : ofName? l.name = some l := by
  cases l <;> decide +kernel

/-- Whether information is logged at a level. -/
def showsInfo : Level → Bool
  | .debug | .info => true
  | .warning | .error => false

end Level

/-- What can be wrong with arguments. -/
inductive Fault where
  /-- An argument abbreviates the names of several switches. -/
  | ambiguous (argument : Text) (names : List Text)
  /-- A switch lacks its value. -/
  | noValue (s : Switch)
  /-- A switch has a value and takes none. -/
  | extraValue (s : Switch) (value : Text)
  /-- The value of a switch is no integer. -/
  | notAnInteger (s : Switch) (value : Text)
  /-- The value of a switch is no level. -/
  | unknownLevel (s : Switch) (value : Text)
  /-- There is no such command. -/
  | unknownCommand (name : Text)
  /-- A switch contradicts one that came before it. -/
  | contradiction (s earlier : Switch)
  /-- No operand is left for what is required. -/
  | missing (operand : Text)
  /-- Arguments that nothing accounts for. -/
  | unrecognized (arguments : List Text)

namespace Fault

/-- What the command is called among the operands. -/
def commandOperand : Text := text "command"

/-- What the text of a command is called among the operands. -/
def textOperand : Text := text "text"

/-- The words about the argument of a switch or an operand. -/
def about (label words : Text) : Text := text "argument " ++ label ++ text ": " ++ words

/-- The words about a choice that there is not. -/
def noSuchChoice (value : Text) (choices : List Text) : Text :=
  text "invalid choice: " ++ Text.quoted value ++ text " (choose from " ++
    Text.join (text ", ") (choices.map Text.quoted) ++ text ")"

/-- What is wrong, in words. -/
def message : Fault → Text
  | .ambiguous argument names =>
    text "ambiguous option: " ++ argument ++ text " could match " ++ Text.join (text ", ") names
  | .noValue s => about s.label (text "expected one argument")
  | .extraValue s value =>
    about s.label (text "ignored explicit argument " ++ Text.quoted value)
  | .notAnInteger s value => about s.label (text "invalid int value: " ++ Text.quoted value)
  | .unknownLevel s value => about s.label (noSuchChoice value (Level.all.map Level.name))
  | .unknownCommand name =>
    about commandOperand (noSuchChoice name (Command.all.map Command.name))
  | .contradiction s earlier =>
    about s.label (text "not allowed with argument " ++ earlier.label)
  | .missing operand => text "the following arguments are required: " ++ operand
  | .unrecognized arguments =>
    text "unrecognized arguments: " ++ Text.join (text " ") arguments

end Fault

/-- A misuse of the command line: what is wrong, and the scope that found it. -/
structure Misuse where
  scope : Scope
  fault : Fault

/-- The line that tells a misuse. An argument that is told may break it. -/
def Misuse.message (m : Misuse) : Text :=
  m.scope.label ++ text ": error: " ++ m.fault.message ++ text "\n"

/-- The last line of what is told about a misuse. -/
def Misuse.lastLine (m : Misuse) : Text := Text.lastLine m.message

end Faultline.CommandLine
