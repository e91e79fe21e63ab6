import Faultline.Text.CodePoint

/-!
# Commands and switches

The program has four commands. Switches stand in front of the command, where they are about the
program as a whole, and behind it, where they are about the command: the scope of a switch. A switch
has a long name, and one of them a short name as well.
-/

namespace Faultline.CommandLine

/-- The commands of the program. -/
inductive Command where
  /-- Shows the diagnostic of a fragment. -/
  | normalize
  /-- Lists the rules for fragments. -/
  | rules
  /-- Shows a structured token. -/
  | decode
  /-- Reports a warning. -/
  | warn
deriving DecidableEq

namespace Command

/-- All commands, in the order in which they are listed. -/
def all : List Command := [.normalize, .rules, .decode, .warn]

/-- The name of a command. -/
def name : Command → Text
  | .normalize => text "normalize"
  | .rules => text "rules"
  | .decode => text "decode"
  | .warn => text "warn"

/-- The command with a name. -/
def ofName? (t : Text) : Option Command := all.find? fun c => c.name == t

@[simp] theorem ofName?_name (c : Command) : ofName? c.name = some c := by
  cases c <;> decide +kernel

end Command

/-- The switches of the program and of its commands. -/
inductive Switch where
  | help
  | version
  | color
  | noColor
  | logLevel
  /-- The words in front of the token. -/
  | front
  /-- The words behind the token. -/
  | back
  | token
  | file
  | line
  | trace
deriving DecidableEq

namespace Switch

/-- The names of a switch, a short one first. -/
def names : Switch → List Text
  | .help => [text "-h", text "--help"]
  | .version => [text "--version"]
  | .color => [text "--color"]
  | .noColor => [text "--no-color"]
  | .logLevel => [text "--log-level"]
  | .front => [text "--prefix"]
  | .back => [text "--suffix"]
  | .token => [text "--token"]
  | .file => [text "--file"]
  | .line => [text "--line"]
  | .trace => [text "--traceback"]

/-- All names of a switch in one word. -/
def label (s : Switch) : Text := Text.join (text "/") s.names

/-- Whether a switch goes with a value. -/
def takesValue : Switch → Bool
  | .help | .version | .color | .noColor | .trace => false
  | .logLevel | .front | .back | .token | .file | .line => true

end Switch

/-- What is expected besides switches. -/
inductive Operand where
  | nothing
  /-- One text. -/
  | single
  /-- A command, and everything behind it. -/
  | command
deriving DecidableEq

/-- What a switch is about. -/
inductive Scope where
  | program
  | command (c : Command)
deriving DecidableEq

namespace Scope

/-- The name of the program. -/
def programName : Text := text "frontdiag"

/-- The words that call the program in a scope. -/
def label : Scope → Text
  | .program => programName
  | .command c => programName ++ text " " ++ c.name

/-- The switches of a scope. -/
def switches : Scope → List Switch
  | .program => [.help, .version, .color, .noColor, .logLevel]
  | .command .normalize => [.help, .front, .back, .token, .file, .line, .trace]
  | .command .rules => [.help]
  | .command .decode => [.help]
  | .command .warn => [.help, .file, .line]

/-- The switches of a scope with each of their names. -/
def namedSwitches (s : Scope) : List (Text × Switch) :=
  s.switches.flatMap fun w => w.names.map fun n => (n, w)

/-- The switch of a scope with a name. -/
def switch? (s : Scope) (name : Text) : Option Switch :=
  (s.namedSwitches.find? fun entry => entry.1 == name).map (·.2)

/-- What is expected in a scope besides switches. -/
def operand : Scope → Operand
  | .program => .command
  | .command .normalize => .nothing
  | .command .rules => .nothing
  | .command .decode => .single
  | .command .warn => .single

end Scope

end Faultline.CommandLine
