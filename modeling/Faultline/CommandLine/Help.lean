import Faultline.CommandLine.Misuse

/-!
# Help

The text that is shown when help on a scope is asked for: how the program is called there, and a
line for every command and switch.
-/

namespace Faultline.CommandLine

/-- What a command is for. -/
def Command.purpose : Command → Text
  | .normalize => text "show the diagnostic of a fragment"
  | .rules => text "list the rules for fragments"
  | .decode => text "show a structured token"
  | .warn => text "report a warning"

/-- What a switch is for. -/
def Switch.purpose : Switch → Text
  | .help => text "show this help"
  | .version => text "show the version"
  | .color => text "colour the warnings"
  | .noColor => text "do not colour the warnings"
  | .logLevel => text "how much is logged: " ++ Text.join (text ", ") (Level.all.map Level.name)
  | .front => text "the words in front of the token"
  | .back => text "the words behind the token"
  | .token => text "the offending token"
  | .file => text "the file"
  | .line => text "the line"
  | .trace => text "show a trace as well"

/-- How what is expected besides switches is called. -/
def Operand.label : Operand → Text
  | .nothing => []
  | .single => text " TEXT"
  | .command => text " COMMAND ..."

/-- A switch as it is written. -/
def Switch.usage (s : Switch) : Text :=
  Text.join (text ", ") s.names ++ if s.takesValue then text " VALUE" else []

/-- A line of a list with what it is for. -/
def helpLine (item purpose : Text) : Text := text "  " ++ item ++ text ": " ++ purpose ++ text "\n"

/-- The commands of a scope, a line each. -/
def Scope.commandLines : Scope → Text
  | .program => text "\ncommands:\n" ++ Command.all.flatMap fun c => helpLine c.name c.purpose
  | .command _ => []

/-- The help on a scope. -/
def Scope.helpText (s : Scope) : Text :=
  text "usage: " ++ s.label ++ text " [SWITCH ...]" ++ s.operand.label ++ text "\n" ++
    s.commandLines ++ text "\nswitches:\n" ++ s.switches.flatMap fun w => helpLine w.usage w.purpose

end Faultline.CommandLine
