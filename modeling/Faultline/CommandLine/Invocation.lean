import Faultline.CommandLine.Item
import Faultline.Fragment.Basic

/-!
# Invocations

An invocation is what the arguments of the program ask for: a request to one of its commands, the
colours and the level of the log. Items are taken one after the other, and the first that stops
reading decides: a switch for help or for the version, or a misuse. A missing operand is told before
arguments that nothing accounts for, and those in front of the command before those behind it.
-/

namespace Faultline.CommandLine

/-- What is asked of a command. -/
inductive Request where
  /-- To show the diagnostic of a fragment, possibly with a trace. Words behind the token make the
      words in front of it a pair. -/
  | normalize (front : Value) (back : Option Value) (token file line : Value) (withTrace : Bool)
  | rules
  /-- To show the structured token that a text serializes. -/
  | decode (t : Text)
  /-- To report a warning, about a place if there is a file. -/
  | warn (t : Text) (file : Option Value) (line : Value)

/-- What the arguments of the program ask for. -/
structure Invocation where
  /-- Whether output is coloured, if that is asked for. -/
  colored : Option Bool
  /-- How much is logged, unless the switch for it was given nothing. -/
  level : Option Level
  request : Request

/-- Why arguments are not read to an invocation. -/
inductive Stop where
  /-- Help on a scope is asked for. -/
  | help (scope : Scope)
  /-- The version is asked for. -/
  | version
  | misuse (m : Misuse)

/-! ## Commands -/

/-- What the items of a command have said so far. -/
structure CommandSettings where
  front : Value
  back : Option Value
  token : Value
  file : Option Value
  line : Value
  withTrace : Bool
  operand : Option Text
  /-- The arguments that nothing accounts for. -/
  extras : List Text

namespace CommandSettings

/-- What holds when nothing is said. -/
def initial : CommandSettings where
  front := .string Lead.syntaxErrorBefore
  back := none
  token := .string []
  file := none
  line := .int 0
  withTrace := false
  operand := none
  extras := []

/-- The file that is named when none is given. -/
def noFile : Value := .string (text "nofile")

/-- The line that a switch is given: a text has to spell an integer. -/
def lineGiven (c : Command) (value : Value) : Except Stop Value :=
  match value with
  | .string t =>
    match Numeral.readDecimal? t with
    | some n => .ok (.int n)
    | none => .error (.misuse ⟨.command c, .notAnInteger .line t⟩)
  | other => .ok other

/-- Takes a switch of a command with its value. -/
def takeSwitch (c : Command) (settings : CommandSettings) (s : Switch) (value : Value) :
    Except Stop CommandSettings :=
  match s with
  | .help => .error (.help (.command c))
  | .front => .ok { settings with front := value }
  | .back => .ok { settings with back := some value }
  | .token => .ok { settings with token := value }
  | .file => .ok { settings with file := some value }
  | .line =>
    match lineGiven c value with
    | .ok line => .ok { settings with line := line }
    | .error stop => .error stop
  | .trace => .ok { settings with withTrace := true }
  | .version | .color | .noColor | .logLevel => .ok settings

/-- Takes an item of a command. -/
def take (c : Command) (settings : CommandSettings) : Item → Except Stop CommandSettings
  | .switch s value => settings.takeSwitch c s value
  | .operand arguments => .ok { settings with operand := arguments.head? }
  | .extra argument => .ok { settings with extras := settings.extras ++ [argument] }
  | .fault f => .error (.misuse ⟨.command c, f⟩)

/-- The request to a command, which may require a text. -/
def request (c : Command) (settings : CommandSettings) : Except Stop Request :=
  let missing : Except Stop Request :=
    .error (.misuse ⟨.command c, .missing Fault.textOperand⟩)
  match c, settings.operand with
  | .normalize, _ =>
    .ok (.normalize settings.front settings.back settings.token (settings.file.getD noFile)
      settings.line settings.withTrace)
  | .rules, _ => .ok .rules
  | .decode, some t => .ok (.decode t)
  | .warn, some t => .ok (.warn t settings.file settings.line)
  | .decode, none => missing
  | .warn, none => missing

end CommandSettings

/-- Reads the arguments of a command to a request and the arguments that nothing accounts for. -/
def readCommand (c : Command) (arguments : List Text) : Except Stop (Request × List Text) :=
  match Item.ofTexts (.command c) arguments with
  | .error m => .error (.misuse m)
  | .ok items => do
    let settings ← items.foldlM (CommandSettings.take c) CommandSettings.initial
    let request ← settings.request c
    return (request, settings.extras)

/-! ## The program -/

/-- What the items of the program have said so far. -/
structure ProgramSettings where
  colored : Option Bool
  level : Option Level
  /-- The request, and the arguments behind the command that nothing accounts for. -/
  command : Option (Request × List Text)
  /-- The arguments in front of the command that nothing accounts for. -/
  extras : List Text

namespace ProgramSettings

/-- What holds when nothing is said. -/
def initial : ProgramSettings := ⟨none, some .warning, none, []⟩

/-- A misuse that is told in the name of the program. -/
def misuse {α : Type} (f : Fault) : Except Stop α := .error (.misuse ⟨.program, f⟩)

/-- Takes a switch of the program with its value. -/
def takeSwitch (settings : ProgramSettings) (s : Switch) (value : Value) :
    Except Stop ProgramSettings :=
  match s with
  | .help => .error (.help .program)
  | .version => .error .version
  | .color =>
    if settings.colored = some false then misuse (.contradiction .color .noColor)
    else .ok { settings with colored := some true }
  | .noColor =>
    if settings.colored = some true then misuse (.contradiction .noColor .color)
    else .ok { settings with colored := some false }
  | .logLevel =>
    match value with
    | .string t =>
      match Level.ofName? t with
      | some l => .ok { settings with level := some l }
      | none => misuse (.unknownLevel .logLevel t)
    | _ => .ok { settings with level := none }
  | .front | .back | .token | .file | .line | .trace => .ok settings

/-- Takes an item of the program. -/
def take (settings : ProgramSettings) : Item → Except Stop ProgramSettings
  | .switch s value => settings.takeSwitch s value
  | .operand [] => .ok settings
  | .operand (name :: arguments) =>
    match Command.ofName? name with
    | none => misuse (.unknownCommand name)
    | some c => do
      let command ← readCommand c arguments
      return { settings with command := some command }
  | .extra argument => .ok { settings with extras := settings.extras ++ [argument] }
  | .fault f => misuse f

/-- The invocation, if there is a command and everything is accounted for. -/
def invocation (settings : ProgramSettings) : Except Stop Invocation :=
  match settings.command with
  | none => misuse (.missing Fault.commandOperand)
  | some (request, extras) =>
    match settings.extras ++ extras with
    | [] => .ok ⟨settings.colored, settings.level, request⟩
    | unknown => misuse (.unrecognized unknown)

end ProgramSettings

/-- Reads the arguments of the program. -/
def readProgram (arguments : List Text) : Except Stop Invocation :=
  match Item.ofTexts .program arguments with
  | .error m => .error (.misuse m)
  | .ok items => do
    let settings ← items.foldlM ProgramSettings.take ProgramSettings.initial
    settings.invocation

end Faultline.CommandLine
