import Faultline.CommandLine.Help
import Faultline.CommandLine.Run

/-!
# The program

Runs the command line on the arguments of the process: reads what surrounds the run, writes what it
leaves behind and ends with its exit code.
-/

namespace Faultline

open Faultline.CommandLine

/-- A text for the outside, with surrogates by number. -/
def outside (t : Text) : String :=
  String.ofList (t.flatMap fun c =>
    (if c.IsSurrogate then Text.byNumber c else [c]).map fun d => Char.ofNat d.val)

/-- The value of a variable of the environment. -/
def variableValue (name : String) : IO (Option Text) := do
  return (← IO.getEnv name).map text

/-- What surrounds the process. -/
def surroundings : IO Surroundings := do
  let isTerminal ← (← IO.getStderr).isTty
  let console : Console := ⟨none, fun _ => none, if isTerminal then .terminal else .plain⟩
  let console := console.setVariable Console.colorVariable
    (← variableValue (outside Console.colorVariable))
  let console := console.setVariable Console.noColorVariable
    (← variableValue (outside Console.noColorVariable))
  let console := console.setVariable Console.columnsVariable
    (← variableValue (outside Console.columnsVariable))
  return {
    directory := ← variableValue "PWD"
    console := console
    time := text (toString (← IO.monoMsNow))
    trace := text "  raised for a fragment of the command line" }

/-- Writes what a run leaves behind and gives its exit code. -/
def conclude (exitCode : Nat) (output errors : Text) : IO UInt32 := do
  (← IO.getStderr).putStr (outside errors)
  (← IO.getStdout).putStr (outside output)
  return UInt32.ofNat exitCode

end Faultline

open Faultline Faultline.CommandLine in
/-- Runs the program on the arguments of the process. -/
def main (arguments : List String) : IO UInt32 := do
  let s ← surroundings
  match run s (arguments.map text) with
  | .help scope => conclude 0 scope.helpText []
  | .version => conclude 0 (versionText s.console) []
  | .misuse m => conclude 2 [] m.message
  | .finished t => conclude t.exitCode t.output t.errors
  | .failed failure => conclude 1 [] (line failure.message)
