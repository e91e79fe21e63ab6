import Faultline.CommandLine.Invocation
import Faultline.Report

/-!
# Running the program

A run carries out the request of the arguments. It ends with an exit code and with what was written
to the two streams: results go to the output, warnings, log lines and refusals of serialized terms
to the errors. Other failures leave the program as they are.
-/

namespace Faultline.CommandLine

/-- What surrounds a run. -/
structure Surroundings where
  /-- The current directory, if there is one. -/
  directory : Option Text
  console : Console
  /-- The time that log lines show. -/
  time : Text
  /-- The lines that show where a diagnostic was raised. -/
  trace : Text

/-- What a run leaves behind. -/
structure Transcript where
  exitCode : Nat
  output : Text
  errors : Text
deriving DecidableEq

/-- How a run ends. -/
inductive Ending where
  /-- With help on a scope. -/
  | help (scope : Scope)
  /-- With the version. -/
  | version
  | misuse (m : Misuse)
  | finished (t : Transcript)
  | failed (f : Failure)

/-- A text and a line break. -/
def line (t : Text) : Text := t ++ text "\n"

/-- The number of the version. -/
def versionNumber : Text := text "0.1.0"

/-- What tells the version: one line, or two where a line has too few columns. The last two columns
    of a line stay free. -/
def versionText (c : Console) : Text :=
  let together := Scope.programName ++ text " " ++ versionNumber
  match c.columns? with
  | some n =>
    if n < together.length + 2 then line Scope.programName ++ line versionNumber else line together
  | none => line together

/-- A line of the log. -/
def logLine (s : Surroundings) (message : Text) : Text :=
  line (s.time ++ text " [INFO] " ++ Scope.programName ++ text ": " ++ message)

/-! ## Commands -/

/-- The words of a fragment as a value: a pair if there are words behind the token. -/
def leadValue (front : Value) : Option Value → Value
  | none => front
  | some back => .tuple [front, back]

/-- Shows the diagnostic of a fragment. The rule is logged first. -/
def runNormalize (s : Surroundings) (level : Level) (lead token file number : Value)
    (withTrace : Bool) : Ending :=
  match Fragment.ofValues lead token with
  | .error failure => .failed failure
  | .ok f =>
    let log :=
      if level.showsInfo then logLine s (text "Fragment matched rule " ++ f.rule.name) else []
    match parseError number file lead token with
    | .raised e =>
      match e.headline with
      | .ok header => .finished ⟨1, line header ++ if withTrace then line s.trace else [], log⟩
      | .error failure => .failed failure
    | .decode e => .finished ⟨2, [], log ++ line (text "Internal error: " ++ e.display)⟩
    | failure => .failed failure

/-- A number in at least two columns. -/
def inTwoColumns (n : Nat) : Text :=
  let digits := Numeral.ofNat n
  List.replicate (2 - digits.length) (CodePoint.ofChar ' ') ++ digits

/-- A text filled up to a width. -/
def filledUp (width : Nat) (t : Text) : Text :=
  t ++ List.replicate (width - t.length) (CodePoint.ofChar ' ')

/-- The line of a rule in the list of rules, given its number. -/
def ruleLine (number : Nat) (r : Rule) : Text :=
  line (inTwoColumns number ++ text ". " ++ filledUp 22 r.name ++ text " " ++ r.kind.name)

/-- The list of rules, counted from one. -/
def ruleList : Text := (Rule.all.zipIdx 1).flatMap fun (r, number) => ruleLine number r

/-- Shows the structured token that a text serializes. -/
def runDecode (t : Text) : Ending :=
  match (Structured.read t).bind Structured.describe with
  | .ok shown => .finished ⟨0, line shown, []⟩
  | .error (.decode e) => .finished ⟨1, [], line (text "Error: " ++ e.display)⟩
  | .error failure => .failed failure

/-- Reports a warning, about a place if there is a file. -/
def runWarn (s : Surroundings) (console : Console) (t : Text) (file : Option Value)
    (number : Value) : Ending :=
  let desk := Desk.initial s.directory console
  match file with
  | none => .finished ⟨0, [], (desk.warnMessage t).written⟩
  | some file =>
    match desk.warn number file (.string t) with
    | (.ok (), desk) => .finished ⟨0, [], desk.written⟩
    | (.error failure, _) => .failed failure

/-! ## The program -/

/-- The console with the colours that an invocation asks for. -/
def consoleFor (s : Surroundings) (i : Invocation) : Console :=
  match i.colored with
  | none => s.console
  | some b => s.console.pin (some b)

/-- The failure of using the empty list for a level. -/
def noLevel : Failure := .noOperation ValueKind.list.name (text "upper")

/-- Carries out an invocation. -/
def carryOut (s : Surroundings) (i : Invocation) : Ending :=
  match i.level, i.request with
  | none, _ => .failed noLevel
  | some level, .normalize front back token file number withTrace =>
    runNormalize s level (leadValue front back) token file number withTrace
  | some _, .rules => .finished ⟨0, ruleList, []⟩
  | some _, .decode t => runDecode t
  | some _, .warn t file number => runWarn s (consoleFor s i) t file number

/-- Runs the program with arguments. -/
def run (s : Surroundings) (arguments : List Text) : Ending :=
  match readProgram arguments with
  | .error (.help scope) => .help scope
  | .error .version => .version
  | .error (.misuse m) => .misuse m
  | .ok i => carryOut s i

end Faultline.CommandLine
