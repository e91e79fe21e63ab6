import Faultline.Fragment.Rule
import Faultline.Location
import Faultline.Place
import Faultline.Template.Basic
import Faultline.Value.Sum

/-!
# Raising diagnostics

Every fatal diagnostic is raised by `raiseDiagnostic`, which checks the line, the file, the message
and the kind, in this order. The functions here end with a failure in every case: with
`Failure.raised` when a diagnostic was raised, and with the cause when its error could not be built.
-/

namespace Faultline

/-- The failure of raising a diagnostic as its error. -/
def Diagnostic.raise (d : Diagnostic) : Failure :=
  match d.toError with
  | .ok e => .raised e
  | .error failure => failure

/-- The failure of raising a diagnostic. Its line is coerced; all other parts are checked, and then
    the error is built. -/
def raiseDiagnostic (line file : Value) (kind : Except Value Kind) (message : Value) : Failure :=
  match coerceLine line with
  | .error failure => failure
  | .ok n =>
    match file with
    | .string _ =>
      match message with
      | .string _ =>
        match kind with
        | .ok k => Diagnostic.raise ⟨k, message, file, .int n⟩
        | .error other => .showing other (.kindKind other)
      | other => .showing other (.messageKind other)
    | other => .showing other (.fileKind other)

/-- The text of a message: bytes are read as UTF-8, other values stay as they are. -/
def messageText (message : Value) : Outcome Value :=
  match message with
  | .bytes data =>
    match Utf8.decode data with
    | .ok t => .ok (.string t)
    | .error flaw => .error (.undecodable flaw)
  | other => .ok other

/-- A message with arguments filled in. Without arguments the message is no template. -/
def filledMessage (message : Value) (arguments : List Value) : Outcome Value :=
  if arguments.isEmpty then .ok message
  else
    match message with
    | .string t =>
      match Template.fill t arguments with
      | .ok filled => .ok (.string filled)
      | .error fault => .error (.template fault)
    | other => .error (.notATemplate other.kindName)

/-- The failure of raising a compile error at the place of a node. The message is built before the
    place is resolved. -/
def compileError (metadata file message : Value) (arguments : List Value) : Failure :=
  let place : Outcome (Value × Value × Value) := do
    let decoded ← messageText message
    let filled ← filledMessage decoded arguments
    let (file, line) ← resolveLocation metadata file
    return (line, file, filled)
  match place with
  | .error failure => failure
  | .ok (line, file, message) => raiseDiagnostic line file (.ok .compile) message

/-- How a caller words the description of a problem. -/
inductive Formatter where
  /-- A value, usually a text, to which the text of the description is added. -/
  | before (v : Value)
  /-- One value for every description. -/
  | constant (v : Value)
  /-- Wording fails with the text of a value. -/
  | failing (v : Value)
  /-- Words descriptions in a way of which nothing is known. -/
  | wording (f : Value → Outcome Value)

/-- The wording of a description. -/
def Formatter.apply (f : Formatter) (description : Value) : Outcome Value :=
  match f with
  | .before v => do
    let t ← description.written
    v.plus (.string t)
  | .constant v => .ok v
  | .failing v => .error (.formatter v.plain)
  | .wording f => f description

/-- The failure of raising a compile error whose message a formatter words. -/
def formError (metadata file : Value) (formatter : Formatter) (description : Value) : Failure :=
  match formatter.apply description with
  | .error failure => failure
  | .ok message => compileError metadata file message []

/-- The failure of raising the diagnostic of a fragment. The line is checked first. -/
def parseError (line file lead token : Value) : Failure :=
  match coerceLine line with
  | .error failure => failure
  | .ok n =>
    match normalize (.int n) file lead token with
    | .error failure => failure
    | .ok d => raiseDiagnostic d.line d.file (.ok d.kind) d.message

end Faultline
