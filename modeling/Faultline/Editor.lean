import Faultline.Path.Uri

/-!
# Diagnostics in an editor

An editor shows diagnostics at ranges of whole lines of a document, which it knows by its address.
`EditorDiagnostic.ofDiagnostic` and `EditorDiagnostic.ofWarning` convert; a line that is too large
for an editor is refused.

An editor session keeps the diagnostics of each document and sends the whole list of a document
whenever it changes, because a client replaces what it has by what it is sent.
-/

namespace Faultline

/-- How serious an editor takes a diagnostic. -/
inductive Severity where
  | error
  | warning
deriving DecidableEq

/-- The number that stands for a severity. -/
def Severity.number : Severity → Nat
  | .error => 1
  | .warning => 2

/-- A diagnostic as an editor shows it. -/
structure EditorDiagnostic where
  /-- The line it covers, counted from zero. -/
  line : Nat
  message : Text
  severity : Severity
  /-- The kind, for a fatal diagnostic. -/
  code : Option Kind
deriving DecidableEq

namespace EditorDiagnostic

/-- What editors are told the diagnostics come from. -/
def source : Text := text "frontdiag"

/-- The range: from the start of the line to the start of the next one. -/
def range (d : EditorDiagnostic) : List Nat := [d.line, 0, d.line + 1, 0]

/-- The greatest line of an editor. -/
def positionLimit : Nat := 2147483647

/-- The failure of a line that is none of an editor. -/
def outOfRange (line : Value) : Failure := .showing line (.positionRange line)

/-- The line of an editor for a line counted from one. Lines below one are the first line. Both ends
    of the range have to be lines of an editor; the start is checked first. -/
def checkedLine (line : Int) : Outcome Nat :=
  let start := (line - 1).toNat
  if positionLimit < start then .error (outOfRange (.int start))
  else if positionLimit < start + 1 then .error (outOfRange (.int (start + 1 : Nat)))
  else .ok start

/-- A floating-point number less one. -/
def lessOne (x : Binary64) : Binary64 :=
  match x.magnitude with
  | .infinite => x
  | .finite units => ⟨false, Binary64.roundUnits (units - Nat.pow 2 Binary64.unitBits) 1⟩

/-- Whether a floating-point number is at most one. -/
def isAtMostOne (x : Binary64) : Bool :=
  x.negative || (match x.magnitude with
    | .infinite => false
    | .finite units => units ≤ Nat.pow 2 Binary64.unitBits)

/-- The line of an editor for a line given as a value. A fraction is a line only if it is at most
    one; what is no number is the first line. -/
def lineOf (line : Value) : Outcome Nat :=
  match line with
  | .int n => checkedLine n
  | .bool _ => .ok 0
  | .float x => if isAtMostOne x then .ok 0 else .error (outOfRange (.float (lessOne x)))
  | .nan => .ok 0
  | other => .error (.noOperator (text "-") other.kindName ValueKind.int.name)

/-- A message at a line in an editor. The line is checked before the message, which has to be a
    text. -/
def atLine (line message : Value) (severity : Severity) (code : Option Kind) :
    Outcome EditorDiagnostic :=
  match lineOf line with
  | .error failure => .error failure
  | .ok n =>
    match message with
    | .string t => .ok ⟨n, t, severity, code⟩
    | other => .error (.showing other (.editorField (text "message") other))

/-- A fatal diagnostic in an editor. -/
def ofDiagnostic (d : Diagnostic) : Outcome EditorDiagnostic :=
  atLine d.line d.message .error (some d.kind)

/-- A warning in an editor. -/
def ofWarning (w : Warning) : Outcome EditorDiagnostic := atLine w.line w.text .warning none

end EditorDiagnostic

/-- A document's address with its diagnostics. -/
abbrev Publication := Text × List EditorDiagnostic

/-- An editor session. -/
structure EditorSession where
  /-- The diagnostics of each document, in the order in which they were reported. -/
  documents : Text → List EditorDiagnostic
  /-- How many warnings were registered. -/
  count : Nat
  /-- Whether the client is gone, so that sending fails. -/
  clientGone : Bool
  /-- What was sent and not yet taken, oldest first. -/
  sent : List Publication

namespace EditorSession

/-- A session without diagnostics. -/
def initial (clientGone : Bool) : EditorSession := ⟨fun _ => [], 0, clientGone, []⟩

/-- Sends the diagnostics of a document. -/
def publish (s : EditorSession) (document : Text) (diagnostics : List EditorDiagnostic) :
    Outcome Unit × EditorSession :=
  if s.clientGone then (.error .clientGone, s)
  else (.ok (), { s with sent := s.sent ++ [(document, diagnostics)] })

/-- Sets the diagnostics of a document. -/
def setDocument (s : EditorSession) (document : Text) (diagnostics : List EditorDiagnostic) :
    EditorSession :=
  { s with documents := fun u => if u = document then diagnostics else s.documents u }

/-- Keeps one more diagnostic of a document and sends them all. -/
def add (s : EditorSession) (document : Text) (d : EditorDiagnostic) :
    Outcome Unit × EditorSession :=
  let all := s.documents document ++ [d]
  (s.setDocument document all).publish document all

/-- Takes a warning. Its line and text are checked before its file. -/
def notifyWarning (s : EditorSession) (directory : Option Text) (w : Warning) :
    Outcome Unit × EditorSession :=
  match EditorDiagnostic.ofWarning w with
  | .error failure => (.error failure, s)
  | .ok d =>
    match Uri.ofValue directory w.file with
    | .error failure => (.error failure, s)
    | .ok document => s.add document d

/-- Counts a warning. -/
def registerWarning (s : EditorSession) : EditorSession := { s with count := s.count + 1 }

/-- Takes a fatal diagnostic. Its file is checked before its line. -/
def reportError (s : EditorSession) (directory : Option Text) (d : Diagnostic) :
    Outcome Unit × EditorSession :=
  match Uri.ofValue directory d.file with
  | .error failure => (.error failure, s)
  | .ok document =>
    match EditorDiagnostic.ofDiagnostic d with
    | .error failure => (.error failure, s)
    | .ok e => s.add document e

/-- Forgets the diagnostics of a file and sends that it has none. -/
def clear (s : EditorSession) (directory : Option Text) (file : Value) :
    Outcome Unit × EditorSession :=
  match Uri.ofValue directory file with
  | .error failure => (.error failure, s)
  | .ok document => (s.setDocument document []).publish document []

/-- The diagnostics of a file. -/
def diagnosticsFor (s : EditorSession) (directory : Option Text) (file : Value) :
    Outcome (List EditorDiagnostic) :=
  match Uri.ofValue directory file with
  | .error failure => .error failure
  | .ok document => .ok (s.documents document)

/-- What was sent since it was last taken. -/
def takeSent (s : EditorSession) : List Publication × EditorSession :=
  (s.sent, { s with sent := [] })

end EditorSession

end Faultline
