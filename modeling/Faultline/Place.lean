import Faultline.Failure

/-!
# Places as they are written

A place is written as its file, a colon and its line. An integer with too many digits cannot be
written, and then there is no text of the place: an error about it cannot be built, and neither a
diagnostic nor a warning can be shown, though both can be made and handed on.
-/

namespace Faultline

/-- A value as it is written in running text. -/
def Value.written (v : Value) : Outcome Text :=
  if v.isTooLong then .error .longInteger else .ok v.plain

/-- A place as it is shown: the file alone for line zero, else the file, a colon and the line. -/
def placeLabel (line file : Value) : Outcome Value :=
  if line.isZero then .ok file
  else do
    let f ← file.written
    let l ← line.written
    return .string (f ++ text ":" ++ l)

namespace Diagnostic

/-- Where the diagnostic points. -/
def location (d : Diagnostic) : Outcome Value := placeLabel d.line d.file

/-- The location and the message in one line. -/
def display (d : Diagnostic) : Outcome Text := do
  let place ← d.location
  let p ← place.written
  let m ← d.message.written
  return p ++ text ": " ++ m

end Diagnostic

namespace DiagnosticError

/-- Builds an error of a class. Its text is made right away. -/
def build (c : ErrorClass) (message file line : Value) : Outcome DiagnosticError := do
  let place ← placeLabel line file
  let p ← place.written
  let m ← message.written
  return ⟨c, message, file, line, p ++ Faultline.text ": " ++ m⟩

/-- Where an error points. -/
def location (e : DiagnosticError) : Outcome Value := placeLabel e.line e.file

/-- The line that announces an error. -/
def headline (e : DiagnosticError) : Outcome Text := do
  let place ← e.location
  let p ← place.written
  let m ← e.message.written
  return Faultline.text "** (" ++ e.kind.name ++ Faultline.text ") " ++ p ++ Faultline.text ": " ++ m

/-- The headline with a trace that has no frames left below it. -/
def headlineWithEmptyTrace (e : DiagnosticError) : Outcome Text := do
  let header ← e.headline
  return header ++ Faultline.text "\n"

end DiagnosticError

/-- The error that a diagnostic is raised as. -/
def Diagnostic.toError (d : Diagnostic) : Outcome DiagnosticError :=
  DiagnosticError.build d.kind.errorClass d.message d.file d.line

/-- Where a warning points. -/
def Warning.location (w : Warning) : Outcome Value := placeLabel w.line w.file

end Faultline
