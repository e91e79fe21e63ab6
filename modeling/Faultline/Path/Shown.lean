import Faultline.Path.Basic
import Faultline.Place

/-!
# Files as they are shown

A file is shown relative to the current directory if it lies in it, first as it is written and then
with both sides resolved. Relative paths, files outside the directory, files that cannot be resolved
and all files without a current directory are shown as they are.
-/

namespace Faultline

/-- The path of a file from a directory, as both are written or else with both resolved. -/
def pathFrom? (directory file : FilePath) : Option FilePath :=
  match file.relativeTo? directory with
  | some p => some p
  | none =>
    match file.resolve?, directory.resolve? with
    | some f, some d => f.relativeTo? d
    | _, _ => none

/-- A file as it is shown in a directory. -/
def shownFile (directory : Option Text) (file : Text) : Text :=
  let path := FilePath.ofText file
  if path.isAbsolute then
    match directory with
    | none => file
    | some d =>
      match pathFrom? (FilePath.ofText d) path with
      | some p => p.toText
      | none => file
  else file

/-- A file given as a value, as it is shown in a directory. -/
def shownFileValue (directory : Option Text) (file : Value) : Outcome Text :=
  match file with
  | .string t => .ok (shownFile directory t)
  | other => .error (.pathKind other)

/-- A place with its file as it is shown in a directory. -/
def shownPlace (directory : Option Text) (line file : Value) : Outcome Value :=
  match shownFileValue directory file with
  | .ok t => placeLabel line (.string t)
  | .error failure => .error failure

/-- A warning in two lines: its text, and its place below. -/
def Warning.render (w : Warning) (directory : Option Text) : Outcome Text := do
  let t ← w.text.written
  let place ← shownPlace directory w.line w.file
  let p ← place.written
  return t ++ Faultline.text "\n  " ++ p

end Faultline
