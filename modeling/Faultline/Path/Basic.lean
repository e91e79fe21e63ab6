import Faultline.Text.Utf8

/-!
# Paths

A path is a root and its components. Reading a path drops empty components and `.`, and keeps `..`,
because a component in front of it may be a link. Two slashes at the head of a path make a root of
their own; any other number of them is one slash.

`resolve?` folds `..` away, on the supposition that no component is a link.
-/

namespace Faultline

/-- Where a path starts. -/
inductive PathRoot where
  /-- At the current directory. -/
  | relative
  /-- At the root. -/
  | slash
  /-- At the root that two slashes name. -/
  | twoSlashes
deriving DecidableEq

/-- A path. -/
structure FilePath where
  root : PathRoot
  components : List Text
deriving DecidableEq

namespace FilePath

/-! ## Reading and writing -/

/-- The pieces of a text between slashes. -/
def splitSlashes : Text → List Text
  | [] => [[]]
  | c :: rest =>
    if c = '/' then [] :: splitSlashes rest
    else
      match splitSlashes rest with
      | [] => [[c]]
      | piece :: pieces => (c :: piece) :: pieces

/-- Whether a piece between slashes is a component: neither empty nor `.`. -/
def isComponent (piece : Text) : Bool := !piece.isEmpty && piece != text "."

/-- The root of a path, told by the slashes at its head. -/
def rootOf (t : Text) : PathRoot :=
  match (t.takeWhile fun (c : CodePoint) => decide (c = '/')).length with
  | 0 => .relative
  | 2 => .twoSlashes
  | _ => .slash

/-- The path that a text names. -/
def ofText (t : Text) : FilePath := ⟨rootOf t, (splitSlashes t).filter isComponent⟩

/-- The text of a root. -/
def rootText : PathRoot → Text
  | .relative => []
  | .slash => text "/"
  | .twoSlashes => text "//"

/-- The text of a path; the empty relative path is `.`. -/
def toText (p : FilePath) : Text :=
  let t := rootText p.root ++ Text.join (text "/") p.components
  if t.isEmpty then text "." else t

/-! ## Relations between paths -/

/-- Whether a path does not start at the current directory. -/
def isAbsolute (p : FilePath) : Bool := p.root != .relative

/-- A path seen from a directory: the path itself if it is absolute. -/
def within (directory p : FilePath) : FilePath :=
  if p.isAbsolute then p else { directory with components := directory.components ++ p.components }

/-- The components of `p` behind those of `front`, if `p` begins with `front`. -/
def behind? : (front p : List Text) → Option (List Text)
  | [], p => some p
  | _ :: _, [] => none
  | x :: front, y :: p => if x = y then behind? front p else none

/-- The path from a directory to a path that begins with the directory. -/
def relativeTo? (p directory : FilePath) : Option FilePath :=
  if p.root = directory.root then
    (behind? directory.components p.components).map fun rest => ⟨.relative, rest⟩
  else none

/-- Components with `..` folded away, given those in front of them, last first. At the root `..`
    stays there. -/
def fold : (done rest : List Text) → List Text
  | done, [] => done.reverse
  | done, c :: rest => if c = text ".." then fold (done.drop 1) rest else fold (c :: done) rest

/-- Whether a component can be looked up: it has bytes, and does not hold the code point zero. -/
def isNameable (component : Text) : Bool :=
  (component.all fun c => decide (c.val ≠ 0)) && (Utf8.strayRun? component).isNone

/-- An absolute path with `..` folded away, at the root of one slash, if every component can be
    looked up. -/
def resolve? (p : FilePath) : Option FilePath :=
  if p.isAbsolute && p.components.all isNameable then some ⟨.slash, fold [] p.components⟩ else none

example : (ofText (text "//a/./b//..")).toText = text "//a/b/.." := by decide +kernel
example : (resolve? (ofText (text "/../a/../b"))).map toText = some (text "/b") := by decide +kernel

end FilePath

end Faultline
