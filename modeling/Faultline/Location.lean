import Faultline.Failure

/-!
# Places of syntax nodes

A syntax node carries metadata that says where it stands. Usually that is a line of the file being
compiled; a node that came from another file names that file, and then the other file decides.

Metadata is `none`, a line, a mapping, a sequence of keys and values of which the first of a key
counts, or `LocationMeta` that was built before.
-/

namespace Faultline

/-- A line as a natural number: `none` is line zero, and a position stands for its first number. -/
def coerceLine (line : Value) : Outcome Nat :=
  let number : Value := match line with
    | .tuple (.int n :: _) => .int n
    | .tuple (.bool b :: _) => .bool b
    | v => v
  match number with
  | .none => .ok 0
  | .int (.ofNat n) => .ok n
  | .int (.negSucc n) => .error (.showing (.int (.negSucc n)) (.negativeLine (.negSucc n)))
  | v => .error (.showing v (.lineKind v))

/-- The metadata of a syntax node. -/
structure LocationMeta where
  /-- The line in the file being compiled. -/
  line : Value
  /-- The file that the node came from, if it came from another one. -/
  file : Value
  /-- The line in that file. -/
  fileLine : Value

namespace LocationMeta

/-- The metadata as a value. -/
def toValue (m : LocationMeta) : Value := .location m.line m.file m.fileLine

/-- The file that the node came from and the line there, if it came from another file. -/
def override? (m : LocationMeta) : Option (Value × Value) := Value.overriding? m.file m.fileLine

/-- A key and a value, from a value that is a sequence of two. -/
def splitPair (item : Value) : Outcome (Value × Value) :=
  match item.elements? with
  | none => .error (.notSplittable item.kindName)
  | some [key, value] => .ok (key, value)
  | some elements =>
    if elements.length < 2 then .error (.tooFewElements elements.length)
    else .error .tooManyElements

/-- The keys and values of a sequence of pairs. -/
def pairs : List Value → Outcome (List (Value × Value))
  | [] => .ok []
  | item :: rest =>
    match splitPair item with
    | .error failure => .error failure
    | .ok (key, value) =>
      match key.unhashable? with
      | some kind => .error (.notAKey kind)
      | none =>
        match pairs rest with
        | .error failure => .error failure
        | .ok more => .ok ((key, value) :: more)

/-- The value under a key that is a text: the first one counts, and a missing one is `none`. -/
def lookup (key : Text) : List (Value × Value) → Value
  | [] => .none
  | (k, v) :: rest =>
    match k with
    | .string t => if t = key then v else lookup key rest
    | _ => lookup key rest

/-- The first two elements of a sequence, given as a value of that kind. -/
def fileAndLine (sequence : Value) (elements : List Value) : Outcome (Value × Value) :=
  match elements with
  | file :: line :: _ => .ok (file, line)
  | _ => .error (.shortSequence sequence.kindName)

/-- The metadata that keys and values describe. The lines are checked before the file. -/
def ofPairs (entries : List (Value × Value)) : Outcome LocationMeta := do
  let line ← coerceLine (lookup (text "line") entries)
  let fileLine ← coerceLine (lookup (text "file_line") entries)
  let file := lookup (text "file") entries
  match file with
  | .tuple elements | .list elements =>
    let (file, line') ← fileAndLine file elements
    let fileLine ← coerceLine line'
    return ⟨.int line, file, .int fileLine⟩
  | file => return ⟨.int line, file, .int fileLine⟩

/-- The metadata that a value stands for, if there is any. -/
def ofValue (v : Value) : Outcome (Option LocationMeta) :=
  match v with
  | .none => .ok none
  | .location line file fileLine => .ok (some ⟨line, file, fileLine⟩)
  | .int n => do
    let line ← coerceLine (.int n)
    return some ⟨.int line, .none, .int 0⟩
  | .mapping entries => (ofPairs entries).map some
  | .list items | .tuple items => do
    let entries ← pairs items
    (ofPairs entries).map some
  | v => .error (.showing v (.metadataKind v))

end LocationMeta

/-- The file and line that a diagnostic reports: the file a node came from, or else the given file
    with the node's line. -/
def resolveLocation (metadata file : Value) : Outcome (Value × Value) := do
  match ← LocationMeta.ofValue metadata with
  | none => return (file, .int 0)
  | some m =>
    match m.override? with
    | some place => return place
    | none => return (file, m.line)

end Faultline
