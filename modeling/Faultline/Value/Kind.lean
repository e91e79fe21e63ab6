import Faultline.Text.CodePoint

/-!
# Kinds of values

Every value is of one kind, which error messages name and which a template can ask for. Kinds stand
below one another: a truth value is an integer, and everything is below `ValueKind.anything`.

Besides the kinds of what callers hand in there are the kinds of what a template can ask these for:
kinds themselves, their fields and their operations.
-/

namespace Faultline

/-- The kinds of values. -/
inductive ValueKind where
  | none
  | bool
  | int
  | float
  | string
  | bytes
  | list
  | tuple
  | mapping
  | location
  /-- The kind of the kinds themselves. -/
  | kind
  /-- Kinds that are narrowed to what their values hold. -/
  | narrowed
  /-- Fields that are worked out from a value. -/
  | derivedField
  /-- Fields that a value stores. -/
  | storedField
  /-- Operations of a value. -/
  | operation
  /-- The kind above all others. -/
  | anything
deriving DecidableEq

namespace ValueKind

/-- The name of a kind. -/
def name : ValueKind → Text
  | .none => text "NoneType"
  | .bool => text "bool"
  | .int => text "int"
  | .float => text "float"
  | .string => text "str"
  | .bytes => text "bytes"
  | .list => text "list"
  | .tuple => text "tuple"
  | .mapping => text "dict"
  | .location => text "LocationMeta"
  | .kind => text "type"
  | .narrowed => text "GenericAlias"
  | .derivedField => text "getset_descriptor"
  | .storedField => text "member_descriptor"
  | .operation => text "method"
  | .anything => text "object"

/-- Where a kind is at home, unless every program has it. -/
def home? : ValueKind → Option Text
  | .location => some (text "frontdiag.compiler.location")
  | .narrowed => some (text "types")
  | _ => Option.none

/-- The name of a kind behind its home. -/
def path (k : ValueKind) : Text :=
  match k.home? with
  | some home => home ++ text "." ++ k.name
  | Option.none => k.name

/-- The name of a kind, as error messages give it. -/
def label : ValueKind → Text
  | .narrowed => narrowed.path
  | k => k.name

/-- A kind in running text. -/
def display (k : ValueKind) : Text := text "<class '" ++ k.path ++ text "'>"

/-- The kind that stands right above a kind. -/
def above? : ValueKind → Option ValueKind
  | .anything => Option.none
  | .bool => some .int
  | _ => some .anything

/-- A kind and all kinds above it, the nearest first. -/
def lineage : ValueKind → List ValueKind
  | .anything => [.anything]
  | .bool => [.bool, .int, .anything]
  | k => [k, .anything]

/-! ## Parts of all values of a kind -/

/-- Whether a kind can be narrowed to what its values hold. -/
def narrows : ValueKind → Bool
  | .list | .tuple | .mapping | .kind => true
  | _ => false

/-- The fields that values have by being of a kind, those of the kinds above it left out. -/
def fields : ValueKind → List Text
  | .int => [text "real", text "imag", text "numerator", text "denominator"]
  | .float => [text "real", text "imag"]
  | .location => [text "line", text "file", text "file_line"]
  | _ => []

/-- The kind that gives values of a kind a field. -/
def fieldOwner? (k : ValueKind) (field : Text) : Option ValueKind :=
  k.lineage.find? fun above => above.fields.contains field

/-- The kind of a field of a kind: location metadata stores its fields. -/
def fieldKind : ValueKind → ValueKind
  | .location => .storedField
  | _ => .derivedField

/-- A field of a kind in running text. -/
def displayField (k : ValueKind) (field : Text) : Text :=
  (if k.fieldKind = .storedField then text "<member '" else text "<attribute '") ++ field ++
    text "' of '" ++ k.name ++ text "' objects>"

/-- An operation of a kind behind the name of the kind. -/
def qualified (k : ValueKind) (part : Text) : Text := k.name ++ text "." ++ part

end ValueKind

end Faultline
