import Faultline.Template.Fault
import Faultline.Value.Manual

/-!
# Parts of values

A field of a template may go on from a value to a part of it. A part is asked for by its name
(`member`), an element of a sequence or a mapping by its number or its text (`elementAt`,
`elementNamed`).

Every value has its kind and the manual's text about the kind as parts. A kind has its name, its
home, the kinds above it and the fields of its values as parts, and can be narrowed to what its
values hold.
-/

namespace Faultline.Template

/-! ## Parts by name -/

/-- A text that may be missing. -/
def writtenOrNone (t : Option Text) : Value := t.elim .none .string

/-- Kinds as values. -/
def kindTuple (ks : List ValueKind) : Value := .tuple (ks.map .kind)

/-- A part of an integer by its name, as it is a complex and a rational number as well. -/
def integerPart? (n : Int) (name : Text) : Option Value :=
  if name = text "real" ∨ name = text "numerator" then some (.int n)
  else if name = text "imag" then some (.int 0)
  else if name = text "denominator" then some (.int 1)
  else none

/-- What the fields of location metadata are declared to hold. -/
def declarations : List (Value × Value) :=
  [(.string (text "line"), .string (text "int")),
    (.string (text "file"), .string (text "Optional[str]")),
    (.string (text "file_line"), .string (text "int"))]

/-- A part by its name that location metadata has in common with its kind. -/
def metadataPart? (name : Text) : Option Value :=
  if name = text "__slots__" ∨ name = text "__match_args__" then
    some (.tuple (ValueKind.location.fields.map .string))
  else if name = text "__annotations__" then some (.mapping declarations)
  else if name = text "__module__" then ValueKind.location.home?.map .string
  else if name = text "from_keywords" then some (.operation name (.kind .location))
  else none

/-- The operations that work on location metadata alone. -/
def metadataOperations : List Text :=
  [text "__init__", text "__repr__", text "__eq__", text "__hash__", text "__setattr__",
    text "__delattr__"]

/-- A part of location metadata by its name. -/
def locationPart? (line file fileLine : Value) (name : Text) : Option Value :=
  if name = text "line" then some line
  else if name = text "file" then some file
  else if name = text "file_line" then some fileLine
  else if name = text "override" then
    some ((Value.overriding? file fileLine).elim .none fun (f, l) => .tuple [f, l])
  else if metadataOperations.contains name then
    some (.operation name (.location line file fileLine))
  else metadataPart? name

/-- A part by its name that the values of a kind have in common with the kind. -/
def commonPart? (k : ValueKind) (name : Text) : Option Value :=
  match k with
  | .location => metadataPart? name
  | .list | .mapping => if name = text "__hash__" then some .none else none
  | _ => none

/-- What the manual says about a kind, as a value. Kinds of fields have their manual as a field. -/
def kindManual (k : ValueKind) : Value :=
  match k with
  | .derivedField | .storedField => .field k (text "__doc__")
  | k => writtenOrNone k.manual?

/-- A part of a kind by its name. -/
def kindPart? (k : ValueKind) (name : Text) : Option Value :=
  if name = text "__name__" ∨ name = text "__qualname__" then some (.string k.name)
  else if name = text "__module__" then some (.string (k.home?.getD (text "builtins")))
  else if name = text "__mro__" then some (kindTuple k.lineage)
  else if name = text "__bases__" then some (kindTuple k.above?.toList)
  else if name = text "__base__" then some (k.above?.elim .none .kind)
  else if name = text "__doc__" then some (kindManual k)
  else if name = text "__text_signature__" then some (writtenOrNone k.signature?)
  else (commonPart? k name).or ((k.fieldOwner? name).map fun owner => .field owner name)

/-- A part of a narrowed kind by its name: what is not about the narrowing is a part of the kind. -/
def narrowedPart? (k : ValueKind) (content : Value) (name : Text) : Option Value :=
  if name = text "__origin__" then some (.kind k)
  else if name = text "__args__" then some (.tuple [content])
  else if name = text "__parameters__" then some (.tuple [])
  else if name = text "__unpacked__" then some (.bool false)
  else if name = text "__typing_unpacked_tuple_args__" then some .none
  else kindPart? k name

/-- A part of a field of a kind by its name. -/
def fieldPart? (k : ValueKind) (field name : Text) : Option Value :=
  if name = text "__name__" then some (.string field)
  else if name = text "__qualname__" then some (.string (k.qualified field))
  else if name = text "__objclass__" then some (.kind k)
  else if name = text "__doc__" then some (writtenOrNone (k.fieldManual? field))
  else none

/-- What an operation of location metadata is declared to take and to give. -/
def operationDeclarations (operation : Text) : List (Value × Value) :=
  if operation = text "from_keywords" then
    [(.string (text "meta"), .string (text "Union[Mapping[str, Any], list, tuple]")),
      (.string (text "return"), .string (text "LocationMeta"))]
  else if operation = text "__init__" then declarations ++ [(.string (text "return"), .none)]
  else []

/-- The values that an operation of location metadata takes where it is given none. -/
def operationDefaults (operation : Text) : Value :=
  if operation = text "__init__" then .tuple [.int 0, .none, .int 0] else .none

/-- A part of an operation of location metadata by its name. -/
def operationPart? (operation : Text) (subject : Value) (name : Text) : Option Value :=
  if name = text "__name__" then some (.string operation)
  else if name = text "__qualname__" then
    some (.string (ValueKind.location.qualified operation))
  else if name = text "__self__" then some subject
  else if name = text "__module__" then ValueKind.location.home?.map .string
  else if name = text "__doc__" then some (writtenOrNone (ValueKind.operationManual? operation))
  else if name = text "__annotations__" then some (.mapping (operationDeclarations operation))
  else if name = text "__defaults__" then some (operationDefaults operation)
  else if name = text "__kwdefaults__" then some .none
  else none

/-- A part of a value by its name, its kind and the manual's text about that left out. -/
def ownPart? (v : Value) (name : Text) : Option Value :=
  match v with
  | .location line file fileLine => locationPart? line file fileLine name
  | .int n => integerPart? n name
  | .bool b => integerPart? (if b then 1 else 0) name
  | .float _ | .nan =>
    if name = text "real" then some v
    else if name = text "imag" then some (.float (Binary64.ofInt 0))
    else none
  | .kind k => kindPart? k name
  | .narrowed k content => narrowedPart? k content name
  | .field k field => fieldPart? k field name
  | .operation operation subject => operationPart? operation subject name
  | v => commonPart? v.kindOf name

/-- A part of a value by its name. -/
def part? (v : Value) (name : Text) : Option Value :=
  if name = text "__class__" then some (.kind v.kindOf)
  else
    (ownPart? v name).or
      (if name = text "__doc__" then some (writtenOrNone v.kindOf.manual?) else none)

/-- The fault of asking a value for a part that it does not have. A narrowed kind answers for the
    kind, an operation for the function behind it. -/
def noPart (v : Value) (name : Text) : Fault :=
  match v with
  | .kind k | .narrowed k _ => .noKindAttribute k.label name
  | .operation _ _ => .noAttribute (text "function") name
  | v => .noAttribute v.kindName name

/-- The part of a value that a field name goes on to. -/
def member (v : Value) (name : Text) : Except Fault Value :=
  match part? v name with
  | some w => .ok w
  | none => .error (noPart v name)

/-! ## Elements -/

/-- A kind narrowed to what its values hold. -/
def narrow (k : ValueKind) (content : Value) : Except Fault Value :=
  if k.narrows then .ok (.narrowed k content) else .error (.kindNotIndexable k.label)

/-- The value of a mapping under a key. -/
def entryAt (entries : List (Value × Value)) (key : Value) : Except Fault Value :=
  match entries.find? fun entry => entry.1.equal key with
  | some entry => .ok entry.2
  | none => .error (.noKey key)

/-- The fault of looking for an element in a value that has none. -/
def noElements (v : Value) : Fault :=
  match v with
  | .narrowed _ _ => .narrowedAlready v
  | v => .notIndexable v.kindName

/-- The element of a sequence at an index, or the value of a mapping under a number. -/
def elementAt (v : Value) (index : Nat) : Except Fault Value :=
  match v with
  | .mapping entries => entryAt entries (.int index)
  | .kind k => narrow k (.int index)
  | v =>
    match v.elements? with
    | none => .error (noElements v)
    | some elements =>
      match elements[index]? with
      | some element => .ok element
      | none => .error (.indexRange v.kindName)

/-- The value of a mapping under a text. -/
def elementNamed (v : Value) (name : Text) : Except Fault Value :=
  match v with
  | .mapping entries => entryAt entries (.string name)
  | .kind k => narrow k (.string name)
  | v => if v.elements?.isSome then .error (.textIndex v.kindName)
    else .error (noElements v)

end Faultline.Template
