import Faultline.Number.Decimal
import Faultline.Text.Quoted
import Faultline.Value.Kind

/-!
# Loosely typed values

Callers may hand in a value of any kind where a line, a file, a message or location metadata is
asked for; what is refused is shown in the error. `Value` holds these values. `display` shows a
value as it stands inside other values and in error messages, `plain` as it stands in running text:
a string without quote marks, anything else as `display` shows it. A value that holds an integer with
too many digits cannot be shown at all; `isTooLong` tells these.
-/

namespace Faultline

/-- A value of any kind that a caller may hand in. -/
inductive Value where
  | none
  | bool (b : Bool)
  | int (n : Int)
  | float (x : Binary64)
  /-- The floating-point value that is no number. -/
  | nan
  | string (t : Text)
  | bytes (data : List UInt8)
  | list (items : List Value)
  | tuple (items : List Value)
  /-- Keys with their values, in the order of the keys' first appearance. -/
  | mapping (entries : List (Value × Value))
  /-- Location metadata with unchecked fields. -/
  | location (line file fileLine : Value)
  /-- A kind of values. -/
  | kind (k : ValueKind)
  /-- A kind that is narrowed to what its values hold. -/
  | narrowed (k : ValueKind) (content : Value)
  /-- A field of the values of a kind. -/
  | field (k : ValueKind) (name : Text)
  /-- An operation of location metadata, with what it works on. -/
  | operation (name : Text) (subject : Value)

namespace Value

instance : Inhabited Value := ⟨.none⟩

/-! ## Texts of values -/

/-- The kind of a value. -/
def kindOf : Value → ValueKind
  | .none => .none
  | .bool _ => .bool
  | .int _ => .int
  | .float _ | .nan => .float
  | .string _ => .string
  | .bytes _ => .bytes
  | .list _ => .list
  | .tuple _ => .tuple
  | .mapping _ => .mapping
  | .location _ _ _ => .location
  | .kind _ => .kind
  | .narrowed _ _ => .narrowed
  | .field k _ => k.fieldKind
  | .operation _ _ => .operation

/-- The name of a value's kind, as error messages give it. -/
def kindName (v : Value) : Text := v.kindOf.label

mutual

/-- A value as it stands inside other values and in error messages. -/
def display : Value → Text
  | .none => text "None"
  | .bool b => if b then text "True" else text "False"
  | .int n => Numeral.ofInt n
  | .float x => x.display
  | .nan => text "nan"
  | .string t => Text.quoted t
  | .bytes data => Text.quotedBytes data
  | .list items => text "[" ++ Text.join (text ", ") (displayEach items) ++ text "]"
  | .tuple items =>
    text "(" ++ Text.join (text ", ") (displayEach items) ++
      (if items.length = 1 then text ",)" else text ")")
  | .mapping entries => text "\x7b" ++ Text.join (text ", ") (displayEntries entries) ++ text "\x7d"
  | .location line file fileLine =>
    text "LocationMeta(line=" ++ display line ++ text ", file=" ++ display file ++
      text ", file_line=" ++ display fileLine ++ text ")"
  | .kind k => k.display
  | .narrowed k content => k.name ++ text "[" ++ display content ++ text "]"
  | .field k name => k.displayField name
  | .operation name subject =>
    text "<bound method " ++ ValueKind.location.qualified name ++ text " of " ++ display subject ++
      text ">"
termination_by structural v => v

/-- The values of a list, each as `display` shows it. -/
def displayEach : List Value → List Text
  | [] => []
  | v :: rest => display v :: displayEach rest
termination_by structural vs => vs

/-- The entries of a mapping, each as its key and its value. -/
def displayEntries : List (Value × Value) → List Text
  | [] => []
  | (key, value) :: rest => (display key ++ text ": " ++ display value) :: displayEntries rest
termination_by structural entries => entries

end

/-- A value in running text. -/
def plain : Value → Text
  | .string t => t
  | v => v.display

mutual

/-- Whether an integer in a value has more digits than may be written. -/
def isTooLong : Value → Bool
  | .int n => Numeral.isTooLong n
  | .list items | .tuple items => isAnyTooLong items
  | .mapping entries => isAnyEntryTooLong entries
  | .location line file fileLine => isTooLong line || isTooLong file || isTooLong fileLine
  | .narrowed _ content => isTooLong content
  | .operation _ subject => isTooLong subject
  | .none | .bool _ | .float _ | .nan | .string _ | .bytes _ | .kind _ | .field _ _ => false
termination_by structural v => v

/-- Whether an integer in one of the values has more digits than may be written. -/
def isAnyTooLong : List Value → Bool
  | [] => false
  | v :: rest => isTooLong v || isAnyTooLong rest
termination_by structural vs => vs

/-- Whether an integer in one of the keys and values has more digits than may be written. -/
def isAnyEntryTooLong : List (Value × Value) → Bool
  | [] => false
  | (key, value) :: rest => isTooLong key || isTooLong value || isAnyEntryTooLong rest
termination_by structural entries => entries

end

/-! ## Equality -/

/-- An integer, or a truth value as zero or one. -/
def integer? : Value → Option Int
  | .int n => some n
  | .bool b => some (if b then 1 else 0)
  | _ => Option.none

mutual

/-- Whether two values are equal: numbers by value whatever their kind, truth values as zero and
    one, sequences of one kind element by element. What is no number equals nothing. -/
def equal : Value → Value → Bool
  | .none, .none => true
  | .bool b, w => (match w with
    | .float y => y.equalsInt (if b then 1 else 0)
    | w => w.integer? == some (if b then 1 else 0))
  | .int n, w => (match w with
    | .float y => y.equalsInt n
    | w => w.integer? == some n)
  | .float x, w => (match w with
    | .float y => x.equal y
    | w => match w.integer? with
      | some n => x.equalsInt n
      | Option.none => false)
  | .string s, .string t => s == t
  | .bytes s, .bytes t => s == t
  | .list xs, .list ys => equalEach xs ys
  | .tuple xs, .tuple ys => equalEach xs ys
  | .mapping xs, .mapping ys => xs.length == ys.length && entriesWithin xs ys
  | .location l f g, .location l' f' g' => equal l l' && equal f f' && equal g g'
  | .kind k, .kind l => k == l
  | _, _ => false
termination_by structural v => v

/-- Whether two lists have equal values in the same order. -/
def equalEach : List Value → List Value → Bool
  | [], [] => true
  | x :: xs, y :: ys => equal x y && equalEach xs ys
  | _, _ => false
termination_by structural vs => vs

/-- Whether every entry of the first mapping is an entry of the second. -/
def entriesWithin : List (Value × Value) → List (Value × Value) → Bool
  | [], _ => true
  | (key, value) :: rest, ys =>
    ys.any (fun entry => equal key entry.1 && equal value entry.2) && entriesWithin rest ys
termination_by structural entries => entries

end

/-- The file and the line of location metadata that come before the place of a node: there are none
    without a file. -/
def overriding? (file fileLine : Value) : Option (Value × Value) :=
  match file with
  | .none => Option.none
  | file => some (file, fileLine)

/-- Whether a value equals zero. -/
def isZero (v : Value) : Bool := v.equal (.int 0)

/-! ## Mappings -/

/-- Sets a key: an equal key keeps its place and takes the new value. -/
def setEntry (key value : Value) : List (Value × Value) → List (Value × Value)
  | [] => [(key, value)]
  | (k, v) :: rest =>
    if k.equal key then (k, value) :: rest else (k, v) :: setEntry key value rest

/-- The mapping that lists of keys and values set one after the other. -/
def ofEntries (entries : List (Value × Value)) : Value :=
  .mapping (entries.foldl (fun acc (key, value) => setEntry key value acc) [])

mutual

/-- The kind of the first part of a value that cannot be a key: lists and mappings cannot. -/
def unhashable? : Value → Option Text
  | .list _ => some ValueKind.list.name
  | .mapping _ => some ValueKind.mapping.name
  | .tuple items => unhashableAmong? items
  | .location line file fileLine =>
    (unhashable? line).or ((unhashable? file).or (unhashable? fileLine))
  | _ => Option.none
termination_by structural v => v

/-- The kind of the first part of the listed values that cannot be a key. -/
def unhashableAmong? : List Value → Option Text
  | [] => Option.none
  | v :: rest => (unhashable? v).or (unhashableAmong? rest)
termination_by structural vs => vs

end

/-- The values that a value yields one after the other, if it is a sequence or a mapping: a string
    yields its code points, bytes their numbers, a mapping its keys. -/
def elements? : Value → Option (List Value)
  | .list items => some items
  | .tuple items => some items
  | .string t => some (t.map fun c => .string [c])
  | .bytes data => some (data.map fun b => .int b.toNat)
  | .mapping entries => some (entries.map (·.1))
  | _ => Option.none

example : (tuple [.string (text "a")]).display = text "('a',)" := by decide +kernel
example : (bool true).equal (.int 1) = true := by decide +kernel

end Value

end Faultline
