import Faultline.Template.Layout
import Faultline.Template.Part

/-!
# Message templates

A template is text with fields in braces; a doubled brace stands for itself. A field names an
argument by number, or takes the next one if it has no number, may go on to a part of it, and may
ask for a conversion and a layout. A layout may hold fields of its own.

`pieces` splits a template and `fill` fills it in. A fault in the text of a template shows only when
everything in front of it could be filled in.
-/

namespace Faultline.Template

/-! ## The text of a template -/

/-- A field of a template. -/
structure Field where
  /-- What the field names: an argument and the way to an element of it. -/
  name : Text
  /-- The letter of the conversion. -/
  conversion : Option CodePoint
  /-- The spelling of the layout. -/
  layout : Text

/-- A piece of a template. -/
inductive Piece where
  | literal (c : CodePoint)
  | field (f : Field)
  /-- From here on the template is malformed. -/
  | fault (fault : Fault)

/-- The name of a field at the head of a text. Inside brackets every code point belongs to it. -/
def fieldName (inBrackets : Bool) : Text → Except Fault Text
  | [] => .error .unclosedField
  | c :: rest =>
    if inBrackets then (fieldName (decide (c ≠ ']')) rest).map (c :: ·)
    else if c = '{' then .error .braceInName
    else if c = '}' ∨ c = ':' ∨ c = '!' then .ok []
    else (fieldName (decide (c = '[')) rest).map (c :: ·)

/-- The layout of a field up to its closing brace, with `nested` braces open inside it. -/
def fieldLayout (nested : Nat) : Text → Except Fault Text
  | [] => .error .unclosedLayout
  | c :: rest =>
    if c = '{' then (fieldLayout (nested + 1) rest).map (c :: ·)
    else if c = '}' then
      match nested with
      | 0 => .ok []
      | n + 1 => (fieldLayout n rest).map (c :: ·)
    else (fieldLayout nested rest).map (c :: ·)

/-- The field at the head of a text behind its opening brace, and how many code points it spans up
    to and with its closing brace. -/
def field (t : Text) : Except Fault (Field × Nat) := do
  let name ← fieldName false t
  match t.drop name.length with
  | [] => throw .unclosedField
  | c :: rest =>
    if c = '}' then return (⟨name, none, []⟩, name.length + 1)
    else if c = ':' then
      let layout ← fieldLayout 0 rest
      return (⟨name, none, layout⟩, name.length + 1 + layout.length + 1)
    else
      match rest with
      | [] => throw .missingConversion
      | [_] => throw .unclosedLayout
      | conversion :: d :: rest =>
        if d = '}' then return (⟨name, some conversion, []⟩, name.length + 3)
        else if d = ':' then
          let layout ← fieldLayout 0 rest
          return (⟨name, some conversion, layout⟩, name.length + 3 + layout.length + 1)
        else throw .afterConversion

/-- The pieces of a template, up to the first place where it is malformed. -/
def pieces (t : Text) : List Piece :=
  match t with
  | [] => []
  | c :: rest =>
    if c = '{' then
      match rest with
      | [] => [.fault .loneOpen]
      | d :: after =>
        if d = '{' then .literal c :: pieces after
        else
          match field (d :: after) with
          | .error fault => [.fault fault]
          | .ok (f, span) => .field f :: pieces ((d :: after).drop span)
    else if c = '}' then
      match rest with
      | [] => [.fault .loneClose]
      | d :: after => if d = '}' then .literal c :: pieces after else [.fault .loneClose]
    else .literal c :: pieces rest
termination_by t.length
decreasing_by all_goals (simp only [List.length_drop, List.length_cons]; omega)

/-! ## Arguments -/

/-- How the fields so far were numbered, and the number of the next one without a number. -/
structure Count where
  numbering : Option Numbering
  next : Nat

/-- The number that a whole text spells, if it is one. -/
def wholeNumber (t : Text) : Except Fault (Option Nat) :=
  match leadingNumber t with
  | .error fault => .error fault
  | .ok (n, rest) => .ok (if rest.isEmpty then n else none)

/-- Whether a code point begins a step from a value to an element of it. -/
def beginsStep (c : CodePoint) : Bool := decide (c = '.' ∨ c = '[')

/-- The value that steps lead to. -/
def follow (v : Value) (steps : Text) : Except Fault Value :=
  match steps with
  | [] => .ok v
  | c :: rest =>
    if c = '.' then
      let name := rest.takeWhile fun c => !beginsStep c
      if name.isEmpty then .error .emptyStep
      else
        match member v name with
        | .error fault => .error fault
        | .ok w => follow w (rest.drop name.length)
    else if c = '[' then
      let name := rest.takeWhile fun (c : CodePoint) => decide (c ≠ ']')
      if name.length = rest.length then .error .unclosedIndex
      else
        match wholeNumber name with
        | .error fault => .error fault
        | .ok index =>
          if name.isEmpty then .error .emptyStep
          else
            match index.elim (elementNamed v name) (elementAt v) with
            | .error fault => .error fault
            | .ok w => follow w (rest.drop (name.length + 1))
    else .error .afterIndex
termination_by steps.length
decreasing_by all_goals (simp only [List.length_drop, List.length_cons]; omega)

/-- The state after a field whose argument has a number or none at all. -/
def Count.use (count : Count) (numbering : Numbering) : Except Fault Count :=
  match count.numbering with
  | none => .ok { count with numbering := some numbering }
  | some inUse => if inUse = numbering then .ok count else .error (.mixedNumbering inUse)

/-- The value that a field names. -/
def lookup (arguments : List Value) (name : Text) (count : Count) :
    Except Fault (Value × Count) := do
  let first := name.takeWhile fun c => !beginsStep c
  let number ← wholeNumber first
  let argument (index : Nat) : Except Fault Value :=
    match arguments[index]? with
    | some v => .ok v
    | none => .error (.noArgument index)
  let (v, count) ←
    if first.isEmpty then do
      let count ← count.use .automatic
      let v ← argument count.next
      pure (v, { count with next := count.next + 1 })
    else
      match number with
      | some index => do
        let count ← count.use .manual
        let v ← argument index
        pure (v, count)
      | none => throw (.noName first)
  let v ← follow v (name.drop first.length)
  return (v, count)

/-- A value after a conversion. The code point zero asks for none. -/
def convert (v : Value) : Option CodePoint → Except Fault Value
  | none => .ok v
  | some c =>
    if c.val = 0 then .ok v
    else if c = 'r' then (showing v v.display).map .string
    else if c = 's' then (showing v v.plain).map .string
    else if c = 'a' then (showing v (Text.asciiOnly v.display)).map .string
    else .error (.conversion c)

/-! ## Filling in -/

/-- Fills in a template whose layouts may hold fields to a depth. -/
def fillTo (depth : Nat) (arguments : List Value) (t : Text) (count : Count) :
    Except Fault (Text × Count) :=
  match depth with
  | 0 => .error .tooDeep
  | depth + 1 =>
    (pieces t).foldlM (fun (done, count) piece =>
      match piece with
      | .literal c => .ok (done ++ [c], count)
      | .fault fault => .error fault
      | .field f => do
        let (v, count) ← lookup arguments f.name count
        let v ← convert v f.conversion
        let (layout, count) ←
          if f.layout.contains (CodePoint.ofChar '{') then fillTo depth arguments f.layout count
          else pure (f.layout, count)
        let written ← Layout.write v layout
        return (done ++ written, count)) ([], count)

/-- Fills in a template with arguments. -/
def fill (t : Text) (arguments : List Value) : Except Fault Text :=
  (fillTo 2 arguments t ⟨none, 0⟩).map (·.1)

end Faultline.Template
