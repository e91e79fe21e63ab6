import Faultline.CommandLine.Misuse
import Faultline.Text.Numeric

/-!
# Arguments

Each argument is taken for a switch or for plain text before anything is read. Behind the separator
`--` everything is plain. Before it, an argument is plain if it does not begin with a hyphen, if it
is a lone hyphen or a negative number, or if it holds a space and begins no switch. A switch may be
abbreviated as long as one name of its scope begins with it, and a value may be attached to it
behind an equals sign. What stands behind a short name is letters, with an equals sign or without
one.
-/

namespace Faultline.CommandLine

/-- What is attached to a switch in the same argument. -/
inductive Attached where
  | nothing
  /-- A value behind a long name and an equals sign. -/
  | value (t : Text)
  /-- Letters behind a short name. -/
  | letters (t : Text)
deriving DecidableEq

/-- What an argument is taken for. -/
inductive Role where
  | plain
  | separator
  | switch (s : Switch) (attached : Attached)
  /-- A switch that its scope does not have. -/
  | unknown
deriving DecidableEq

/-- An argument and what it is taken for. -/
structure Argument where
  text : Text
  role : Role

namespace Argument

/-- The argument that ends the switches. -/
def separatorText : Text := Faultline.text "--"

/-- A text up to its first equals sign, and what is behind it if there is one. -/
def splitAtEquals (t : Text) : Text × Option Text :=
  let head := t.takeWhile fun (c : CodePoint) => decide (c ≠ '=')
  match t.drop head.length with
  | [] => (head, none)
  | _ :: rest => (head, some rest)

/-- What an equals sign attaches to a name. -/
def attachedTo (name t : Text) : Attached :=
  if Text.startsWith name separatorText then .value t else .letters t

/-- Whether a code point is a decimal digit of any script. -/
def isDecimalDigit (c : CodePoint) : Bool := (Text.decimalValue? c).isSome

/-- A text without the line break at its end. -/
def withoutFinalBreak (t : Text) : Text :=
  if t.getLast? = some (CodePoint.ofChar '\n') then t.dropLast else t

/-- Whether a text is the magnitude of a number: digits, or digits behind a point that may follow
    other digits. -/
def isMagnitude (t : Text) : Bool :=
  match t.dropWhile isDecimalDigit with
  | [] => !t.isEmpty
  | c :: fraction => decide (c = '.') && !fraction.isEmpty && fraction.all isDecimalDigit

/-- Whether a text is a negative number, which may end with a line break. -/
def isNegativeNumber : Text → Bool
  | [] => false
  | c :: rest => decide (c = '-') && isMagnitude (withoutFinalBreak rest)

/-- The switches that an argument may stand for, each with its name and what is attached to it. -/
def candidates (scope : Scope) (t : Text) : List (Text × Switch × Attached) :=
  if Text.startsWith t separatorText then
    let (head, value) := splitAtEquals t
    (scope.namedSwitches.filter fun entry => Text.startsWith entry.1 head).map fun (n, s) =>
      (n, s, value.elim .nothing (attachedTo n))
  else
    (scope.namedSwitches.filter fun entry => entry.1 == t.take 2).map fun (n, s) =>
      (n, s, .letters (t.drop 2))

/-- What an argument that no name of a switch begins is taken for. -/
def roleOfOther (t : Text) : Role :=
  if isNegativeNumber t then .plain
  else if t.contains (CodePoint.ofChar ' ') then .plain
  else .unknown

/-- What an argument that begins with a hyphen is taken for, before the separator. -/
def roleOfHyphenated (scope : Scope) (t : Text) : Except Fault Role :=
  let (head, value) := splitAtEquals t
  let named := value.bind fun v => (scope.switch? head).map fun s => (s, attachedTo head v)
  match scope.switch? t, t, named with
  | some s, _, _ => .ok (.switch s .nothing)
  | none, [_], _ => .ok .plain
  | none, _, some (s, attached) => .ok (.switch s attached)
  | none, _, none =>
    match candidates scope t with
    | [] => .ok (roleOfOther t)
    | [(_, s, attached)] => .ok (.switch s attached)
    | many => .error (.ambiguous t (many.map (·.1)))

/-- What an argument is taken for, before the separator. -/
def roleOf (scope : Scope) (t : Text) : Except Fault Role :=
  match t with
  | [] => .ok .plain
  | c :: _ => if c = '-' then roleOfHyphenated scope t else .ok .plain

/-- The arguments of a scope with what each is taken for, or the first that is ambiguous. -/
def ofTexts (scope : Scope) : List Text → Except Fault (List Argument)
  | [] => .ok []
  | t :: rest =>
    if t = separatorText then .ok (⟨t, .separator⟩ :: rest.map fun t => ⟨t, .plain⟩)
    else do
      let role ← roleOf scope t
      let arguments ← ofTexts scope rest
      return ⟨t, role⟩ :: arguments

example : isNegativeNumber (Faultline.text "-.5") = true := by decide +kernel
example : isNegativeNumber (Faultline.text "-1.") = false := by decide +kernel

end Argument

end Faultline.CommandLine
