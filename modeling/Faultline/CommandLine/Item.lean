import Faultline.CommandLine.Argument
import Faultline.Value

/-!
# Items of a command line

The arguments of a scope as a list of items: switches with their values, the operand, and arguments
that nothing accounts for. The list ends early where a switch and its value do not fit, and at the
command, to which everything behind it belongs.

The separator counts for nothing as the value of a switch: a switch to which it is attached is given
the empty list.

The first plain argument is the operand of a scope that expects one. The separator beside an operand
belongs to it.
-/

namespace Faultline.CommandLine

/-- An item of a command line. -/
inductive Item where
  /-- A switch and what it is given: `none` if it takes no value. -/
  | switch (s : Switch) (value : Value)
  /-- The operand, or a command and everything behind it. -/
  | operand (arguments : List Text)
  /-- An argument that nothing accounts for. -/
  | extra (argument : Text)
  | fault (f : Fault)

namespace Item

/-- What is left over of the letters behind a short name. The name may be repeated there, and
    letters that are announced by an equals sign have to be there. -/
def leftOver? (letters : Text) : Option Text :=
  match letters, letters.dropWhile fun (c : CodePoint) => decide (c = 'h') with
  | [], _ => some []
  | _ :: _, [] => none
  | _ :: _, rest => some rest

/-- What is attached in vain to a switch that takes no value. -/
def unwanted? : Attached → Option Text
  | .nothing => none
  | .value t => some t
  | .letters t => leftOver? t

/-- The value that is attached to a switch that takes one. -/
def wanted? : Attached → Option Text
  | .nothing => none
  | .value t => some t
  | .letters t => some t

/-- What a switch is given by a text. -/
def given (t : Text) : Value := if t = Argument.separatorText then .list [] else .string t

/-- The items of arguments, given what operand is expected. -/
def ofArguments (expected : Operand) (arguments : List Argument) : List Item :=
  match arguments with
  | [] => []
  | ⟨t, .unknown⟩ :: rest => .extra t :: ofArguments expected rest
  | ⟨_, .switch s attached⟩ :: rest =>
    if s.takesValue then
      match wanted? attached with
      | some v => .switch s (given v) :: ofArguments expected rest
      | none =>
        match rest with
        | ⟨v, .plain⟩ :: after => .switch s (given v) :: ofArguments expected after
        | _ => [.fault (.noValue s)]
    else
      match unwanted? attached with
      | some v => [.fault (.extraValue s v)]
      | none => .switch s .none :: ofArguments expected rest
  | ⟨t, .plain⟩ :: rest =>
    match expected with
    | .nothing => .extra t :: ofArguments .nothing rest
    | .command => [.operand (t :: rest.map (·.text))]
    | .single =>
      match rest with
      | [] => [.operand [t]]
      | ⟨_, .separator⟩ :: after => .operand [t] :: ofArguments .nothing after
      | next :: after => .operand [t] :: ofArguments .nothing (next :: after)
  | ⟨t, .separator⟩ :: rest =>
    match expected with
    | .nothing => .extra t :: ofArguments .nothing rest
    | .command => if rest.isEmpty then [.extra t] else [.operand (t :: rest.map (·.text))]
    | .single =>
      match rest with
      | [] => [.extra t]
      | next :: after => .operand [next.text] :: ofArguments .nothing after
termination_by arguments.length

/-- The items of the arguments of a scope. -/
def ofTexts (scope : Scope) (arguments : List Text) : Except Misuse (List Item) :=
  match Argument.ofTexts scope arguments with
  | .ok as => .ok (ofArguments scope.operand as)
  | .error f => .error ⟨scope, f⟩

example : leftOver? (text "hx") = some (text "x") := by decide +kernel
example : leftOver? (text "hh") = none := by decide +kernel

end Item

end Faultline.CommandLine
