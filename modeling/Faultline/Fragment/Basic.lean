import Faultline.Failure

/-!
# Fragments

A parser reports a failure as a fragment: a lead, which is the beginning of the message or a pair of
texts that go around the offending token, and the text of the token, which is empty when the input
ended.
-/

namespace Faultline

/-- The words that go with an offending token. -/
inductive Lead where
  /-- The words in front of the token. -/
  | before (t : Text)
  /-- The words on either side of the token. -/
  | around (front back : Text)
deriving DecidableEq

/-- A failure as the parser reports it. -/
structure Fragment where
  lead : Lead
  /-- The text at which the parser failed. -/
  token : Text
deriving DecidableEq

namespace Lead

/-- The words in front of the token at an ordinary syntax error. -/
def syntaxErrorBefore : Text := text "syntax error before: "

/-- The words of a lead without a token. -/
def words : Lead → Text
  | .before t => t
  | .around front back => front ++ back

/-- The words in front of the token, if that is all there is. -/
def before? : Lead → Option Text
  | .before t => some t
  | .around _ _ => none

/-- The words on either side of the token, if the lead is a pair. -/
def around? : Lead → Option (Text × Text)
  | .before _ => none
  | .around front back => some (front, back)

/-- Whether a lead is the one of an ordinary syntax error. -/
def isSyntaxError (l : Lead) : Bool := l == .before syntaxErrorBefore

/-- The lead that a value stands for: a text or a pair of texts. -/
def ofValue? : Value → Option Lead
  | .string t => some (.before t)
  | .tuple [.string front, .string back] => some (.around front back)
  | _ => none

/-- A lead as a value. -/
def toValue : Lead → Value
  | .before t => .string t
  | .around front back => .tuple [.string front, .string back]

@[simp] theorem ofValue?_toValue (l : Lead) : ofValue? l.toValue = some l := by
  cases l <;> rfl

end Lead

/-- The fragment that two values stand for. The token is checked before the lead. -/
def Fragment.ofValues (lead token : Value) : Outcome Fragment :=
  match token with
  | .string t =>
    match Lead.ofValue? lead with
    | some l => .ok ⟨l, t⟩
    | none => .error (.showing lead (.leadKind lead))
  | other => .error (.showing other (.tokenKind other))

end Faultline
