import Faultline.Fragment.Rule
import Faultline.Value.Sum

/-!
# Rules on unchecked fragments

Every rule can be asked on its own whether it matches a lead and a token, and these may be values of
any kind. For a fragment the rules answer as `Fragment.rules` and `Rule.diagnose` say. For other
values only the rules are left that need no text: the one for the end of the input, the one that
goes around the token, and the one that goes in front of it. A lead that is a text cannot be asked
together with a token that is not, because rules look at the head of the token.
-/

namespace Faultline

namespace Rule

/-- The failure of looking at the head of a value that is no text. -/
def noHead (token : Value) : Failure :=
  match token with
  | .bytes _ => .bytesHead
  | other => .noOperation other.kindName (text "startswith")

/-- The diagnostic of a rule whose message need not be a text. -/
def diagnoseAs (r : Rule) (line file : Value) : Outcome Value → Outcome Diagnostic
  | .ok message => .ok ⟨r.kind, message, file, line⟩
  | .error failure => .error failure

/-- The rules that match values which are no fragment, with their messages. The lead is not a text,
    or else the token is. -/
def uncheckedMessages (lead token : Value) : List (Rule × Outcome Value) :=
  let atEnd := if token.equal (.string []) then [(Rule.missingToken, .ok lead)] else []
  let aroundToken := match Lead.ofValue? lead with
    | some (.around front _) => [(Rule.around, Value.plus (.string front) token)]
    | _ => []
  atEnd ++ aroundToken ++ [(Rule.inFront, lead.plus token)]

end Rule

/-- The rules that match a lead and a token of any kind, each with the diagnostic that it gives. -/
def matchingRules (line file lead token : Value) : Outcome (List (Rule × Outcome Diagnostic)) :=
  match Fragment.ofValues lead token with
  | .ok f => .ok (f.rules.map fun r => (r, r.diagnose line file f))
  | .error _ =>
    match lead with
    | .string _ => .error (Rule.noHead token)
    | lead =>
      .ok ((Rule.uncheckedMessages lead token).map fun (r, message) =>
        (r, r.diagnoseAs line file message))

end Faultline
