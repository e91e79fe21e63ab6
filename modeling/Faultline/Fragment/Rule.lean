import Faultline.Fragment.Basic
import Faultline.Term.Structured

/-!
# Rules for fragments

The table of rules turns a fragment into a message. The rules are tried in the order of `Rule.all`,
and the first that matches decides the kind and the message; the last one matches every fragment, so
`Fragment.rule` always finds one.

The rule for aliases stands in front of the rule for wrapped lists, because the text of an alias
begins like a list.
-/

namespace Faultline

/-- The rules, in the order in which they are tried. -/
inductive Rule where
  /-- The input ended after an ordinary syntax error. -/
  | incompleteExpression
  /-- The input ended. -/
  | missingToken
  /-- The line ended. -/
  | endOfLine
  /-- An `end` closes nothing. -/
  | danglingEnd
  /-- The token is a serialized sigil. -/
  | sigil
  /-- The token is a serialized alias. -/
  | quotedAlias
  /-- The token is a serialized list. -/
  | wrappedList
  /-- The lead goes around the token. -/
  | around
  /-- The lead goes in front of the token. -/
  | inFront
deriving DecidableEq

namespace Rule

/-- All rules, in the order in which they are tried. -/
def all : List Rule :=
  [.incompleteExpression, .missingToken, .endOfLine, .danglingEnd, .sigil, .quotedAlias,
    .wrappedList, .around, .inFront]

/-- The name of a rule. -/
def name : Rule → Text
  | .incompleteExpression => text "incomplete-expression"
  | .missingToken => text "missing-token"
  | .endOfLine => text "end-of-line"
  | .danglingEnd => text "dangling-end"
  | .sigil => text "sigil"
  | .quotedAlias => text "alias"
  | .wrappedList => text "list-wrapped"
  | .around => text "prefix-suffix"
  | .inFront => text "concatenate"

/-- The kind of the diagnostics of a rule. -/
def kind : Rule → Kind
  | .incompleteExpression | .missingToken => .missingToken
  | _ => .malformed

/-- Whether a rule matches a fragment. -/
def applies (r : Rule) (f : Fragment) : Bool :=
  match r with
  | .incompleteExpression => f.token.isEmpty && f.lead.isSyntaxError
  | .missingToken => f.token.isEmpty
  | .endOfLine => f.lead.isSyntaxError && f.token == text "eol"
  | .danglingEnd => f.lead.isSyntaxError && f.token == text "'end'"
  | .sigil => f.lead.isSyntaxError && Text.startsWith f.token Structured.sigilMarker
  | .quotedAlias => f.lead.before?.isSome && Text.startsWith f.token Structured.aliasMarker
  | .wrappedList => f.lead.before?.isSome && Text.startsWith f.token Structured.listMarker
  | .around => f.lead.around?.isSome
  | .inFront => true

/-! ## Messages -/

/-- The message about an expression that is not complete. -/
def incompleteMessage : Text := text "syntax error: expression is incomplete"

/-- The message about a line that ended too early. -/
def endOfLineMessage : Text :=
  text "unexpectedly reached end of line. The current expression is invalid or incomplete"

/-- The message about an `end` that closes nothing. -/
def danglingEndMessage : Text := text "unexpected token: end"

/-- The message about a sigil. -/
def sigilMessage (token : Text) : Outcome Text :=
  match Structured.readSigil token with
  | .ok (.sigil letter content) =>
    .ok (text "syntax error before: sigil ~" ++ letter ++ text " starting with content '" ++
      content ++ text "'")
  | .ok _ => .error (Structured.refuse .sigilShape token)
  | .error failure => .error failure

/-- The message about an alias: its name behind the words in front. -/
def aliasMessage (front token : Text) : Outcome Text :=
  match Structured.readAlias token with
  | .ok name => .ok (front ++ name)
  | .error failure => .error failure

/-- The message about a list: its first element between double quotes if that is text, else a single
    double quote. -/
def listMessage (front token : Text) : Outcome Text :=
  match Structured.readList token with
  | .ok t =>
    match t.listElements? with
    | some (.binary content :: _) => .ok (front ++ text "\"" ++ content ++ text "\"")
    | _ => .ok (front ++ text "\"")
  | .error failure => .error failure

/-- The failure of putting a pair of words in front of a token. -/
def pairWithText : Failure := .notJoined ValueKind.tuple.name ValueKind.string.name

/-- The message of a rule for a fragment that it matches. A pair of words cannot stand in front of a
    token. -/
def message (r : Rule) (f : Fragment) : Outcome Text :=
  match r with
  | .incompleteExpression => .ok incompleteMessage
  | .missingToken => .ok f.lead.words
  | .endOfLine => .ok endOfLineMessage
  | .danglingEnd => .ok danglingEndMessage
  | .sigil => sigilMessage f.token
  | .quotedAlias =>
    match f.lead with
    | .before front => aliasMessage front f.token
    | .around _ _ => .error pairWithText
  | .wrappedList =>
    match f.lead with
    | .before front => listMessage front f.token
    | .around _ _ => .error pairWithText
  | .around =>
    match f.lead with
    | .before front => .ok (front ++ f.token)
    | .around front back => .ok (front ++ f.token ++ back)
  | .inFront =>
    match f.lead with
    | .before front => .ok (front ++ f.token)
    | .around _ _ => .error pairWithText

/-- The diagnostic of a rule for a fragment at a place. -/
def diagnose (r : Rule) (line file : Value) (f : Fragment) : Outcome Diagnostic :=
  match r.message f with
  | .ok message => .ok ⟨r.kind, .string message, file, line⟩
  | .error failure => .error failure

end Rule

namespace Fragment

/-- The first rule that matches a fragment. -/
def rule (f : Fragment) : Rule := (Rule.all.find? fun r => r.applies f).getD .inFront

/-- The rules that match a fragment. -/
def rules (f : Fragment) : List Rule := Rule.all.filter fun r => r.applies f

/-- The rule that is found matches. -/
theorem applies_rule (f : Fragment) : f.rule.applies f = true := by
  unfold rule
  cases h : Rule.all.find? fun r => r.applies f with
  | none => rfl
  | some r => simpa using List.find?_some h

end Fragment

/-- The diagnostic of a fragment at a place, given as values. The place is not checked. -/
def normalize (line file lead token : Value) : Outcome Diagnostic :=
  match Fragment.ofValues lead token with
  | .ok f => f.rule.diagnose line file f
  | .error failure => .error failure

end Faultline
