import Faultline.Term.Parser

/-!
# Structured tokens

Three kinds of offending tokens arrive as serialized terms instead of plain text: a sigil, a tuple
of six elements that begins with `sigil`; an alias, a list of one atom; and a list that wraps the
content of a binary.
-/

namespace Faultline

/-- A decoded structured token. -/
inductive Structured where
  /-- A sigil: its letter and the first part of its content if that is text. -/
  | sigil (letter content : Text)
  /-- The name of an alias. -/
  | identifier (name : Text)
  /-- Any other list, proper or not. -/
  | list (term : Term)

namespace Structured

/-- How the text of a sigil begins. -/
def sigilMarker : Text := text "\x7bsigil,"

/-- How the text of an alias begins. -/
def aliasMarker : Text := text "['"

/-- How the text of a list begins. -/
def listMarker : Text := text "["

/-- A refusal of the shape of a term, without a column. -/
def refuse (cause : Term.Malformed) (whole : Text) : Failure :=
  if cause.isTooLong then .longInteger else .decode ⟨cause.message, whole, none⟩

/-- The letter of a sigil: a text, or the code point with a number. Numbers that do not fit a
    machine word of 32 bits are told apart from numbers that are no code points. -/
def letter (t : Term) (whole : Text) : Outcome Text :=
  match t with
  | .int (.ofNat n) =>
    if Nat.pow 2 31 ≤ n then .error .tooWide
    else match CodePoint.ofNat? n with
      | some c => .ok [c]
      | none => .error .notACodePoint
  | .int (.negSucc n) => if Nat.pow 2 31 ≤ n then .error .tooWide else .error .notACodePoint
  | t => match t.textOf? with
    | some s => .ok s
    | none => .error (refuse (.sigilLetter t) whole)

/-- The text of a term that is the text of a binary, else the empty text. -/
def textOrEmpty : Term → Text
  | .binary t => t
  | _ => []

/-- The sigil that a term stands for. -/
def sigilOfTerm (t : Term) (whole : Text) : Outcome Structured :=
  match t with
  | .tuple [marker, _, char, parts, _, _] =>
    if marker.textOf? = some (text "sigil") then
      match parts.listElements? with
      | some (first :: _) =>
        match letter char whole with
        | .ok l => .ok (.sigil l (textOrEmpty first))
        | .error failure => .error failure
      | _ => .error (refuse .sigilContent whole)
    else .error (refuse .sigilShape whole)
  | _ => .error (refuse .sigilShape whole)

/-- The name in a list of one atom. -/
def aliasName? : Term → Option Text
  | .list [.atom name] => some name
  | _ => none

/-- Reads the text of a sigil. -/
def readSigil (whole : Text) : Outcome Structured :=
  match Term.ofText whole with
  | .ok t => sigilOfTerm t whole
  | .error failure => .error failure

/-- Reads the text of an alias. -/
def readAlias (whole : Text) : Outcome Text :=
  match Term.ofText whole with
  | .ok t =>
    match aliasName? t with
    | some name => .ok name
    | none => .error (refuse .aliasShape whole)
  | .error failure => .error failure

/-- Reads the text of a list. -/
def readList (whole : Text) : Outcome Term :=
  match Term.ofText whole with
  | .ok t => if t.listElements?.isSome then .ok t else .error (refuse .listShape whole)
  | .error failure => .error failure

/-- Whether a term is a tuple that begins with the sigil marker. -/
def isSigilTuple : Term → Bool
  | .tuple (marker :: _) => marker.textOf? == some (text "sigil")
  | _ => false

/-- Reads the text of a structured token by the shape of its term. A list of one atom is an alias
    only if the text begins like one. -/
def read (whole : Text) : Outcome Structured :=
  match Term.ofText whole with
  | .error failure => .error failure
  | .ok t =>
    if isSigilTuple t then sigilOfTerm t whole
    else if t.listElements?.isSome then
      match aliasName? t with
      | some name =>
        if (Text.trimStart whole).startsWith aliasMarker then .ok (.identifier name)
        else .ok (.list t)
      | none => .ok (.list t)
    else .error (refuse .shape whole)

/-- A structured token as messages show it. -/
def display : Structured → Text
  | .sigil letter content =>
    text "Sigil(char=" ++ Text.quoted letter ++ text ", content=" ++ Text.quoted content ++ text ")"
  | .identifier name => text "Identifier(name=" ++ Text.quoted name ++ text ")"
  | .list t => t.display

/-- Whether the display would hold an integer that is too long to be written in decimal. -/
def isTooLong : Structured → Bool
  | .list t => t.isTooLong
  | _ => false

/-- The display of a structured token, unless an integer in it is too long. -/
def describe (s : Structured) : Outcome Text :=
  if s.isTooLong then .error .longInteger else .ok s.display

end Structured

/-- The display of a term, unless an integer in it is too long. -/
def Term.describe (t : Term) : Outcome Text :=
  if t.isTooLong then .error .longInteger else .ok t.display

/-- The display of a lexeme, unless an integer in it is too long. -/
def Term.Lexeme.describe (l : Term.Lexeme) : Outcome Text :=
  if l.token.isTooLong then .error .longInteger else .ok l.display

end Faultline
