import Faultline.Diagnostic
import Faultline.Template.Fault
import Faultline.Term.DecodeError
import Faultline.Text.Utf8

/-!
# Failures

Everything that can end an operation early, as one type of causes: a diagnostic that was raised, a
serialized term that cannot be decoded, a value of a kind that is not accepted, and the limits of
numbers, encodings and paths. `message` words a cause, `category` sorts it.
-/

namespace Faultline

/-- Why an operation ended without its result. -/
inductive Failure where
  /-- A diagnostic was raised as an error. -/
  | raised (error : DiagnosticError)
  /-- A serialized term could not be decoded. -/
  | decode (error : Term.DecodeError)
  /-- A decimal numeral has too many digits to be read. -/
  | longNumeral (digits : Nat)
  /-- An integer has too many digits to be written in decimal. -/
  | longInteger
  /-- The tokens end inside a term. -/
  | outOfTokens
  /-- A number is not the number of a code point. -/
  | notACodePoint
  /-- A number is too large for a machine word. -/
  | tooWide
  /-- A text holds surrogates and has no UTF-8 form. -/
  | unencodable (run : Utf8.SurrogateRun)
  /-- Bytes are not UTF-8. -/
  | undecodable (flaw : Utf8.Flaw)
  /-- A binary segment has a negative size. -/
  | negativeSize
  /-- The size of a segment is more than any integer has. -/
  | tooManyBits
  /-- The offending token of a fragment is not a text. -/
  | tokenKind (token : Value)
  /-- The lead of a fragment is neither a text nor a pair of texts. -/
  | leadKind (lead : Value)
  /-- A sequence of the first kind is joined with a value of the second. -/
  | notJoined (kind other : Text)
  /-- Bytes are joined with a value of this kind. -/
  | notJoinedToBytes (kind : Text)
  /-- No operator of this sign combines values of these kinds. -/
  | noOperator (sign left right : Text)
  /-- An integer is too large to be combined with a floating-point number. -/
  | integerTooLarge
  /-- The head of bytes is compared with a text. -/
  | bytesHead
  /-- A line is not an integer. -/
  | lineKind (line : Value)
  /-- A line is negative. -/
  | negativeLine (line : Int)
  /-- Location metadata has no accepted shape. -/
  | metadataKind (metadata : Value)
  /-- A value of this kind is no sequence and cannot be split into a key and a value. -/
  | notSplittable (kind : Text)
  /-- A sequence has too few elements for a key and a value. -/
  | tooFewElements (count : Nat)
  /-- A sequence has too many elements for a key and a value. -/
  | tooManyElements
  /-- A value of this kind cannot be a key. -/
  | notAKey (kind : Text)
  /-- A sequence of this kind has no element at the index that is read. -/
  | shortSequence (kind : Text)
  /-- A file is not a text. -/
  | fileKind (file : Value)
  /-- A message is not a text. -/
  | messageKind (message : Value)
  /-- What should be the kind of a diagnostic is not one. -/
  | kindKind (kind : Value)
  /-- A template could not be filled in. -/
  | template (fault : Template.Fault)
  /-- A message of this kind cannot be a template. -/
  | notATemplate (kind : Text)
  /-- A path is not a text. -/
  | pathKind (path : Value)
  /-- A text for the environment holds the code point zero. -/
  | zeroInVariable
  /-- The name of a variable of the environment holds an equals sign. -/
  | variableName
  /-- A variable of the environment has no name. -/
  | noVariableName
  /-- The value of a variable of the environment is of this kind. -/
  | variableKind (kind : Text)
  /-- There is no current directory. -/
  | noCurrentDirectory
  /-- A path that is not absolute has no address. -/
  | relativeAddress
  /-- A line lies outside the positions of an editor. -/
  | positionRange (line : Value)
  /-- What a message to an editor holds under a name is not a text. -/
  | editorField (name : Text) (value : Value)
  /-- A document is of this kind, which holds no text to look into. -/
  | documentKind (kind : Text)
  /-- A document is named by bytes, which are not looked into for text. -/
  | documentBytes
  /-- The client of an editor session is gone. -/
  | clientGone
  /-- A session no longer accepts reports. -/
  | sessionGone
  /-- A session of this kind lacks an operation. -/
  | noOperation (kind operation : Text)
  /-- There is no session or token of this name. -/
  | unknownName (name : Text)
  /-- A message formatter failed with a text. -/
  | formatter (text : Text)
  /-- A reset token was used before. -/
  | usedToken
  /-- A reset token was made in another context. -/
  | foreignToken

namespace Failure

/-- The failure of refusing a value with a message that shows it. A value that cannot be shown makes
    the message fail. -/
def showing (v : Value) (failure : Failure) : Failure :=
  if v.isTooLong then .longInteger else failure

theorem showing_of_short {v : Value} (h : v.isTooLong = false) (failure : Failure) :
    showing v failure = failure :=
  if_neg (Bool.not_eq_true _ ▸ h)

/-- The sorts of failures. -/
inductive Category where
  /-- A diagnostic of a kind was raised. -/
  | raised (kind : Kind)
  /-- A serialized term is malformed. -/
  | decode
  /-- A value is of a kind that is not accepted. -/
  | wrongKind
  /-- A value is of an accepted kind and out of its range. -/
  | wrongValue
  /-- A position lies outside a sequence. -/
  | index
  /-- A key is not in a mapping. -/
  | key
  /-- A number is too large. -/
  | overflow
  /-- A text cannot be encoded. -/
  | encoding
  /-- Bytes cannot be decoded. -/
  | decoding
  /-- A value lacks an attribute. -/
  | attribute
  /-- A file or directory does not exist. -/
  | missingFile
  /-- The system refused a request. -/
  | system
  /-- A collaborator failed or was misused. -/
  | collaborator
deriving DecidableEq

/-- The sort of a fault in a template. -/
def templateCategory : Template.Fault → Category
  | .noArgument _ | .indexRange _ => .index
  | .noName _ | .noKey _ => .key
  | .textIndex _ | .notIndexable _ | .kindNotIndexable _ | .narrowedAlready _ | .noLayout _ =>
    .wrongKind
  | .noAttribute _ _ | .noKindAttribute _ _ => .attribute
  | .characterRange | .characterWidth | .integerTooLarge => .overflow
  | _ => .wrongValue

/-- The sort of a failure. -/
def category : Failure → Category
  | .raised e => .raised e.kind
  | .decode _ => .decode
  | .outOfTokens | .shortSequence _ => .index
  | .tooWide | .tooManyBits | .integerTooLarge => .overflow
  | .unencodable _ => .encoding
  | .undecodable _ => .decoding
  | .longNumeral _ | .longInteger | .notACodePoint | .negativeSize | .negativeLine _
  | .tooFewElements _ | .tooManyElements | .zeroInVariable | .variableName | .relativeAddress
  | .positionRange _ | .foreignToken => .wrongValue
  | .tokenKind _ | .leadKind _ | .notJoined _ _ | .notJoinedToBytes _ | .noOperator _ _ _
  | .bytesHead | .lineKind _ | .metadataKind _ | .notSplittable _ | .notAKey _ | .fileKind _
  | .messageKind _ | .kindKind _ | .pathKind _ | .variableKind _ | .editorField _ _
  | .documentKind _ | .documentBytes => .wrongKind
  | .template fault => templateCategory fault
  | .notATemplate _ | .noOperation _ _ => .attribute
  | .unknownName _ => .key
  | .noCurrentDirectory => .missingFile
  | .noVariableName => .system
  | .clientGone | .sessionGone | .formatter _ | .usedToken => .collaborator

/-- The message about a run of surrogates. -/
def surrogateMessage (run : Utf8.SurrogateRun) : Text :=
  let characters :=
    if run.length = 1 then
      text " '" ++ Text.byNumber run.first ++ text "' in position " ++ Numeral.ofNat run.start
    else
      text "s in position " ++ Numeral.ofNat run.start ++ text "-" ++
        Numeral.ofNat (run.start + run.length - 1)
  text "'utf-8' codec can't encode character" ++ characters ++ text ": surrogates not allowed"

/-- The message about bytes that are not UTF-8. -/
def flawMessage (flaw : Utf8.Flaw) : Text :=
  let bytes := match flaw.bytes with
    | [b] =>
      text " 0x" ++ Numeral.padded 16 2 b.toNat ++ text " in position " ++
        Numeral.ofNat flaw.position
    | many =>
      text "s in position " ++ Numeral.ofNat flaw.position ++ text "-" ++
        Numeral.ofNat (flaw.position + many.length - 1)
  let reason := match flaw.kind with
    | .start => text "invalid start byte"
    | .continuation => text "invalid continuation byte"
    | .truncated => text "unexpected end of data"
  text "'utf-8' codec can't decode byte" ++ bytes ++ text ": " ++ reason

/-- The message about a field of a message to an editor that is not a text. It tells how the field
    is declared. -/
def fieldMessage (name : Text) (v : Value) : Text :=
  let expected := ValueKind.string.display
  let complaint := text "'" ++ name ++ text "' must be " ++ expected ++ text " (got " ++
    v.display ++ text " that is a " ++ v.kindOf.display ++ text ")."
  text "(" ++ Text.quoted complaint ++ text ", Attribute(name='" ++ name ++
    text "', default=NOTHING, validator=<instance_of validator for type " ++ expected ++
    text ">, repr=True, eq=True, eq_key=None, order=True, order_key=None, hash=None, init=True, " ++
    text "metadata=mappingproxy(\x7b\x7d), type=" ++ expected ++
    text ", converter=None, kw_only=False, inherited=False, on_setattr=None, alias='" ++ name ++
    text "'), " ++ expected ++ text ", " ++ v.display ++ text ")"

/-- The message of a failure. -/
def message : Failure → Text
  | .raised e => e.text
  | .decode e => e.display
  | .longNumeral digits =>
    Numeral.limitMessage (text ": value has " ++ Numeral.ofNat digits ++ text " digits")
  | .longInteger => Numeral.limitMessage []
  | .outOfTokens => text "list index out of range"
  | .notACodePoint => text "chr() arg not in range(0x110000)"
  | .tooWide => text "Python int too large to convert to C int"
  | .unencodable run => surrogateMessage run
  | .undecodable flaw => flawMessage flaw
  | .negativeSize => text "negative shift count"
  | .tooManyBits => text "too many digits in integer"
  | .tokenKind v => text "token must be a string, got " ++ v.display
  | .leadKind v => text "prefix must be a string or a (prefix, suffix) pair, got " ++ v.display
  | .notJoined kind other =>
    text "can only concatenate " ++ kind ++ text " (not \"" ++ other ++ text "\") to " ++ kind
  | .notJoinedToBytes kind => text "can't concat " ++ kind ++ text " to bytes"
  | .noOperator sign left right =>
    text "unsupported operand type(s) for " ++ sign ++ text ": '" ++ left ++ text "' and '" ++
      right ++ text "'"
  | .integerTooLarge => Template.Fault.message .integerTooLarge
  | .bytesHead => text "startswith first arg must be bytes or a tuple of bytes, not str"
  | .lineKind v => text "line must be a non-negative integer or None, got " ++ v.display
  | .negativeLine n => text "line must be non-negative, got " ++ Numeral.ofInt n
  | .metadataKind v => text "unsupported location metadata: " ++ v.display
  | .notSplittable kind => text "cannot unpack non-iterable " ++ kind ++ text " object"
  | .tooFewElements count =>
    text "not enough values to unpack (expected 2, got " ++ Numeral.ofNat count ++ text ")"
  | .tooManyElements => text "too many values to unpack (expected 2)"
  | .notAKey kind => text "unhashable type: '" ++ kind ++ text "'"
  | .shortSequence kind => kind ++ text " index out of range"
  | .fileKind v => text "file must be a string, got " ++ v.display
  | .messageKind v => text "message must be a string, got " ++ v.display
  | .kindKind v => text "kind must be a DiagnosticKind, got " ++ v.display
  | .template fault => fault.message
  | .notATemplate kind => text "'" ++ kind ++ text "' object has no attribute 'format'"
  | .pathKind (.bytes _) =>
    text "argument should be a str object or an os.PathLike object returning str, not " ++
      ValueKind.bytes.display
  | .pathKind v => text "expected str, bytes or os.PathLike object, not " ++ v.kindName
  | .zeroInVariable => text "embedded null byte"
  | .variableName => text "illegal environment variable name"
  | .noVariableName => text "[Errno 22] Invalid argument"
  | .variableKind kind => text "str expected, not " ++ kind
  | .noCurrentDirectory => text "[Errno 2] No such file or directory"
  | .relativeAddress => text "relative path can't be expressed as a file URI"
  | .positionRange line =>
    text "Position.line should be in range [0:2147483647], but was " ++ line.plain ++ text "."
  | .editorField name v => fieldMessage name v
  | .documentKind kind => text "argument of type '" ++ kind ++ text "' is not iterable"
  | .documentBytes => text "a bytes-like object is required, not 'str'"
  | .clientGone => text "client is gone"
  | .sessionGone => text "session is gone"
  | .noOperation kind operation =>
    text "'" ++ kind ++ text "' object has no attribute '" ++ operation ++ text "'"
  | .unknownName name => Text.quoted name
  | .formatter t => t
  | .usedToken => []
  | .foreignToken => []

end Failure

/-- The outcome of an operation that can fail. -/
abbrev Outcome (α : Type) := Except Failure α

namespace Outcome

variable {α β : Type} {x : Outcome α} {f : α → Outcome β}

theorem bind_eq_ok_iff {b : β} : x >>= f = .ok b ↔ ∃ a, x = .ok a ∧ f a = .ok b := by
  cases x with
  | ok a =>
    constructor
    · intro h
      exact ⟨a, rfl, h⟩
    · rintro ⟨_, ⟨⟩, h⟩
      exact h
  | error failure =>
    constructor
    · intro h
      cases h
    · rintro ⟨_, ⟨⟩, -⟩

theorem bind_eq_error_iff {failure : Failure} :
    x >>= f = .error failure ↔ x = .error failure ∨ ∃ a, x = .ok a ∧ f a = .error failure := by
  cases x with
  | ok a =>
    constructor
    · intro h
      exact .inr ⟨a, rfl, h⟩
    · rintro (h | ⟨_, ⟨⟩, h⟩)
      · cases h
      · exact h
  | error failure' =>
    constructor
    · intro h
      exact .inl (congrArg Except.error (Except.error.inj h))
    · rintro (h | ⟨_, h, -⟩)
      · exact congrArg Except.error (Except.error.inj h)
      · cases h

end Outcome

end Faultline
