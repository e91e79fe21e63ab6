import Faultline.Term.Lexer
import Faultline.Term.Segment

/-!
# Reading terms

The parser is a machine with a stack. Each token moves it from one state to the next or is refused,
and the state says what may follow: a term, the end of a term that is complete, or a part of a
binary. Open tuples and lists lie on the stack. A string is complete only when a token other than a
string follows, and a segment of a binary when a token follows that does not belong to it; what such
a segment stands for is settled at that token.

The text is a term when the machine accepts: a term, the terminator, the end of the text. Tokens
after that are not looked at.
-/

namespace Faultline.Term.Parser

/-! ## States -/

/-- A tuple or list that is still open, with its complete elements, last first. -/
inductive Frame where
  | tuple (done : List Term)
  | list (done : List Term)
  /-- A list after its bar. -/
  | tail (done : List Term)

/-- How far the segment of a binary has been read. -/
inductive SegmentPhase where
  /-- The binary was just opened. -/
  | opened
  /-- A segment has to begin. -/
  | begin
  /-- A sign was read. -/
  | signed (negative : Bool)
  /-- One or more strings were read. -/
  | chars (t : Text)
  /-- The value is complete. -/
  | value (s : Segment)
  /-- A size has to follow. -/
  | size (s : Segment)
  /-- The size is complete. -/
  | sized (s : Segment)
  /-- A type name has to follow. -/
  | type (s : Segment)
  /-- A type name is complete. -/
  | typed (s : Segment)

/-- How far a term has been read. -/
inductive Phase where
  /-- A term has to begin, or a tuple or list that was just opened ends. -/
  | begin
  /-- A sign was read. -/
  | signed (negative : Bool)
  /-- One or more strings were read. -/
  | chars (t : Text)
  /-- A binary is open; these are the bytes of its complete segments. -/
  | binary (bytes : List UInt8) (phase : SegmentPhase)
  /-- A term is complete. -/
  | value (v : Term)
  /-- The terminator was read. -/
  | terminated (v : Term)
  /-- The end of the text was read. -/
  | accepted (v : Term)

/-- A state of the machine. -/
structure State where
  stack : List Frame
  phase : Phase

/-- The state before the first token. -/
def State.start : State := ⟨[], .begin⟩

/-! ## Moves -/

/-- The list of the code points of a text. -/
def codeList (t : Text) : Term := .list (t.map fun c => .int c.val)

/-- An integer behind a sign. -/
def signedInt (negative : Bool) (n : Int) : Int := if negative then -n else n

/-- A floating-point number behind a sign. -/
def signedFloat (negative : Bool) (x : Binary64) : Binary64 := if negative then x.negate else x

/-- The move of a token that begins a term. -/
def beginTerm (stack : List Frame) : Token → Except Refusal State
  | .atom name => .ok ⟨stack, .value (.atom name)⟩
  | .integer n => .ok ⟨stack, .value (.int n)⟩
  | .char n => .ok ⟨stack, .value (.int n)⟩
  | .float x => .ok ⟨stack, .value (.float x)⟩
  | .minus => .ok ⟨stack, .signed true⟩
  | .plus => .ok ⟨stack, .signed false⟩
  | .string t => .ok ⟨stack, .chars t⟩
  | .braceOpen => .ok ⟨.tuple [] :: stack, .begin⟩
  | .bracketOpen => .ok ⟨.list [] :: stack, .begin⟩
  | .binaryOpen => .ok ⟨stack, .binary [] .opened⟩
  | .variableName name => .error (.malformed (.variableName name))
  | t => .error (.malformed (.token t))

/-- The move of a token where a term has to begin: an empty tuple or list may also end. -/
def beginOrClose (stack : List Frame) (t : Token) : Except Refusal State :=
  match stack, t with
  | .tuple [] :: rest, .braceClose => .ok ⟨rest, .value (.tuple [])⟩
  | .list [] :: rest, .bracketClose => .ok ⟨rest, .value (.list [])⟩
  | stack, t => beginTerm stack t

/-- The move of the token after a complete term. -/
def afterTerm (v : Term) : List Frame → Token → Except Refusal State
  | [], .dot => .ok ⟨[], .terminated v⟩
  | [], _ => .error (.malformed .noTerminator)
  | .tuple done :: rest, .comma => .ok ⟨.tuple (v :: done) :: rest, .begin⟩
  | .tuple done :: rest, .braceClose => .ok ⟨rest, .value (.tuple (v :: done).reverse)⟩
  | .tuple _ :: _, _ => .error (.malformed .openTuple)
  | .list done :: rest, .comma => .ok ⟨.list (v :: done) :: rest, .begin⟩
  | .list done :: rest, .bar => .ok ⟨.tail (v :: done) :: rest, .begin⟩
  | .list done :: rest, .bracketClose => .ok ⟨rest, .value (.list (v :: done).reverse)⟩
  | .list _ :: _, _ => .error (.malformed .openList)
  | .tail done :: rest, .bracketClose => .ok ⟨rest, .value (Term.withTail done.reverse v)⟩
  | .tail _ :: _, _ => .error (.malformed .openList)

/-- The move of the token after a sign. -/
def afterSign (stack : List Frame) (negative : Bool) : Token → Except Refusal State
  | .integer n => .ok ⟨stack, .value (.int (signedInt negative n))⟩
  | .char n => .ok ⟨stack, .value (.int (signedInt negative n))⟩
  | .float x => .ok ⟨stack, .value (.float (signedFloat negative x))⟩
  | _ => .error (.malformed .sign)

/-! ## Moves inside a binary -/

/-- The move of a token that begins a segment. -/
def beginSegment : Token → Except Refusal SegmentPhase
  | .string t => .ok (.chars t)
  | .minus => .ok (.signed true)
  | .plus => .ok (.signed false)
  | .integer n => .ok (.value (.ofValue (.integer n)))
  | .char n => .ok (.value (.ofValue (.integer n)))
  | t => .error (.malformed (.segment t))

/-- The move of the token after a sign in a segment. -/
def afterSegmentSign (negative : Bool) : Token → Except Refusal SegmentPhase
  | .integer n => .ok (.value (.ofValue (.integer (signedInt negative n))))
  | .char n => .ok (.value (.ofValue (.integer (signedInt negative n))))
  | .float x => .ok (.value (.ofValue (.float (signedFloat negative x))))
  | _ => .error (.malformed .sign)

/-- The move of the token after a complete segment. -/
def afterSegment (stack : List Frame) (bytes : List UInt8) (s : Segment) (t : Token) :
    Except Refusal State :=
  match s.bytes with
  | .error refusal => .error refusal
  | .ok more =>
    match t with
    | .comma => .ok ⟨stack, .binary (bytes ++ more) .begin⟩
    | .binaryClose => .ok ⟨stack, .value (.binary (binaryText (bytes ++ more)))⟩
    | _ => .error (.malformed .openBinary)

/-- The move of the token after the value of a segment. -/
def afterSegmentValue (stack : List Frame) (bytes : List UInt8) (s : Segment) :
    Token → Except Refusal State
  | .colon => .ok ⟨stack, .binary bytes (.size s)⟩
  | .slash => .ok ⟨stack, .binary bytes (.type s)⟩
  | t => afterSegment stack bytes s t

/-- The move of a token inside a binary. -/
def insideBinary (stack : List Frame) (bytes : List UInt8) :
    SegmentPhase → Token → Except Refusal State
  | .opened, .binaryClose => .ok ⟨stack, .value (.binary (binaryText bytes))⟩
  | .opened, t => (beginSegment t).map fun p => ⟨stack, .binary bytes p⟩
  | .begin, t => (beginSegment t).map fun p => ⟨stack, .binary bytes p⟩
  | .signed negative, t => (afterSegmentSign negative t).map fun p => ⟨stack, .binary bytes p⟩
  | .chars s, .string t => .ok ⟨stack, .binary bytes (.chars (s ++ t))⟩
  | .chars s, t => afterSegmentValue stack bytes (.ofValue (.chars s)) t
  | .value s, t => afterSegmentValue stack bytes s t
  | .size s, .integer n => .ok ⟨stack, .binary bytes (.sized { s with size := n })⟩
  | .size _, _ => .error (.malformed .segmentSize)
  | .sized s, .slash => .ok ⟨stack, .binary bytes (.type s)⟩
  | .sized s, t => afterSegment stack bytes s t
  | .type s, .atom name =>
    .ok ⟨stack, .binary bytes (.typed { s with types := s.types ++ [name] })⟩
  | .type _, _ => .error (.malformed .segmentType)
  | .typed s, .minus => .ok ⟨stack, .binary bytes (.type s)⟩
  | .typed s, t => afterSegment stack bytes s t

/-- The move of a token. -/
def step (s : State) (t : Token) : Except Refusal State :=
  match s.phase with
  | .begin => beginOrClose s.stack t
  | .signed negative => afterSign s.stack negative t
  | .chars cs =>
    match t with
    | .string more => .ok ⟨s.stack, .chars (cs ++ more)⟩
    | t => afterTerm (codeList cs) s.stack t
  | .binary bytes phase => insideBinary s.stack bytes phase t
  | .value v => afterTerm v s.stack t
  | .terminated v =>
    match t with
    | .eof => .ok ⟨s.stack, .accepted v⟩
    | _ => .error (.malformed .afterTerminator)
  | .accepted _ => .ok s

/-- Runs the machine over lexemes of a text. -/
def run (whole : Text) (s : State) : List Lexeme → Outcome Term
  | [] =>
    match s.phase with
    | .accepted v => .ok v
    | _ => .error .outOfTokens
  | l :: rest =>
    match step s l.token with
    | .ok next => run whole next rest
    | .error refusal => .error (refusal.failure whole l.column)

end Parser

/-- The term that lexemes of a text spell: a term, the terminator and the end of the text. -/
def parse (lexemes : List Lexeme) (whole : Text) : Outcome Term :=
  Parser.run whole Parser.State.start lexemes

/-- Lexemes with a terminator in front of the last one, at its column. -/
def withTerminator : List Lexeme → List Lexeme
  | [] => []
  | [last] => [⟨.dot, last.column⟩, last]
  | l :: next :: rest => l :: withTerminator (next :: rest)

/-- The term that a text spells. -/
def ofText (t : Text) : Outcome Term :=
  match tokenize t with
  | .error failure => .error failure
  | .ok lexemes => parse (withTerminator lexemes) t

end Faultline.Term
