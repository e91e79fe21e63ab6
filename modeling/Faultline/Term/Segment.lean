import Faultline.Failure
import Faultline.Term.Malformed

/-!
# Segments of binaries

A binary is written as segments: a text or a number, with an optional size in bits and optional type
names. `Segment.bytes` gives the bytes a segment stands for, and `binaryText` reads the bytes of a
whole binary as UTF-8, or as Latin-1 if they are not UTF-8.

A number takes its size in two's complement, most significant byte first; a Unicode type makes it a
code point instead. A text gives the low byte of each code point, or UTF-8 with a Unicode type; its
size plays no part.
-/

namespace Faultline.Term

/-- Why a token or a segment is refused. -/
inductive Refusal where
  /-- The text is malformed. -/
  | malformed (cause : Malformed)
  /-- Something else went wrong. -/
  | other (failure : Failure)

/-- A refusal as a failure, given the text and the column of the token at which it arose. -/
def Refusal.failure (whole : Text) (column : Int) : Refusal → Failure
  | .malformed cause =>
    if cause.isTooLong then .longInteger else .decode ⟨cause.message, whole, some column⟩
  | .other failure => failure

/-- What stands at the head of a segment. -/
inductive SegmentValue where
  | chars (t : Text)
  | integer (n : Int)
  | float (x : Binary64)
deriving DecidableEq

/-- A segment of a binary. -/
structure Segment where
  value : SegmentValue
  /-- The size in bits. -/
  size : Int
  /-- The type names. -/
  types : List Text
deriving DecidableEq

/-- A segment without a written size has eight bits. -/
def Segment.ofValue (value : SegmentValue) : Segment := ⟨value, 8, []⟩

/-- The types that ask for the encoding of code points. -/
def unicodeTypes : List Text := [text "utf8", text "utf16", text "utf32"]

/-- Whether a segment encodes code points. -/
def Segment.isUnicode (s : Segment) : Bool := s.types.any fun t => unicodeTypes.contains t

/-- The last bytes of an integer in two's complement, most significant first, in front of others. -/
def bigEndianOnto : Nat → Int → List UInt8 → List UInt8
  | 0, _, acc => acc
  | width + 1, n, acc => bigEndianOnto width (n / 256) (UInt8.ofNat (n % 256).toNat :: acc)

/-- An integer in a number of bytes, in two's complement and most significant first. -/
def bigEndian (width : Nat) (n : Int) : List UInt8 := bigEndianOnto width n []

/-- The UTF-8 bytes of a text. -/
def utf8Bytes (t : Text) : Except Refusal (List UInt8) :=
  match Utf8.encode t with
  | .ok bytes => .ok bytes
  | .error run => .error (.other (.unencodable run))

/-- The UTF-8 bytes of the code point with a number. -/
def codePointBytes (n : Int) : Except Refusal (List UInt8) :=
  match n with
  | .ofNat k =>
    match CodePoint.ofNat? k with
    | some c => utf8Bytes [c]
    | none => .error (.malformed (.codePoint n))
  | .negSucc _ => .error (.malformed (.codePoint n))

/-- The greatest number of bits of an integer. -/
def bitLimit : Nat := 30 * (Nat.pow 2 61 - 8)

/-- The bytes of an integer in a number of bits. -/
def sizedBytes (size n : Int) : Except Refusal (List UInt8) :=
  if size % 8 ≠ 0 then .error (.malformed (.partialByte size))
  else if size < 0 then .error (.other .negativeSize)
  else if bitLimit < size then .error (.other .tooManyBits)
  else .ok (bigEndian (size / 8).toNat n)

/-- The bytes that a segment stands for. -/
def Segment.bytes (s : Segment) : Except Refusal (List UInt8) :=
  match s.value with
  | .chars t => if s.isUnicode then utf8Bytes t else .ok (Latin1.lowBytes t)
  | .float _ => .error (.malformed .floatSegment)
  | .integer n => if s.isUnicode then codePointBytes n else sizedBytes s.size n

/-- The text of a binary, given its bytes. -/
def binaryText (bytes : List UInt8) : Text :=
  match Utf8.decode bytes with
  | .ok t => t
  | .error _ => Latin1.decode bytes

example : bigEndian 2 (-2) = [0xFF, 0xFE] := by decide

end Faultline.Term
