import Faultline.Text.CodePoint

/-!
# UTF-8 and Latin-1

`encode` writes a text as UTF-8 bytes; a surrogate has no UTF-8 form, and the first run of
surrogates is reported. `encodeLoose` lets the surrogates from `0xDC80` to `0xDCFF` stand for the
bytes from `0x80` to `0xFF`, as they do in the names of files. `decode` reads UTF-8 bytes back: the
bytes that may follow a first byte are the ranges `following` lists, which leave out overlong forms,
surrogates and numbers past `0x10FFFF`; the first sequence outside them is reported with the bytes
it spans.

`Latin1.decode` reads any bytes, one code point a byte.
-/

namespace Faultline

namespace Utf8

/-! ## Writing -/

/-- A run of surrogates in a text: the index it starts at, its first code point and its length. -/
structure SurrogateRun where
  start : Nat
  first : CodePoint
  length : Nat
deriving DecidableEq

/-- The surrogates of a text from the first code point that is not accepted up to the end of their
    run. -/
def runAfter? (isAccepted : CodePoint → Bool) (t : Text) : Option SurrogateRun :=
  match t.dropWhile isAccepted with
  | [] => none
  | c :: rest =>
    some {
      start := (t.takeWhile isAccepted).length
      first := c
      length := ((c :: rest).takeWhile (fun c => decide c.IsSurrogate)).length }

/-- The first run of surrogates in a text. -/
def surrogateRun? (t : Text) : Option SurrogateRun := runAfter? (fun c => decide c.IsScalar) t

/-- Whether a code point is a surrogate that stands for a byte. -/
def isByteMark (c : CodePoint) : Bool := 0xDC80 ≤ c.val && c.val ≤ 0xDCFF

/-- The first surrogate of a text that stands for no byte, and those that follow it. -/
def strayRun? (t : Text) : Option SurrogateRun :=
  runAfter? (fun c => decide c.IsScalar || isByteMark c) t

/-- A continuation byte: six payload bits under the mark `10`. -/
def continuation (n : Nat) : UInt8 := UInt8.ofNat (0x80 + n % 0x40)

/-- The one to four bytes of a code point. -/
def encodeOne (c : CodePoint) : List UInt8 :=
  let n := c.val
  if n < 0x80 then [UInt8.ofNat n]
  else if n < 0x800 then [UInt8.ofNat (0xC0 + n / 0x40), continuation n]
  else if n < 0x10000 then
    [UInt8.ofNat (0xE0 + n / 0x1000), continuation (n / 0x40), continuation n]
  else
    [UInt8.ofNat (0xF0 + n / 0x40000), continuation (n / 0x1000), continuation (n / 0x40),
      continuation n]

/-- The UTF-8 bytes of a text without surrogates. -/
def encode (t : Text) : Except SurrogateRun (List UInt8) :=
  match surrogateRun? t with
  | some run => .error run
  | none => .ok (t.flatMap encodeOne)

/-- The bytes of a text whose surrogates stand for bytes. -/
def encodeLoose (t : Text) : Except SurrogateRun (List UInt8) :=
  match strayRun? t with
  | some run => .error run
  | none => .ok (t.flatMap fun c => if isByteMark c then [UInt8.ofNat c.val] else encodeOne c)

/-! ## Reading -/

/-- What is wrong with a sequence of bytes. -/
inductive FlawKind where
  /-- The byte begins no sequence. -/
  | start
  /-- A byte that had to continue the sequence does not. -/
  | continuation
  /-- The bytes end inside the sequence. -/
  | truncated
deriving DecidableEq

/-- A flaw in UTF-8 bytes: where it starts, the bytes it spans and its kind. -/
structure Flaw where
  position : Nat
  bytes : List UInt8
  kind : FlawKind
deriving DecidableEq

/-- The ranges of the bytes that have to follow a first byte, or `none` if it begins no sequence. -/
def following (b : UInt8) : Option (List (UInt8 × UInt8)) :=
  if b < 0x80 then some []
  else if b < 0xC2 then none
  else if b < 0xE0 then some [(0x80, 0xBF)]
  else if b = 0xE0 then some [(0xA0, 0xBF), (0x80, 0xBF)]
  else if b = 0xED then some [(0x80, 0x9F), (0x80, 0xBF)]
  else if b < 0xF0 then some [(0x80, 0xBF), (0x80, 0xBF)]
  else if b = 0xF0 then some [(0x90, 0xBF), (0x80, 0xBF), (0x80, 0xBF)]
  else if b < 0xF4 then some [(0x80, 0xBF), (0x80, 0xBF), (0x80, 0xBF)]
  else if b = 0xF4 then some [(0x80, 0x8F), (0x80, 0xBF), (0x80, 0xBF)]
  else none

/-- How many of the ranges the bytes fill in order, and what stopped them: `none` if they fill
    all. -/
def fill : List (UInt8 × UInt8) → List UInt8 → Nat × Option FlawKind
  | [], _ => (0, none)
  | _ :: _, [] => (0, some .truncated)
  | (low, high) :: ranges, b :: rest =>
    if low ≤ b && b ≤ high then
      let (filled, flaw) := fill ranges rest
      (filled + 1, flaw)
    else (0, some .continuation)

/-- The payload bits of a first byte that is followed by a number of others. -/
def leadBits (b : UInt8) : Nat → Nat
  | 0 => b.toNat
  | 1 => b.toNat % 0x20
  | 2 => b.toNat % 0x10
  | _ => b.toNat % 0x08

/-- The number that the payload bits of a sequence spell. -/
def sequenceNumber (b : UInt8) (more : List UInt8) : Nat :=
  more.foldl (fun n x => n * 0x40 + x.toNat % 0x40) (leadBits b more.length)

/-- Reads UTF-8 bytes that start at a position of a longer sequence of bytes. -/
def decodeFrom (position : Nat) (bytes : List UInt8) : Except Flaw Text :=
  match bytes with
  | [] => .ok []
  | b :: rest =>
    match following b with
    | none => .error ⟨position, [b], .start⟩
    | some ranges =>
      match fill ranges rest with
      | (filled, some kind) => .error ⟨position, b :: rest.take filled, kind⟩
      | (filled, none) =>
        match decodeFrom (position + 1 + filled) (rest.drop filled) with
        | .error flaw => .error flaw
        | .ok t => .ok (CodePoint.wrap (sequenceNumber b (rest.take filled)) :: t)
termination_by bytes.length
decreasing_by simp only [List.length_drop, List.length_cons]; omega

/-- The text that UTF-8 bytes spell. -/
def decode (bytes : List UInt8) : Except Flaw Text := decodeFrom 0 bytes

example : encode (text "aé日😀") =
    .ok [0x61, 0xC3, 0xA9, 0xE6, 0x97, 0xA5, 0xF0, 0x9F, 0x98, 0x80] := rfl
example : encodeLoose [CodePoint.wrap 0xDCFF] = .ok [0xFF] := rfl

end Utf8

namespace Latin1

/-- The text whose code points are the bytes. -/
def decode (bytes : List UInt8) : Text := bytes.map CodePoint.ofByte

/-- The low byte of each code point. -/
def lowBytes (t : Text) : List UInt8 := t.map fun c => UInt8.ofNat c.val

/-- Reading any bytes and taking the low bytes gives the bytes back. -/
theorem lowBytes_decode (bytes : List UInt8) : lowBytes (decode bytes) = bytes := by
  simp [lowBytes, decode, CodePoint.ofByte, Function.comp_def]

end Latin1

end Faultline
