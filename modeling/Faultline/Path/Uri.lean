import Faultline.Failure
import Faultline.Path.Basic

/-!
# Document addresses

The address of a file is `file://` and the bytes of its absolute path, with every byte escaped by
`%` and two hex digits except letters, digits and the marks `_ . - ~ /`. A file that is an address
already, which the text `://` tells, is left as it is. Values that are no text have no address.
-/

namespace Faultline.Uri

/-- Whether a byte stands for itself in an address. -/
def isPlain (b : UInt8) : Bool :=
  (0x30 ≤ b && b ≤ 0x39) || (0x41 ≤ b && b ≤ 0x5A) || (0x61 ≤ b && b ≤ 0x7A) ||
    [0x5F, 0x2E, 0x2D, 0x7E, 0x2F].contains b

/-- A hex digit, a capital from ten on. -/
def hexDigit (n : Nat) : CodePoint :=
  CodePoint.asciiOfMod (if n < 10 then 0x30 + n else 0x37 + n)

/-- A byte in an address. -/
def escapeByte (b : UInt8) : Text :=
  if isPlain b then [CodePoint.ofByte b]
  else text "%" ++ [hexDigit (b.toNat / 16), hexDigit (b.toNat % 16)]

/-- Bytes in an address. -/
def escape (bytes : List UInt8) : Text := bytes.flatMap escapeByte

/-- The text that tells an address. -/
def mark : Text := text "://"

/-- Whether a text is an address already. -/
def isAddress : Text → Bool
  | [] => false
  | c :: rest => mark.isPrefixOf (c :: rest) || isAddress rest

/-- The address of a path, which has to be absolute. -/
def ofPath (p : FilePath) : Outcome Text :=
  if p.isAbsolute then
    match Utf8.encodeLoose p.toText with
    | .ok bytes => .ok (text "file://" ++ escape bytes)
    | .error run => .error (.unencodable run)
  else .error .relativeAddress

/-- The address of a file seen from a directory. -/
def ofFile (directory : Option Text) (file : Text) : Outcome Text :=
  if isAddress file then .ok file
  else
    let path := FilePath.ofText file
    if path.isAbsolute then ofPath path
    else
      match directory with
      | none => .error .noCurrentDirectory
      | some d => ofPath ((FilePath.ofText d).within path)

/-- What an address is called in a message to an editor. -/
def fieldName : Text := text "uri"

/-- The failure of taking a sequence or a mapping for a file. If the text that tells an address is
    among its elements it is taken for an address, but not accepted as one. -/
def sequenceFailure (file : Value) (elements : List Value) : Failure :=
  if elements.any fun v => v.equal (.string mark) then
    match file.unhashable? with
    | some kind => .notAKey kind
    | none => .showing file (.editorField fieldName file)
  else .pathKind file

/-- The address of a file given as a value. -/
def ofValue (directory : Option Text) (file : Value) : Outcome Text :=
  match file with
  | .string t => ofFile directory t
  | .bytes _ => .error .documentBytes
  | file =>
    match file.elements? with
    | some elements => .error (sequenceFailure file elements)
    | none => .error (.documentKind file.kindName)

end Faultline.Uri
