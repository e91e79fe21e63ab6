/-!
# Code points and texts

A text is a list of code points. Every number below `0x110000` is a code point here, the surrogates
`0xD800` to `0xDFFF` included: an escape such as `\x{d800}` names one, although no character has
that number. `IsScalar` tells the code points that are characters.
-/

namespace Faultline

/-- A code point of the universal character set, surrogates included. -/
structure CodePoint where
  /-- The number of the code point. -/
  val : Nat
  /-- Numbers end at `0x10FFFF`. -/
  val_lt : val < 0x110000
deriving DecidableEq

/-- A text: code points in reading order. -/
abbrev Text := List CodePoint

namespace CodePoint

/-- The code point of a character. -/
def ofChar (c : Char) : CodePoint :=
  ⟨c.val.toNat, by
    have h := c.valid
    unfold UInt32.isValidChar Nat.isValidChar at h
    omega⟩

instance : Coe Char CodePoint := ⟨ofChar⟩

instance : Inhabited CodePoint := ⟨ofChar 'A'⟩

/-- The code point with a given number, if there is one. -/
def ofNat? (n : Nat) : Option CodePoint :=
  if h : n < 0x110000 then some ⟨n, h⟩ else none

/-- The code point whose number is `n` modulo `m`, for a modulus that keeps it in range. -/
def ofMod (n m : Nat) (hm : 0 < m) (h : m ≤ 0x110000) : CodePoint :=
  ⟨n % m, Nat.lt_of_lt_of_le (Nat.mod_lt n hm) h⟩

/-- The ASCII code point whose number is `n` modulo 128. -/
def asciiOfMod (n : Nat) : CodePoint := ofMod n 0x80 (by decide) (by decide)

/-- The code point whose number is `n` modulo the number of code points. -/
def wrap (n : Nat) : CodePoint := ofMod n 0x110000 (by decide) (by decide)

/-- The code point whose number is a byte. -/
def ofByte (b : UInt8) : CodePoint :=
  ⟨b.toNat, by have := b.toNat_lt; omega⟩

/-- Whether a code point is a surrogate: half of a pair in a 16-bit encoding, and no character. -/
def IsSurrogate (c : CodePoint) : Prop := 0xD800 ≤ c.val ∧ c.val ≤ 0xDFFF

instance (c : CodePoint) : Decidable c.IsSurrogate :=
  inferInstanceAs (Decidable (_ ∧ _))

/-- Whether a code point is the number of a character. -/
def IsScalar (c : CodePoint) : Prop := ¬ c.IsSurrogate

instance (c : CodePoint) : Decidable c.IsScalar :=
  inferInstanceAs (Decidable (¬ _))

@[ext] theorem ext {c d : CodePoint} (h : c.val = d.val) : c = d := by
  cases c; cases d; simp_all

theorem wrap_val (c : CodePoint) : wrap c.val = c := ext (Nat.mod_eq_of_lt c.val_lt)

/-- A character is never a surrogate. -/
theorem isScalar_ofChar (c : Char) : (ofChar c).IsScalar := by
  have h := c.valid
  unfold UInt32.isValidChar Nat.isValidChar at h
  unfold IsScalar IsSurrogate ofChar
  simp only
  omega

/-- Whether a code point is one of the ASCII digits `0` to `9`. -/
def isAsciiDigit (c : CodePoint) : Bool := 0x30 ≤ c.val && c.val ≤ 0x39

/-- The ASCII lower-case form of an ASCII capital; any other code point is left as it is. -/
def asciiLower (c : CodePoint) : CodePoint :=
  if h : 0x41 ≤ c.val ∧ c.val ≤ 0x5A then ⟨c.val + 0x20, by omega⟩ else c

end CodePoint

/-- The text that a string spells. -/
def text (s : String) : Text := s.toList.map CodePoint.ofChar

namespace Text

/-- `t.startsWith p` tells whether the text `p` stands at the head of `t`. -/
def startsWith (t p : Text) : Bool := p.isPrefixOf t

/-- Texts joined with a separator between neighbours. -/
def join (separator : Text) : List Text → Text
  | [] => []
  | [t] => t
  | t :: rest => t ++ separator ++ join separator rest

end Text

end Faultline
