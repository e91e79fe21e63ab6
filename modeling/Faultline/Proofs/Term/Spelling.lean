import Faultline.Proofs.Term.DigitSpelling

/-!
# Spellings of code points

Between quotes, and behind the `$` of a character literal, a code point stands for itself or behind
a backslash is spelled by an escape: by its number in hex or octal, as a control character, by the
letter that names it, or by itself again. `EscapeOf` lists the escapes of a code point, and
`Spelling` adds the code point alone, unless it is a backslash or the quote in use.

An escape is read up to its last code point and no further, whatever stands behind it. So the code
points of a text may be spelled each in its own way, and reading what is between the quotes gives
the text back.

Results:
* `escape_of_escapeOf`: an escape is read as its code point, whatever stands behind it.
* `readsInside_of_spelling`, `charLiteral_of_spelling`: so is a spelling, between quotes and behind
  the `$`.
* `tokenize_spelled`: a text in any spelling is one string, one atom or one character literal.
-/

namespace Faultline.Term

open Numeral (Spells)

/-! ## Spellings -/

/-- The code points that have an escape of their own, behind the code point that names them. -/
def escapeNames : List (CodePoint × CodePoint) :=
  [('n', '\n'), ('t', '\t'), ('r', '\r'), ('s', ' '), ('e', '\x1b'), ('b', '\x08'), ('f', '\x0c'),
    ('v', '\x0b'), ('d', '\x7f'), ('\\', '\\'), ('\'', '\''), ('"', '"')]

/-- The code points that do not stand for themselves behind a backslash. -/
def escapeMarks : Text := text "01234567x^ntrsebfvd"

/-- The text behind a backslash is an escape of the code point. -/
inductive EscapeOf (c : CodePoint) : Text → Prop where
  /-- The number in hex between braces, with any zeros in front. -/
  | braces {digits : Text} (h : Spells 16 digits c.val) :
    EscapeOf c (CodePoint.ofChar 'x' :: CodePoint.ofChar '{' :: (digits ++ [CodePoint.ofChar '}']))
  /-- The number in two hex digits, which reaches up to 255. -/
  | pair {digits : Text} (h : Spells 16 digits c.val) (hlength : digits.length = 2) :
    EscapeOf c (CodePoint.ofChar 'x' :: digits)
  /-- The number in three octal digits, which reaches up to 511. -/
  | octal {digits : Text} (h : Spells 8 digits c.val) (hlength : digits.length = 3) :
    EscapeOf c digits
  /-- A control character, by any code point that agrees with it modulo 32. -/
  | control {d : CodePoint} (hc : c.val < 32) (h : d.val % 32 = c.val % 32) :
    EscapeOf c [CodePoint.ofChar '^', d]
  | named {name : CodePoint} (h : (name, c) ∈ escapeNames) : EscapeOf c [name]
  | itself (h : c ∉ escapeMarks) : EscapeOf c [c]

/-- The text spells the code point between quotes, or behind the `$` of a character literal, where
    there is no quote. -/
inductive Spelling (quote : Option CodePoint) (c : CodePoint) : Text → Prop where
  | plain (hquote : quote ≠ some c) (hbackslash : c ≠ '\\') : Spelling quote c [c]
  | escape {t : Text} (h : EscapeOf c t) : Spelling quote c (CodePoint.ofChar '\\' :: t)

/-- Texts between quotes. -/
def quoted (quote : CodePoint) (parts : List Text) : Text := quote :: (parts.flatten ++ [quote])

namespace Lexer

/-! ## Escapes in hex and octal -/

theorem escape_hex {c : CodePoint} {digits after : Text} {width : Nat}
    (hdigits : hexDigits after = .ok (digits, width)) (h : Spells 16 digits c.val) :
    escape (CodePoint.ofChar 'x' :: after) = .ok (c, 1 + width) := by
  rw [escape_x, hdigits]
  simp only [hexValue?_eq_some_iff.mpr h.spellsLoosely]

theorem isOctalDigit_of_spells {t : Text} {n : Nat} (h : Spells 8 t n) :
    ∀ c ∈ t, isOctalDigit c = true := by
  intro c hc
  obtain ⟨d, hdigit, hd⟩ := h.exists_isDigit c hc
  have hval := hdigit.val_eq (by omega)
  rw [isOctalDigit, Bool.and_eq_true, decide_eq_true_eq, decide_eq_true_eq]
  omega

/-- The value of an octal numeral, as an escape computes it. -/
theorem octalValue_of_spells {t : Text} {n : Nat} (h : Spells 8 t n) :
    Numeral.ofDigits 8 (t.map fun d => d.val - 0x30) = n := by
  refine Numeral.ofDigits_of_spells h fun c d hc hd => ?_
  rw [hc.val_eq (by omega), Nat.add_sub_cancel_left]

theorem escape_octal {c : CodePoint} {digits : Text} (h : Spells 8 digits c.val)
    (hlength : digits.length = 3) (rest : Text) :
    escape (digits ++ rest) = .ok (c, digits.length) := by
  have hoctal := isOctalDigit_of_spells h
  have hvalue := octalValue_of_spells h
  obtain ⟨a, b, d, rfl⟩ := List.length_eq_three.mp hlength
  -- the scan takes three digits at most, so it does not matter whether more of them follow
  have hrun : (a :: (b :: d :: rest).take 2).takeWhile isOctalDigit = [a, b, d] :=
    List.takeWhile_eq_self_iff.mpr hoctal
  show escape (a :: b :: d :: rest) = _
  unfold escape
  simp only [hrun, hvalue, CodePoint.wrap_val]
  exact if_pos (hoctal a List.mem_cons_self)

/-! ## Names -/

theorem escape_name {name : CodePoint} (hoctal : isOctalDigit name = false) (hx : name ≠ 'x')
    (hcaret : name ≠ '^') (rest : Text) : escape (name :: rest) = .ok (named name, 1) := by
  unfold escape
  simp only [hoctal]
  rw [if_neg (by decide), if_neg hx, if_neg hcaret]

theorem of_mem_escapeNames : ∀ p ∈ escapeNames,
    isOctalDigit p.1 = false ∧ p.1 ≠ 'x' ∧ p.1 ≠ '^' ∧ named p.1 = p.2 := by
  decide

theorem mem_escapeMarks_of_isOctalDigit {c : CodePoint} (h : isOctalDigit c = true) :
    c ∈ escapeMarks := by
  have hall : ∀ i < 8, CodePoint.asciiOfMod (0x30 + i) ∈ escapeMarks := by decide
  have hval : 0x30 ≤ c.val ∧ c.val ≤ 0x37 := by simpa [isOctalDigit] using h
  have hc : CodePoint.asciiOfMod (0x30 + (c.val - 0x30)) = c := by
    apply CodePoint.ext
    show (0x30 + (c.val - 0x30)) % 0x80 = c.val
    omega
  rw [← hc]
  exact hall (c.val - 0x30) (by omega)

/-- A code point that is no mark of an escape stands for itself. -/
theorem escape_itself {c : CodePoint} (h : c ∉ escapeMarks) (rest : Text) :
    escape (c :: rest) = .ok (c, 1) := by
  have hoctal : isOctalDigit c = false := by
    rw [← Bool.not_eq_true]
    exact mt mem_escapeMarks_of_isOctalDigit h
  have hname : named c = c := by
    rw [named, if_neg, if_neg, if_neg, if_neg, if_neg, if_neg, if_neg, if_neg, if_neg]
    all_goals
      rintro rfl
      exact h (by decide)
  rw [escape_name hoctal, hname]
  all_goals
    rintro rfl
    exact h (by decide)

/-! ## Spellings are read back -/

/-- An escape is read as its code point, whatever stands behind it. -/
theorem escape_of_escapeOf {c : CodePoint} {t : Text} (h : EscapeOf c t) (rest : Text) :
    escape (t ++ rest) = .ok (c, t.length) := by
  cases h with
  | @braces digits h =>
    have hread := escape_hex (hexDigits_braces (brace_not_mem h).2 rest) h
    simp only [List.cons_append, List.append_assoc, List.nil_append, hread, List.length_cons,
      List.length_append, List.length_nil]
    congr 2
    omega
  | @pair digits h hlength =>
    obtain ⟨a, b, rfl⟩ := List.length_eq_two.mp hlength
    have hbrace : (a :: b :: rest).head? ≠ some (CodePoint.ofChar '{') := by
      intro hhead
      obtain rfl := Option.some.inj hhead
      exact (brace_not_mem h).1 List.mem_cons_self
    exact escape_hex (hexDigits_pair hbrace) h
  | octal h hlength => exact escape_octal h hlength rest
  | @control d hc h =>
    have hvalue : CodePoint.ofMod d.val 32 (by decide) (by decide) = c := by
      apply CodePoint.ext
      show d.val % 32 = c.val
      omega
    show Except.ok (CodePoint.ofMod d.val 32 _ _, 2) = _
    rw [hvalue]
    rfl
  | @named name h =>
    obtain ⟨hoctal, hx, hcaret, hname⟩ := of_mem_escapeNames (name, c) h
    exact (escape_name hoctal hx hcaret rest).trans (by rw [hname]; rfl)
  | itself h => exact escape_itself h rest

theorem readsInside_of_spelling {quote c : CodePoint} (hquote : quote = '"' ∨ quote = '\'')
    {t : Text} (h : Spelling (some quote) c t) : ReadsInside quote c t := by
  cases h with
  | plain hne hbackslash => exact readsInside_plain (fun hc => hne (by rw [hc])) hbackslash
  | escape h => exact readsInside_escape (backslash_ne_quote hquote) (escape_of_escapeOf h)

theorem charLiteral_of_spelling {c : CodePoint} {t : Text} (h : Spelling none c t) :
    charLiteral t = .ok (.char c.val, t.length) := by
  cases h with
  | plain _ hbackslash => exact if_neg hbackslash
  | @escape t h =>
    have hescape := escape_of_escapeOf h []
    rw [List.append_nil] at hescape
    rw [charLiteral, if_pos rfl, hescape, List.length_cons, Nat.add_comm]

end Lexer

open Lexer (readsInside_of_spelling charLiteral_of_spelling)

/-- A text that is one token has this token and the end of the text as its lexemes. -/
theorem tokenize_of_scan {c : CodePoint} {t : Text} {token : Token}
    (hblank : Text.isBlank c = false) (hscan : Lexer.scan c t = .ok (token, t.length)) :
    tokenize (c :: t) = .ok [⟨token, 1⟩, ⟨.eof, (c :: t).length + 1⟩] := by
  have hcolumn : ((1 + 1 + t.length : Nat) : Int) = (c :: t).length + 1 := by
    rw [List.length_cons]
    omega
  rw [tokenize, Lexer.lexFrom_of_scan hblank hscan, List.drop_length, Lexer.lexFrom, hcolumn]
  rfl

theorem forall₂_readsInside {quote : CodePoint} (hquote : quote = '"' ∨ quote = '\'') {s : Text}
    {parts : List Text} (h : List.Forall₂ (Spelling (some quote)) s parts) :
    List.Forall₂ (Lexer.ReadsInside quote) s parts :=
  h.imp fun _ _ hc => readsInside_of_spelling hquote hc

/-- Whichever spelling is chosen for each code point of a text, between double quotes they are one
    string and between single quotes one atom, and both have the text as their value. A spelling of
    a code point behind a `$` is a character literal of its number. -/
theorem tokenize_spelled :
    (∀ (s : Text) (parts : List Text), List.Forall₂ (Spelling (some '"')) s parts →
      tokenize (quoted '"' parts) =
        .ok [⟨.string s, 1⟩, ⟨.eof, (quoted '"' parts).length + 1⟩]) ∧
    (∀ (s : Text) (parts : List Text), List.Forall₂ (Spelling (some '\'')) s parts →
      tokenize (quoted '\'' parts) =
        .ok [⟨.atom s, 1⟩, ⟨.eof, (quoted '\'' parts).length + 1⟩]) ∧
    ∀ (c : CodePoint) (t : Text), Spelling none c t →
      tokenize (CodePoint.ofChar '$' :: t) =
        .ok [⟨.char c.val, 1⟩, ⟨.eof, (CodePoint.ofChar '$' :: t).length + 1⟩] := by
  refine ⟨?_, ?_, ?_⟩
  · intro s parts h
    have hscan := Lexer.scan_string (forall₂_readsInside (.inl rfl) h) []
    rw [List.append_nil] at hscan
    exact tokenize_of_scan (by decide) hscan
  · intro s parts h
    have hscan := Lexer.scan_quotedAtom (forall₂_readsInside (.inr rfl) h) []
    rw [List.append_nil] at hscan
    exact tokenize_of_scan (by decide) hscan
  · intro c t h
    exact tokenize_of_scan (by decide) (charLiteral_of_spelling h)

/-- A spelling of each kind between double quotes, quotes of either kind between single ones, and a
    surrogate behind a `$`. -/
theorem tokenize_spelled_eachForm :
    List.Forall₂ (Spelling (some '"')) (text "aJKA\x01\nq\"")
      [text "a", text "\\x\x7b004a\x7d", text "\\x4B", text "\\101", text "\\^A", text "\\n",
        text "\\q", text "\\\""] ∧
    tokenize (text "\"a\\x\x7b004a\x7d\\x4B\\101\\^A\\n\\q\\\"\"") =
      .ok [⟨.string (text "aJKA\x01\nq\""), 1⟩, ⟨.eof, 29⟩] ∧
    List.Forall₂ (Spelling (some '\'')) (text "\"'") [text "\"", text "\\'"] ∧
    tokenize (text "'\"\\''") = .ok [⟨.atom (text "\"'"), 1⟩, ⟨.eof, 6⟩] ∧
    Spelling none ⟨0xD800, by decide⟩ (text "\\x\x7bD800\x7d") ∧
    tokenize (text "$\\x\x7bD800\x7d") = .ok [⟨.char 0xD800, 1⟩, ⟨.eof, 10⟩] := by
  have hbraces : EscapeOf 'J' (text "x\x7b004a\x7d") := by
    refine @EscapeOf.braces 'J' (text "004a") ⟨nofun, [0, 0, 4, 10], ?_, rfl⟩
    exact .cons ⟨.decimal (by decide) rfl, by decide⟩
      (.cons ⟨.decimal (by decide) rfl, by decide⟩
        (.cons ⟨.decimal (by decide) rfl, by decide⟩
          (.cons ⟨.lower (d := 0) (by decide) rfl, by decide⟩ .nil)))
  have hpair : EscapeOf 'K' (text "x4B") := by
    refine @EscapeOf.pair 'K' (text "4B") ⟨nofun, [4, 11], ?_, rfl⟩ rfl
    exact .cons ⟨.decimal (by decide) rfl, by decide⟩
      (.cons ⟨.upper (d := 1) (by decide) rfl, by decide⟩ .nil)
  have hoctal : EscapeOf 'A' (text "101") := by
    refine .octal ⟨nofun, [1, 0, 1], ?_, rfl⟩ rfl
    exact .cons ⟨.decimal (by decide) rfl, by decide⟩
      (.cons ⟨.decimal (by decide) rfl, by decide⟩
        (.cons ⟨.decimal (by decide) rfl, by decide⟩ .nil))
  have hcontrol : EscapeOf '\x01' (text "^A") := @EscapeOf.control '\x01' 'A' (by decide) rfl
  have hsurrogate : EscapeOf ⟨0xD800, by decide⟩ (text "x\x7bD800\x7d") := by
    refine @EscapeOf.braces ⟨0xD800, by decide⟩ (text "D800") ⟨nofun, [13, 8, 0, 0], ?_, rfl⟩
    exact .cons ⟨.upper (d := 3) (by decide) rfl, by decide⟩
      (.cons ⟨.decimal (by decide) rfl, by decide⟩
        (.cons ⟨.decimal (by decide) rfl, by decide⟩
          (.cons ⟨.decimal (by decide) rfl, by decide⟩ .nil)))
  have hdouble : List.Forall₂ (Spelling (some '"')) (text "aJKA\x01\nq\"")
      [text "a", text "\\x\x7b004a\x7d", text "\\x4B", text "\\101", text "\\^A", text "\\n",
        text "\\q", text "\\\""] :=
    .cons (.plain (by decide) (by decide)) (.cons (.escape hbraces) (.cons (.escape hpair)
      (.cons (.escape hoctal) (.cons (.escape hcontrol)
        (.cons (.escape (@EscapeOf.named '\n' 'n' (by decide)))
          (.cons (.escape (@EscapeOf.itself 'q' (by decide)))
            (.cons (.escape (@EscapeOf.named '"' '"' (by decide))) .nil)))))))
  have hsingle : List.Forall₂ (Spelling (some '\'')) (text "\"'") [text "\"", text "\\'"] :=
    .cons (.plain (by decide) (by decide))
      (.cons (.escape (@EscapeOf.named '\'' '\'' (by decide))) .nil)
  have hchar : Spelling none ⟨0xD800, by decide⟩ (text "\\x\x7bD800\x7d") := .escape hsurrogate
  exact ⟨hdouble, tokenize_spelled.1 _ _ hdouble, hsingle, tokenize_spelled.2.1 _ _ hsingle, hchar,
    tokenize_spelled.2.2 _ _ hchar⟩

end Faultline.Term
