import Faultline.Proofs.Term.IntegerLiteral
import Faultline.Proofs.Term.LongNumeral

/-!
# Which digits are read

What stands behind the `#` of an integer and in a hex escape is read as an integer, and that reading
is liberal: it takes the digits of any script and the mark of the base, and in an escape, where no
scan has sorted them out, signs, blanks and underscores as well. So the texts that are read are the
loose spellings, of which the numerals are the plain ones. A hex escape without braces has two
digits, but at the end of a text it is cut short to one.

`BasedAt` and `EscapeAt` say where in a text there is such an integer and such an escape.

Results:
* `exists_reads_of_reaches`: what stands before a place that is reached is read in front of it.
* `basedInteger_cases`: which integers with a base are read.
* `exists_escape_hex_iff`: which hex escapes are read.
* `tokenize_spellings`: what is read in a whole text, and when it is spelled with plain digits.
-/

namespace Faultline.Term.Lexer

open Numeral (IsPlain Spells SpellsLoosely decimalLimit decimalValue)

/-! ## Places that are reached -/

/-- What stands before a place that is reached is read as tokens in front of it. -/
theorem exists_reads_of_reaches {t u : Text} (h : Reaches t u) :
    ∃ front ts, t = front ++ u ∧ Reads front ts u := by
  induction h with
  | refl t => exact ⟨[], [], rfl, reads_nil t⟩
  | @blank c rest u hc _ ih =>
    obtain ⟨front, ts, rfl, hreads⟩ := ih
    have hblank := reads_blanks (List.forall_mem_singleton.mpr hc) (front ++ u)
    exact ⟨c :: front, ts, rfl, hblank.append hreads⟩
  | @token c rest u token more hc hscan _ ih =>
    obtain ⟨front, ts, hdrop, hreads⟩ := ih
    have hlength : (rest.take more).length = more :=
      List.length_take_of_le (more_le_of_scan hscan)
    have hrest : rest.take more ++ (front ++ u) = rest := by
      rw [← hdrop, List.take_append_drop]
    refine ⟨c :: rest.take more ++ front, token :: ts, ?_, ?_⟩
    · rw [List.append_assoc, List.cons_append, hrest]
    · have hfirst : Reads (c :: rest.take more) [token] (front ++ u) := by
        refine reads_of_scan hc ?_
        rw [hrest, hscan, hlength]
      exact hfirst.append hreads

theorem reads_of_reaches {front u : Text} (h : Reaches (front ++ u) u) : ∃ ts, Reads front ts u := by
  obtain ⟨front', ts, hsplit, hreads⟩ := exists_reads_of_reaches h
  obtain rfl := List.append_cancel_right hsplit
  exact ⟨ts, hreads⟩

section Reached

variable {front rest : Text} {c : CodePoint} (h : Reaches (front ++ c :: rest) (c :: rest))
  (hc : Text.isBlank c = false)
include h hc

/-- A token that is scanned at a place that is reached is among the lexemes. -/
theorem mem_lexFrom_of_scan {token : Token} {more : Nat} (hscan : scan c rest = .ok (token, more)) :
    ⟨token, (front.length + 1 : Nat)⟩ ∈ (lexFrom 1 (front ++ c :: rest)).1 := by
  obtain ⟨ts, hreads⟩ := reads_of_reaches h
  obtain ⟨lexemes, -, hlex⟩ := hreads 1
  rw [hlex, lexFrom_of_scan hc hscan, Nat.add_comm 1]
  simp

/-- A scan that fails at a place that is reached ends the reading. -/
theorem tokenize_of_scan_error {stop : Stop} (hscan : scan c rest = .error stop) :
    Term.tokenize (front ++ c :: rest) =
      .error ((stop.shift (front.length + 1)).failure (front ++ c :: rest)) := by
  obtain ⟨ts, hreads⟩ := reads_of_reaches h
  obtain ⟨lexemes, -, hlex⟩ := hreads 1
  have hstop : lexFrom (1 + front.length) (c :: rest) =
      ([], some (stop.shift (1 + front.length))) := by
    rw [lexFrom, hc, hscan]
    rfl
  rw [Term.tokenize, hlex, hstop, Nat.add_comm 1]

end Reached

/-- A stop with a place is told with a column. -/
theorem Stop.HasPlace.failure {stop : Stop} (h : stop.HasPlace) (whole : Text) :
    ∃ e, stop.failure whole = .decode e := by
  cases h with
  | mk => exact ⟨_, rfl⟩

/-! ## Integers with a base -/

/-- Reading `t` comes to an integer with a base in this column: `b` are the digits of the base and
    `p` is what stands behind the `#`, both without underscores. -/
inductive BasedAt : Text → Text → Text → Nat → Prop where
  | mk {front run rest : Text} {first : CodePoint} (hfirst : first.isAsciiDigit = true)
    (hrun : ∀ d ∈ run, isNumberPart d = true)
    (h : Reaches (front ++ first :: (run ++ CodePoint.ofChar '#' :: rest))
      (first :: (run ++ CodePoint.ofChar '#' :: rest))) :
    BasedAt (front ++ first :: (run ++ CodePoint.ofChar '#' :: rest))
      (first :: withoutUnderscores run) (withoutUnderscores (basedBody rest)) (front.length + 1)

/-- The digits `p` behind the base `b` are read as the integer. -/
structure BasedReads (b p : Text) (n : Int) : Prop where
  short : b.length ≤ decimalLimit
  base : 2 ≤ decimalValue b ∧ decimalValue b ≤ 36
  limited : isUnlimited (decimalValue b) = true ∨ p.length ≤ decimalLimit
  spells : SpellsLoosely (decimalValue b) p n

/-- Either the digits are read as an integer, or the integer is refused. -/
theorem basedInteger_cases (b rest : Text) (width : Nat) :
    (∃ n, BasedReads b (withoutUnderscores (basedBody rest)) n ∧
      basedInteger b width rest = .ok (.integer n, width + (basedBody rest).length)) ∨
    (∀ n, ¬ BasedReads b (withoutUnderscores (basedBody rest)) n) ∧
      ∃ stop, basedInteger b width rest = .error stop ∧
        (b.length ≤ decimalLimit → stop.HasPlace) ∧
        (decimalLimit < b.length → stop = .longNumeral b.length) := by
  by_cases hshort : b.length ≤ decimalLimit
  · by_cases hbase : 2 ≤ decimalValue b ∧ decimalValue b ≤ 36
    · rw [basedInteger_eq hshort rfl hbase]
      cases hvalue : basedValue? (decimalValue b) (withoutUnderscores (basedBody rest)) with
      | some n =>
        obtain ⟨hlimited, hspells⟩ := basedValue?_eq_some_iff.mp hvalue
        exact .inl ⟨n, ⟨hshort, hbase, hlimited, hspells⟩, rfl⟩
      | none =>
        refine .inr ⟨?_, _, rfl, fun _ => .mk _ _, fun hlong => absurd hlong (by omega)⟩
        intro n hn
        rw [basedValue?_eq_some_iff.mpr ⟨hn.limited, hn.spells⟩] at hvalue
        cases hvalue
    · refine .inr ⟨fun n hn => hbase hn.base, .malformed (.integerBase (decimalValue b)) 0, ?_,
        fun _ => .mk _ _, fun hlong => absurd hlong (by omega)⟩
      unfold basedInteger
      rw [if_neg (by omega)]
      exact if_neg hbase
  · refine .inr ⟨fun n hn => hshort hn.short, .longNumeral b.length, ?_,
      fun hle => absurd hle hshort, fun _ => rfl⟩
    exact if_pos (by omega)

/-- What the reading of a whole text makes of an integer with a base in it. -/
theorem tokenize_basedAt {t b p : Text} {column : Nat} (h : BasedAt t b p column) :
    (∀ lexemes, Term.tokenize t = .ok lexemes →
      ∃ n, BasedReads b p n ∧ ⟨.integer n, column⟩ ∈ lexemes) ∧
    ((∀ n, ¬ BasedReads b p n) →
      (b.length ≤ decimalLimit → ∃ e, Term.tokenize t = .error (.decode e)) ∧
      (decimalLimit < b.length → Term.tokenize t = .error (.longNumeral b.length))) := by
  obtain @⟨front, run, rest, first, hfirst, hrun, hreaches⟩ := h
  have hblank := not_isBlank_of_isAsciiDigit hfirst
  have hscan := (scan_digit hfirst (run ++ CodePoint.ofChar '#' :: rest)).trans
    (number_based hrun rest)
  rcases basedInteger_cases (first :: withoutUnderscores run) rest (run.length + 1) with
    ⟨n, hn, hok⟩ | ⟨hnone, stop, herror, hplace, hlong⟩
  · rw [hok] at hscan
    constructor
    · intro lexemes hlexemes
      refine ⟨n, hn, ?_⟩
      rw [← lexFrom_of_tokenize hlexemes]
      exact mem_lexFrom_of_scan hreaches hblank hscan
    · intro hnone
      exact absurd hn (hnone n)
  · rw [herror] at hscan
    have hrefused := tokenize_of_scan_error hreaches hblank hscan
    constructor
    · intro lexemes hlexemes
      rw [hrefused] at hlexemes
      cases hlexemes
    · intro _
      constructor
      · intro hshort
        obtain ⟨e, he⟩ := ((hplace hshort).shift (front.length + 1)).failure _
        exact ⟨e, hrefused.trans (congrArg _ he)⟩
      · intro hover
        rw [hrefused, hlong hover]
        rfl

/-! ## Hex escapes -/

/-- Reading between quotes comes from the first text to the second one. -/
inductive InQuotes (quote : CodePoint) : Text → Text → Prop where
  | refl (s : Text) : InQuotes quote s s
  | plain {c : CodePoint} {rest s : Text} (hquote : c ≠ quote) (hbackslash : c ≠ '\\')
    (h : InQuotes quote rest s) : InQuotes quote (c :: rest) s
  | escape {rest s : Text} {value : CodePoint} {span : Nat} (hquote : '\\' ≠ quote)
    (hescape : Lexer.escape rest = .ok (value, span)) (h : InQuotes quote (rest.drop span) s) :
    InQuotes quote (CodePoint.ofChar '\\' :: rest) s

/-- In the literal at the head of the first text, reading comes to an escape; the second text is what
    stands behind its backslash. -/
inductive HasEscape : Text → Text → Prop where
  | char (after : Text) : HasEscape (CodePoint.ofChar '$' :: CodePoint.ofChar '\\' :: after) after
  | quoted {quote : CodePoint} (hquote : quote = '"' ∨ quote = '\'') {s after : Text}
    (h : InQuotes quote s (CodePoint.ofChar '\\' :: after)) : HasEscape (quote :: s) after

/-- Reading `t` comes to a hex escape, `after` being what stands behind its `x`. -/
def EscapeAt (t after : Text) : Prop :=
  ∃ u, Reaches t u ∧ HasEscape u (CodePoint.ofChar 'x' :: after)

/-- The digits that a hex escape has, given what stands behind its `x`: what stands between braces,
    or else two code points, or fewer at the end of the text. -/
inductive EscapeDigits : Text → Text → Prop where
  | braces {p rest : Text} (hp : CodePoint.ofChar '}' ∉ p) :
    EscapeDigits (CodePoint.ofChar '{' :: (p ++ CodePoint.ofChar '}' :: rest)) p
  | pair {after : Text} (hbrace : after.head? ≠ some (CodePoint.ofChar '{')) :
    EscapeDigits after (after.take 2)

/-- The hex escape is read as the code point. -/
def EscapeReads (after : Text) (value : CodePoint) : Prop :=
  ∃ p, EscapeDigits after p ∧ SpellsLoosely 16 p value.val

theorem ofNat?_eq_some_iff {n : Nat} {c : CodePoint} :
    CodePoint.ofNat? n = some c ↔ n = c.val := by
  unfold CodePoint.ofNat?
  constructor
  · intro h
    split_ifs at h
    exact congrArg CodePoint.val (Option.some.inj h)
  · rintro rfl
    exact dif_pos c.val_lt

theorem hexValue?_eq_some_iff {p : Text} {value : CodePoint} :
    hexValue? p = some value ↔ SpellsLoosely 16 p value.val := by
  rw [← Numeral.readInteger?_eq_some_iff]
  unfold hexValue?
  constructor
  · intro h
    split at h
    next n hn => rw [hn, ofNat?_eq_some_iff.mp h]; rfl
    next => cases h
  · intro h
    rw [h]
    exact ofNat?_eq_some_iff.mpr rfl

section Braces

variable {p : Text} (hp : CodePoint.ofChar '}' ∉ p)
include hp

theorem forall_mem_braces : ∀ d ∈ p, decide (d ≠ CodePoint.ofChar '}') = true := by
  intro d hd
  rw [decide_eq_true_eq]
  rintro rfl
  exact hp hd

theorem hexDigits_braces (rest : Text) :
    hexDigits (CodePoint.ofChar '{' :: (p ++ CodePoint.ofChar '}' :: rest)) =
      .ok (p, p.length + 2) := by
  unfold hexDigits
  simp only [takeWhile_run (forall_mem_braces hp) (show (CodePoint.ofChar '}' :: rest).takeWhile
    (fun d => decide (d ≠ CodePoint.ofChar '}')) = [] from rfl), List.length_append,
    List.length_cons]
  rw [if_pos trivial, if_neg (by omega)]

theorem hexDigits_open :
    hexDigits (CodePoint.ofChar '{' :: p) = .error (.malformed .openHexEscape (1 + p.length)) := by
  unfold hexDigits
  simp only [List.takeWhile_eq_self_iff.mpr (forall_mem_braces hp)]
  rw [if_pos trivial, if_pos trivial]

end Braces

theorem hexDigits_pair {after : Text} (hbrace : after.head? ≠ some (CodePoint.ofChar '{')) :
    hexDigits after = .ok (after.take 2, (after.take 2).length) := by
  cases after with
  | nil => rfl
  | cons c inner => exact if_neg fun hc => hbrace (congrArg some hc)

theorem hexDigits_of_escapeDigits {after p : Text} (h : EscapeDigits after p) :
    ∃ width, hexDigits after = .ok (p, width) := by
  cases h with
  | braces hp => exact ⟨_, hexDigits_braces hp _⟩
  | pair hbrace => exact ⟨_, hexDigits_pair hbrace⟩

theorem escapeDigits_of_hexDigits {after p : Text} {width : Nat}
    (h : hexDigits after = .ok (p, width)) : EscapeDigits after p := by
  by_cases hbrace : after.head? = some (CodePoint.ofChar '{')
  · obtain ⟨inner, rfl⟩ := List.head?_eq_some_iff.mp hbrace
    obtain ⟨run, rest, rfl, hrun, hend⟩ := exists_run (fun d : CodePoint => decide (d ≠ '}')) inner
    have hp : CodePoint.ofChar '}' ∉ run := fun hmem => of_decide_eq_true (hrun _ hmem) rfl
    cases rest with
    | nil =>
      rw [List.append_nil, hexDigits_open hp] at h
      cases h
    | cons d rest =>
      obtain rfl : d = CodePoint.ofChar '}' := by
        by_contra hd
        simp [hd] at hend
      rw [hexDigits_braces hp] at h
      cases h
      exact .braces hp
  · rw [hexDigits_pair hbrace] at h
    cases h
    exact .pair hbrace

theorem escape_x (after : Text) :
    escape (CodePoint.ofChar 'x' :: after) =
      match hexDigits after with
      | .error stop => .error (stop.shift 1)
      | .ok (digits, width) =>
        match hexValue? digits with
        | some value => .ok (value, 1 + width)
        | none => .error (.malformed (.hexEscape digits) (1 + width)) := rfl

/-- Either a hex escape is read as a code point, or it is refused. -/
theorem escape_x_cases (after : Text) :
    (∃ value span, EscapeReads after value ∧
      escape (CodePoint.ofChar 'x' :: after) = .ok (value, span)) ∨
    (∀ value, ¬ EscapeReads after value) ∧
      ∃ stop, escape (CodePoint.ofChar 'x' :: after) = .error stop := by
  rw [escape_x]
  cases hdigits : hexDigits after with
  | error stop =>
    refine .inr ⟨?_, _, rfl⟩
    rintro value ⟨p, hp, -⟩
    obtain ⟨width, hok⟩ := hexDigits_of_escapeDigits hp
    rw [hdigits] at hok
    cases hok
  | ok found =>
    obtain ⟨p, width⟩ := found
    have hp := escapeDigits_of_hexDigits hdigits
    dsimp only
    cases hvalue : hexValue? p with
    | some value => exact .inl ⟨value, _, ⟨p, hp, hexValue?_eq_some_iff.mp hvalue⟩, rfl⟩
    | none =>
      refine .inr ⟨?_, _, rfl⟩
      rintro value ⟨q, hq, hspells⟩
      obtain ⟨width', hok⟩ := hexDigits_of_escapeDigits hq
      rw [hdigits] at hok
      obtain ⟨rfl, -⟩ := Prod.mk.inj (Except.ok.inj hok)
      rw [hexValue?_eq_some_iff.mpr hspells] at hvalue
      cases hvalue

/-- A refused escape between quotes is a refused text between quotes. -/
theorem quotedFrom_of_escape_error {quote : CodePoint} {s after : Text} {stop : Stop}
    (h : InQuotes quote s (CodePoint.ofChar '\\' :: after)) (hquote : CodePoint.ofChar '\\' ≠ quote)
    (hescape : escape after = .error stop) (width : Nat) :
    ∃ stop', quotedFrom quote width s = .error stop' := by
  -- the induction follows the reading up to the escape, which leaves `width` behind
  generalize hplace : CodePoint.ofChar '\\' :: after = place at h
  induction h generalizing width with
  | refl s =>
    subst hplace
    rw [quotedFrom, if_neg hquote, if_pos rfl, hescape]
    exact ⟨_, rfl⟩
  | plain hq hbackslash _ ih =>
    obtain ⟨stop', hrest⟩ := ih (width + 1) hplace
    rw [quotedFrom, if_neg hq, if_neg hbackslash, hrest]
    exact ⟨_, rfl⟩
  | @escape _ _ value span hq hok _ ih =>
    obtain ⟨stop', hrest⟩ := ih (width + 1 + span) hplace
    rw [quotedFrom, if_neg hq, if_pos rfl, hok]
    dsimp only
    rw [hrest]
    exact ⟨_, rfl⟩

theorem scan_quote {quote : CodePoint} (hquote : quote = '"' ∨ quote = '\'') {s : Text} {stop : Stop}
    (h : quotedFrom quote 0 s = .error stop) : scan quote s = .error stop := by
  unfold scan
  rcases hquote with rfl | rfl
  · rw [if_pos rfl, h]
    rfl
  · rw [if_neg (by decide), if_pos rfl, h]
    rfl

/-- A refused escape in a literal is a refused literal. -/
theorem scan_of_escape_error {u after : Text} {stop : Stop} (h : HasEscape u after)
    (hescape : escape after = .error stop) :
    ∃ c rest stop', u = c :: rest ∧ Text.isBlank c = false ∧ c.isAsciiDigit = false ∧
      scan c rest = .error stop' := by
  cases h with
  | char =>
    have hscan : scan (CodePoint.ofChar '$') (CodePoint.ofChar '\\' :: after) =
        .error (stop.shift 2) := by
      have hliteral : charLiteral (CodePoint.ofChar '\\' :: after) = .error (stop.shift 2) := by
        rw [charLiteral, if_pos rfl, hescape]
      exact hliteral
    exact ⟨_, _, _, rfl, by decide, by decide, hscan⟩
  | @quoted quote hquote s _ h =>
    have hne : CodePoint.ofChar '\\' ≠ quote ∧ Text.isBlank quote = false ∧
        quote.isAsciiDigit = false := by
      rcases hquote with rfl | rfl
      · decide
      · decide
    obtain ⟨stop', hquoted⟩ := quotedFrom_of_escape_error h hne.1 hescape 0
    exact ⟨quote, s, stop', rfl, hne.2.1, hne.2.2, scan_quote hquote hquoted⟩

/-- What the reading of a whole text makes of a hex escape in it. -/
theorem tokenize_escapeAt {t after : Text} (h : EscapeAt t after) :
    (∀ lexemes, Term.tokenize t = .ok lexemes → ∃ value, EscapeReads after value) ∧
    ((∀ value, ¬ EscapeReads after value) → ∃ e, Term.tokenize t = .error (.decode e)) := by
  obtain ⟨u, hreaches, hliteral⟩ := h
  rcases escape_x_cases after with ⟨value, span, hreads, -⟩ | ⟨hnone, stop, hescape⟩
  · exact ⟨fun _ _ => ⟨value, hreads⟩, fun hnone => absurd hreads (hnone value)⟩
  · obtain ⟨c, rest, stop', rfl, hblank, hdigit, hscan⟩ := scan_of_escape_error hliteral hescape
    obtain ⟨front, ts, rfl, -⟩ := exists_reads_of_reaches hreaches
    have hrefused := tokenize_of_scan_error hreaches hblank hscan
    obtain ⟨e, he⟩ :=
      ((scan_error hdigit hscan).shift (front.length + 1)).failure (front ++ c :: rest)
    rw [he] at hrefused
    constructor
    · intro lexemes hlexemes
      rw [hrefused] at hlexemes
      cases hlexemes
    · exact fun _ => ⟨e, hrefused⟩

/-! ## Escapes of plain digits -/

/-- The hex escape has just two digits, or digits in braces, all of them plain. -/
inductive PlainEscape : Text → Nat → Prop where
  | pair {c d : CodePoint} {rest : Text} {n : Nat} (h : Spells 16 [c, d] n) :
    PlainEscape (c :: d :: rest) n
  | braces {p rest : Text} {n : Nat} (h : Spells 16 p n) :
    PlainEscape (CodePoint.ofChar '{' :: (p ++ CodePoint.ofChar '}' :: rest)) n

/-- No brace is among hex digits. -/
theorem brace_not_mem {p : Text} {n : Nat} (h : Spells 16 p n) :
    CodePoint.ofChar '{' ∉ p ∧ CodePoint.ofChar '}' ∉ p := by
  constructor
  all_goals
    intro hmem
    obtain ⟨d, hd, -⟩ := h.exists_isDigit _ hmem
    exact absurd hd.val_le (by decide)

/-- The digits of a plain escape are the ones that are read. -/
theorem PlainEscape.spells {after p : Text} {n : Nat} (h : PlainEscape after n)
    (hp : EscapeDigits after p) : Spells 16 p n ∧ 2 ≤ after.length := by
  obtain ⟨width, hwidth⟩ := hexDigits_of_escapeDigits hp
  cases h with
  | @pair c d rest _ hspells =>
    have hbrace : (c :: d :: rest).head? ≠ some (CodePoint.ofChar '{') := by
      intro hhead
      obtain rfl := Option.some.inj hhead
      exact (brace_not_mem hspells).1 List.mem_cons_self
    rw [hexDigits_pair hbrace] at hwidth
    obtain ⟨rfl, -⟩ := Prod.mk.inj (Except.ok.inj hwidth)
    exact ⟨hspells, by simp⟩
  | @braces q rest _ hspells =>
    rw [hexDigits_braces (brace_not_mem hspells).2] at hwidth
    obtain ⟨rfl, -⟩ := Prod.mk.inj (Except.ok.inj hwidth)
    refine ⟨hspells, ?_⟩
    rw [List.length_cons, List.length_append, List.length_cons]
    omega

/-- An escape that is read is a plain one if its digits are plain and it is not cut short. -/
theorem plainEscape_iff {after p : Text} {value : CodePoint} (hp : EscapeDigits after p)
    (h : SpellsLoosely 16 p value.val) :
    PlainEscape after value.val ↔ IsPlain 16 p ∧ 2 ≤ after.length := by
  constructor
  · intro hplain
    obtain ⟨hspells, hlength⟩ := hplain.spells hp
    exact ⟨hspells.isPlain, hlength⟩
  · rintro ⟨hplain, hlength⟩
    have hspells : Spells 16 p value.val := Numeral.spells_iff_spellsLoosely.mpr ⟨h, hplain⟩
    cases hp with
    | braces => exact .braces hspells
    | pair =>
      match after, hlength with
      | c :: d :: rest, _ => exact .pair hspells

end Faultline.Term.Lexer

namespace Faultline.Term

open Lexer (BasedAt BasedReads EscapeAt EscapeDigits EscapeReads PlainEscape)
open Numeral (IsPlain Spells SpellsLoosely decimalLimit decimalValue)

/-- The digits behind a base and those of a hex escape are read exactly if they are a loose spelling,
    of an integer in that base and of the number of a code point. In a text that is read to its end
    they are plain digits exactly if they are ASCII digits and letters without a mark, and a hex
    escape is not cut short by the end of the text. All others are refused as malformed, apart from
    a base of too many digits. -/
theorem tokenize_spellings (t : Text) :
    (∀ b p column, BasedAt t b p column →
      (∀ lexemes, tokenize t = .ok lexemes →
        ∃ n, BasedReads b p n ∧ ⟨.integer n, column⟩ ∈ lexemes ∧
          ((∃ m : Nat, n = m ∧ Spells (decimalValue b) p m) ↔ IsPlain (decimalValue b) p)) ∧
      ((∀ n, ¬ BasedReads b p n) →
        (b.length ≤ decimalLimit → ∃ e, tokenize t = .error (.decode e)) ∧
        (decimalLimit < b.length → tokenize t = .error (.longNumeral b.length)))) ∧
    ∀ after, EscapeAt t after →
      (∀ lexemes, tokenize t = .ok lexemes →
        ∃ p value, EscapeDigits after p ∧ SpellsLoosely 16 p (value : CodePoint).val ∧
          (PlainEscape after value.val ↔ IsPlain 16 p ∧ 2 ≤ after.length)) ∧
      ((∀ value, ¬ EscapeReads after value) → ∃ e, tokenize t = .error (.decode e)) := by
  constructor
  · intro b p column hbased
    obtain ⟨hread, hrefused⟩ := Lexer.tokenize_basedAt hbased
    refine ⟨?_, hrefused⟩
    intro lexemes hlexemes
    obtain ⟨n, hn, hmem⟩ := hread lexemes hlexemes
    exact ⟨n, hn, hmem, hn.spells.exists_spells_iff⟩
  · intro after hescape
    obtain ⟨hread, hrefused⟩ := Lexer.tokenize_escapeAt hescape
    refine ⟨?_, hrefused⟩
    intro lexemes hlexemes
    obtain ⟨value, p, hp, hspells⟩ := hread lexemes hlexemes
    exact ⟨p, value, hp, hspells, Lexer.plainEscape_iff hp hspells⟩

theorem tokenize_plainSpellings :
    (BasedAt (text "16#fF") (text "16") (text "fF") 1 ∧
      ∃ n, BasedReads (text "16") (text "fF") n ∧
        (⟨.integer n, 1⟩ : Lexeme) ∈ [⟨.integer 255, 1⟩, ⟨.eof, 6⟩] ∧
        ((∃ m : Nat, n = m ∧ Spells 16 (text "fF") m) ↔ IsPlain 16 (text "fF"))) ∧
    EscapeAt (text "\"\\x41\"") (text "41\"") ∧
      ∃ p value, EscapeDigits (text "41\"") p ∧ SpellsLoosely 16 p (value : CodePoint).val ∧
        (PlainEscape (text "41\"") value.val ↔ IsPlain 16 p ∧ 2 ≤ 3) := by
  have hbased : BasedAt (text "16#fF") (text "16") (text "fF") 1 :=
    @BasedAt.mk [] (text "6") (text "fF") '1' (by decide) (by decide) (.refl _)
  have hescape : EscapeAt (text "\"\\x41\"") (text "41\"") :=
    ⟨_, .refl _, .quoted (.inl rfl) (.refl _)⟩
  have hinteger : tokenize (text "16#fF") = .ok [⟨.integer 255, 1⟩, ⟨.eof, 6⟩] := by
    have hlexemes : (Lexer.lexFrom 1 (text "16#fF")).1 = [⟨.integer 255, 1⟩, ⟨.eof, 6⟩] := by
      decide +kernel
    rw [tokenize_eq_ok (Option.isNone_iff_eq_none.mp (by decide +kernel)), hlexemes]
  have hstring : tokenize (text "\"\\x41\"") = .ok [⟨.string (text "A"), 1⟩, ⟨.eof, 7⟩] := by
    have hlexemes : (Lexer.lexFrom 1 (text "\"\\x41\"")).1 =
        [⟨.string (text "A"), 1⟩, ⟨.eof, 7⟩] := by
      decide +kernel
    rw [tokenize_eq_ok (Option.isNone_iff_eq_none.mp (by decide +kernel)), hlexemes]
  exact ⟨⟨hbased, ((tokenize_spellings _).1 _ _ _ hbased).1 _ hinteger⟩,
    hescape, ((tokenize_spellings _).2 _ hescape).1 _ hstring⟩

/-- An Arabic digit is read behind a base, and a sign in a hex escape. -/
theorem tokenize_arabicThree :
    (BasedAt (text "16#\u0663") (text "16") (text "\u0663") 1 ∧
      tokenize (text "16#\u0663") = .ok [⟨.integer 3, 1⟩, ⟨.eof, 5⟩] ∧
      ∀ n, ¬ Spells 16 (text "\u0663") n) ∧
    EscapeAt (text "$\\x+f") (text "+f") ∧
      tokenize (text "$\\x+f") = .ok [⟨.char 15, 1⟩, ⟨.eof, 6⟩] ∧
      ∀ n, ¬ PlainEscape (text "+f") n := by
  have hbased : BasedAt (text "16#\u0663") (text "16") (text "\u0663") 1 :=
    @BasedAt.mk [] (text "6") (text "\u0663") '1' (by decide) (by decide) (.refl _)
  have hescape : EscapeAt (text "$\\x+f") (text "+f") := ⟨_, .refl _, .char _⟩
  have hinteger : (Lexer.lexFrom 1 (text "16#\u0663")).1 = [⟨.integer 3, 1⟩, ⟨.eof, 5⟩] := by
    decide +kernel
  have hchar : (Lexer.lexFrom 1 (text "$\\x+f")).1 = [⟨.char 15, 1⟩, ⟨.eof, 6⟩] := by
    decide +kernel
  refine ⟨⟨hbased, ?_, ?_⟩, hescape, ?_, ?_⟩
  · rw [tokenize_eq_ok (Option.isNone_iff_eq_none.mp (by decide +kernel)), hinteger]
  · intro n hn
    obtain ⟨d, hd, -⟩ := hn.exists_isDigit _ List.mem_cons_self
    exact absurd hd.val_le (by decide)
  · rw [tokenize_eq_ok (Option.isNone_iff_eq_none.mp (by decide +kernel)), hchar]
  · intro n hn
    obtain ⟨hspells, -⟩ := hn.spells (.pair (by decide))
    obtain ⟨d, hd, -⟩ := hspells.exists_isDigit _ List.mem_cons_self
    exact absurd hd.val_le (by decide)

end Faultline.Term
