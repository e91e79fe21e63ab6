import Faultline.Proofs.Fragment.Selection
import Faultline.Proofs.Term.RoundTrip

/-!
# Messages about structured tokens

A structured token that is written by the rules of the notation is reported with exactly the text
that it carries: the letter and the first part of a sigil, the name of an alias, the first element
of a wrapped list.

Results:
* `normalize_sigil`, `normalize_alias`, `normalize_list`: the diagnostic of each kind of token.
* `normalize_structured`: all three, for tokens as `render` writes them.
-/

namespace Faultline

open Term (Written Renderable render protect enclose)

/-- The text of the first element, if that is the text of a binary. -/
def leadingText? : List Term → Option Text
  | .binary t :: _ => some t
  | _ => none

/-- What is told of a list: its first element between double quotes if that is text, else a single
    double quote. -/
def listWords (elements : List Term) : Text :=
  match leadingText? elements with
  | some t => text "\"" ++ t ++ text "\""
  | none => text "\""

/-! ## Sigils -/

/-- The letter of a sigil is the code point with its number. -/
theorem letter_val (c : CodePoint) (whole : Text) :
    Structured.letter (.int c.val) whole = .ok [c] := by
  have hlt := c.val_lt
  have hwidth : 0x110000 ≤ Nat.pow 2 31 := by decide
  show (if Nat.pow 2 31 ≤ c.val then _ else _) = _
  have hofNat : CodePoint.ofNat? c.val = some c := dif_pos hlt
  rw [if_neg (by omega), hofNat]

theorem sigilOfTerm_of_elements (context : Term) (c : CodePoint) {parts first : Term}
    {more : List Term} (hparts : parts.listElements? = some (first :: more))
    (modifiers delimiter : Term) (whole : Text) :
    Structured.sigilOfTerm (.tuple [.atom (text "sigil"), context, .int c.val, parts, modifiers,
      delimiter]) whole = .ok (.sigil [c] ((leadingText? (first :: more)).getD [])) := by
  have hmarker : (Term.atom (text "sigil")).textOf? = some (text "sigil") := rfl
  rw [Structured.sigilOfTerm, if_pos hmarker, hparts]
  simp only [letter_val]
  cases first <;> rfl

/-- A sigil is reported with its letter and the first part of its content. -/
theorem normalize_sigil (line file : Value) {whole : Text} {context : Term} {c : CodePoint}
    {parts first : Term} {more : List Term} {modifiers delimiter : Term}
    (hmarker : Structured.sigilMarker <+: whole)
    (hwhole : Term.ofText whole =
      .ok (.tuple [.atom (text "sigil"), context, .int c.val, parts, modifiers, delimiter]))
    (hparts : parts.listElements? = some (first :: more)) :
    normalize line file (.string Lead.syntaxErrorBefore) (.string whole) =
      .ok ⟨.malformed, .string (text "syntax error before: sigil ~" ++ [c] ++
        text " starting with content '" ++ (leadingText? (first :: more)).getD [] ++ text "'"),
        file, line⟩ := by
  have hrule : Fragment.rule ⟨.before Lead.syntaxErrorBefore, whole⟩ = .sigil :=
    Fragment.rule_eq_sigil_iff.mpr ⟨rfl, hmarker⟩
  have hread : Structured.readSigil whole =
      .ok (.sigil [c] ((leadingText? (first :: more)).getD [])) := by
    rw [Structured.readSigil, hwhole]
    exact sigilOfTerm_of_elements context c hparts modifiers delimiter whole
  show (Fragment.rule ⟨.before Lead.syntaxErrorBefore, whole⟩).diagnose line file _ = _
  rw [hrule, Rule.diagnose, Rule.message, Rule.sigilMessage, hread]
  rfl

/-! ## Aliases -/

/-- An alias is reported with its name. -/
theorem normalize_alias (line file : Value) (front : Text) {whole name : Text}
    (hmarker : Structured.aliasMarker <+: whole)
    (hwhole : Term.ofText whole = .ok (.list [.atom name])) :
    normalize line file (.string front) (.string whole) =
      .ok ⟨.malformed, .string (front ++ name), file, line⟩ := by
  have hrule : Fragment.rule ⟨.before front, whole⟩ = .quotedAlias :=
    Fragment.rule_eq_quotedAlias_iff.mpr ⟨⟨front, rfl⟩, hmarker⟩
  have hmessage : Rule.quotedAlias.message ⟨.before front, whole⟩ = .ok (front ++ name) := by
    show Rule.aliasMessage front whole = _
    rw [Rule.aliasMessage, Structured.readAlias, hwhole]
    rfl
  show (Fragment.rule ⟨.before front, whole⟩).diagnose line file _ = _
  rw [hrule, Rule.diagnose, hmessage]
  rfl

/-! ## Lists -/

/-- The message about a list tells what is read of it. -/
theorem Rule.listMessage_eq (front token : Text) :
    listMessage front token =
      (Structured.readList token).map fun t => front ++ listWords (t.listElements?.getD []) := by
  unfold listMessage
  cases Structured.readList token with
  | error failure => rfl
  | ok t =>
    show _ = Except.ok (front ++ listWords (t.listElements?.getD []))
    simp only
    cases t.listElements? with
    | none => rfl
    | some elements =>
      cases elements with
      | nil => rfl
      | cons first more =>
        cases first with
        | binary content =>
          show Except.ok (front ++ text "\"" ++ content ++ text "\"") =
            Except.ok (front ++ (text "\"" ++ content ++ text "\""))
          rw [List.append_assoc, List.append_assoc, List.append_assoc]
        | _ => rfl

/-- A list is reported with its first element if that is text. -/
theorem normalize_list (line file : Value) (front : Text) {whole : Text} {v : Term}
    {elements : List Term} (hlist : Structured.listMarker <+: whole)
    (halias : ¬ Structured.aliasMarker <+: whole) (hwhole : Term.ofText whole = .ok v)
    (helements : v.listElements? = some elements) :
    normalize line file (.string front) (.string whole) =
      .ok ⟨.malformed, .string (front ++ listWords elements), file, line⟩ := by
  have hrule : Fragment.rule ⟨.before front, whole⟩ = .wrappedList :=
    Fragment.rule_eq_wrappedList_iff.mpr ⟨⟨front, rfl⟩, hlist, halias⟩
  have hread : Structured.readList whole = .ok v := by
    rw [Structured.readList, hwhole]
    simp [helements]
  have hmessage : Rule.wrappedList.message ⟨.before front, whole⟩ =
      .ok (front ++ listWords elements) := by
    show Rule.listMessage front whole = _
    rw [Rule.listMessage_eq, hread]
    show Except.ok (front ++ listWords (v.listElements?.getD [])) = _
    rw [helements, Option.getD_some]
  show (Fragment.rule ⟨.before front, whole⟩).diagnose line file _ = _
  rw [hrule, Rule.diagnose, hmessage]
  rfl

/-! ## Rendered tokens -/

/-- Only an atom is written with a single quote in front. -/
theorem exists_render_cons {v : Term} (hv : Renderable v) (hatom : ∀ name, v ≠ .atom name) :
    ∃ c rest, render v = c :: rest ∧ c ≠ '\'' := by
  cases hv with
  | atom name => exact absurd rfl (hatom name)
  | @int n h =>
    cases n with
    | ofNat n =>
      show ∃ c rest, Numeral.ofNat n = c :: rest ∧ c ≠ '\''
      cases hdigits : Numeral.ofNat n with
      | nil => exact absurd hdigits (Numeral.ofNat_ne_nil n)
      | cons c rest =>
        have hc : c.isAsciiDigit = true :=
          Numeral.isAsciiDigit_of_mem_ofNat n (hdigits ▸ List.mem_cons_self)
        refine ⟨c, rest, rfl, ?_⟩
        rintro rfl
        exact absurd hc (by decide)
    | negSucc n => exact ⟨_, _, rfl, by decide⟩
  | binary h => exact ⟨_, _, rfl, by decide⟩
  | tuple h => exact ⟨_, _, rfl, by decide⟩
  | list h => exact ⟨_, _, rfl, by decide⟩
  | improper hne h ht hlist => exact ⟨_, _, rfl, by decide⟩

theorem exists_join_cons {elements : List Term} (h : ∀ v ∈ elements, Renderable v)
    (hatom : ∀ name more, elements ≠ .atom name :: more) {c : CodePoint} (hc : c ≠ '\'')
    (rest : Text) : ∃ d more,
      Text.join (text ",") (Term.renderEach elements) ++ c :: rest = d :: more ∧ d ≠ '\'' := by
  cases elements with
  | nil => exact ⟨c, rest, rfl, hc⟩
  | cons first elements =>
    obtain ⟨d, more, hrender, hd⟩ := exists_render_cons (h first List.mem_cons_self)
      (fun name hname => hatom name elements (by rw [hname]))
    cases elements with
    | nil =>
      refine ⟨d, more ++ c :: rest, ?_, hd⟩
      show render first ++ c :: rest = _
      rw [hrender, List.cons_append]
    | cons next elements =>
      refine ⟨d, more ++ text "," ++
        Text.join (text ",") (Term.renderEach (next :: elements)) ++ c :: rest, ?_, hd⟩
      show render first ++ text "," ++
        Text.join (text ",") (Term.renderEach (next :: elements)) ++ c :: rest = _
      rw [hrender]
      rfl

theorem not_aliasMarker_prefix {c : CodePoint} (hc : c ≠ '\'') (rest : Text) :
    ¬ Structured.aliasMarker <+: CodePoint.ofChar '[' :: c :: rest := by
  rintro ⟨more, hmore⟩
  exact hc (List.cons.inj (List.cons.inj hmore).2).1.symm

/-- A list that `render` writes begins like an alias only if its first element is an atom. -/
theorem listMarker_prefix_render {v : Term} {elements : List Term} (hv : Renderable v)
    (helements : v.listElements? = some elements)
    (hatom : ∀ name more, elements ≠ .atom name :: more) :
    Structured.listMarker <+: render v ∧ ¬ Structured.aliasMarker <+: render v := by
  cases hv with
  | list h =>
    cases helements
    obtain ⟨d, more, hjoin, hd⟩ := exists_join_cons h hatom (c := ']') (by decide) []
    have hrender : render (.list elements) = CodePoint.ofChar '[' :: d :: more :=
      congrArg (CodePoint.ofChar '[' :: ·) hjoin
    rw [hrender]
    exact ⟨⟨_, rfl⟩, not_aliasMarker_prefix hd more⟩
  | @improper _ _ h tail ht hlist =>
    cases helements
    obtain ⟨d, more, hjoin, hd⟩ := exists_join_cons h hatom (c := '|') (by decide)
      (render tail ++ text "]")
    have hrender : render (.improper elements tail) = CodePoint.ofChar '[' :: d :: more := by
      rw [render, List.append_assoc, List.append_assoc]
      exact congrArg (CodePoint.ofChar '[' :: ·) hjoin
    rw [hrender]
    exact ⟨⟨_, rfl⟩, not_aliasMarker_prefix hd more⟩
  | atom | int | binary | tuple => cases helements

/-- The text of a sigil: context, letter, content, modifiers and delimiter behind the marker. -/
def sigilText (context : Term) (c : CodePoint) (parts modifiers delimiter : Term) : Text :=
  text "\x7bsigil," ++ render context ++ text "," ++ Numeral.ofNat c.val ++ text "," ++
    render parts ++ text "," ++ render modifiers ++ text "," ++ render delimiter ++ text "\x7d"

theorem ofText_sigilText {context parts modifiers delimiter : Term} (hcontext : Renderable context)
    (c : CodePoint) (hparts : Renderable parts) (hmodifiers : Renderable modifiers)
    (hdelimiter : Renderable delimiter) :
    Term.ofText (sigilText context c parts modifiers delimiter) = .ok (.tuple
      [.atom (text "sigil"), context, .int c.val, parts, modifiers, delimiter]) := by
  have hrenderable : Renderable (.tuple
      [.atom (text "sigil"), context, .int c.val, parts, modifiers, delimiter]) := by
    refine .tuple ?_
    simp only [List.forall_mem_cons]
    exact ⟨.atom _, hcontext, .int (Numeral.length_ofNat_val_le c), hparts, hmodifiers, hdelimiter,
      by simp⟩
  have hname : Written (.atom (text "sigil")) (text "sigil") :=
    .bareAtom (.mk (by decide) (by decide) (by decide))
  have hwritten := Written.tuple [(_, text "sigil"), (_, render context), (_, Numeral.ofNat c.val),
    (_, render parts), (_, render modifiers), (_, render delimiter)] (by
      simp only [List.forall_mem_cons]
      exact ⟨hname, Term.written_render hcontext, .int c.val, Term.written_render hparts,
        Term.written_render hmodifiers, Term.written_render hdelimiter, by simp⟩)
  have htext : text "\x7b" ++ Text.join (text ",") [text "sigil", render context,
      Numeral.ofNat c.val, render parts, render modifiers, render delimiter] ++ text "\x7d" =
      sigilText context c parts modifiers delimiter := by
    simp only [sigilText, Text.join, List.append_assoc]
    rfl
  have hread := Term.ofText_of_written hwritten hrenderable
  rw [← htext]
  exact hread

/-- The text of an alias: its name between single quotes in a list. -/
def aliasText (name : Text) : Text := text "['" ++ name.flatMap (protect '\'') ++ text "']"

theorem ofText_aliasText (name : Text) :
    Term.ofText (aliasText name) = .ok (.list [.atom name]) := by
  have hrenderable : Renderable (.list [.atom name]) :=
    .list (List.forall_mem_singleton.mpr (.atom name))
  have htext : render (.list [.atom name]) = aliasText name := by
    show text "[" ++ enclose '\'' name ++ text "]" = _
    rw [aliasText, enclose, List.append_assoc, List.append_assoc]
    simp only [List.cons_append, List.append_assoc]
    rfl
  rw [← htext]
  exact Term.ofText_of_written (Term.written_render hrenderable) hrenderable

/-! ## All structured tokens -/

/-- Structured tokens are reported with exactly the text that they carry: a sigil with its letter
    and the first part of its content, an alias with its name, and any other list with its first
    element, where parts and elements count if they are text. -/
theorem normalize_structured (line file : Value) :
    (∀ (context : Term) (c : CodePoint) (parts first : Term) (more : List Term)
      (modifiers delimiter : Term), Renderable context → Renderable parts → Renderable modifiers →
      Renderable delimiter → parts.listElements? = some (first :: more) →
      normalize line file (.string Lead.syntaxErrorBefore)
        (.string (sigilText context c parts modifiers delimiter)) =
        .ok ⟨.malformed, .string (text "syntax error before: sigil ~" ++ [c] ++
          text " starting with content '" ++ (leadingText? (first :: more)).getD [] ++ text "'"),
          file, line⟩) ∧
    (∀ front name : Text,
      normalize line file (.string front) (.string (aliasText name)) =
        .ok ⟨.malformed, .string (front ++ name), file, line⟩) ∧
    (∀ (front : Text) (v : Term) (elements : List Term), Renderable v →
      v.listElements? = some elements → (∀ name more, elements ≠ .atom name :: more) →
      normalize line file (.string front) (.string (render v)) =
        .ok ⟨.malformed, .string (front ++ listWords elements), file, line⟩) := by
  refine ⟨?_, ?_, ?_⟩
  · intro context c parts first more modifiers delimiter hcontext hp hmodifiers hdelimiter hparts
    have hread := ofText_sigilText hcontext c hp hmodifiers hdelimiter
    refine normalize_sigil line file ?_ hread hparts
    simp only [sigilText, List.append_assoc]
    exact List.prefix_append _ _
  · intro front name
    refine normalize_alias line file front ?_ (ofText_aliasText name)
    rw [aliasText, List.append_assoc]
    exact List.prefix_append _ _
  · intro front v elements hv helements hatom
    obtain ⟨hlist, halias⟩ := listMarker_prefix_render hv helements hatom
    have hread := Term.ofText_of_written (Term.written_render hv) hv
    exact normalize_list line file front hlist halias hread helements

/-- A sigil with an improper content, an alias with a quote in its name and a list that begins with
    text. -/
theorem normalize_structured_tokens :
    normalize (.int 3) (.string (text "a.ex")) (.string Lead.syntaxErrorBefore)
      (.string (text "\x7bsigil,[],115,[<<\"ab\"/utf8>>|'t'],[],<<\"/\"/utf8>>\x7d")) =
      .ok ⟨.malformed, .string (text "syntax error before: sigil ~s starting with content 'ab'"),
        .string (text "a.ex"), .int 3⟩ ∧
    normalize (.int 3) (.string (text "a.ex")) (.string (text "at "))
      (.string (text "['it\\'s']")) =
      .ok ⟨.malformed, .string (text "at it's"), .string (text "a.ex"), .int 3⟩ ∧
    normalize (.int 3) (.string (text "a.ex")) (.string (text "at "))
      (.string (text "[<<\"x\"/utf8>>,-1]")) =
      .ok ⟨.malformed, .string (text "at \"x\""), .string (text "a.ex"), .int 3⟩ := by
  obtain ⟨hsigil, halias, hlist⟩ := normalize_structured (.int 3) (.string (text "a.ex"))
  have hab : Renderable (.improper [.binary (text "ab")] (.atom (text "t"))) :=
    .improper (by simp) (List.forall_mem_singleton.mpr (.binary (by decide))) (.atom _) rfl
  have hx : Renderable (.list [.binary (text "x"), .int (-1)]) :=
    .list (List.forall_mem_cons.mpr ⟨.binary (by decide),
      List.forall_mem_singleton.mpr (.int (by decide +kernel))⟩)
  refine ⟨?_, ?_, ?_⟩
  · have htext : sigilText (.list []) 's' (.improper [.binary (text "ab")] (.atom (text "t")))
        (.list []) (.binary (text "/")) =
        text "\x7bsigil,[],115,[<<\"ab\"/utf8>>|'t'],[],<<\"/\"/utf8>>\x7d" := by
      decide +kernel
    have hmessage : text "syntax error before: sigil ~" ++ [CodePoint.ofChar 's'] ++
        text " starting with content '" ++ (leadingText? [.binary (text "ab")]).getD [] ++
        text "'" = text "syntax error before: sigil ~s starting with content 'ab'" := by
      decide +kernel
    rw [← htext, ← hmessage]
    exact hsigil _ 's' _ _ _ _ _ (.list (by simp)) hab (.list (by simp)) (.binary (by decide)) rfl
  · have htext : aliasText (text "it's") = text "['it\\'s']" := by
      decide +kernel
    rw [← htext]
    exact halias (text "at ") (text "it's")
  · have htext : render (.list [.binary (text "x"), .int (-1)]) = text "[<<\"x\"/utf8>>,-1]" := by
      decide +kernel
    rw [← htext]
    exact hlist (text "at ") _ _ hx rfl (by simp)

end Faultline
