import Faultline.Proofs.Term.Acceptance
import Faultline.Proofs.Term.Unwritable

/-!
# The token that is refused

Lexemes that do not spell a term are refused at the first one that is wrong: those in front of it
begin lexemes that spell a term, and no such lexemes begin with it behind them. So the parser never
reads on past a mistake, and never complains about a token that could still be right.

Binaries are left out. What is wrong with a segment, such as a size that is no whole number of
bytes, is found only at the token behind it.

Results:
* `exists_advance_closings`: behind a complete term everything that is open can be closed.
* `exists_advance_accepted`: outside binaries every state leads to a term that is accepted.
* `parse_refuses_first`: lexemes are refused at the first one that is wrong.
-/

namespace Faultline.Term.Parser

/-! ## Closing what is open -/

/-- The mark that closes an open tuple or list. -/
def closing : Frame → Token
  | .tuple _ => .braceClose
  | .list _ => .bracketClose
  | .tail _ => .bracketClose

theorem closing_ne_string (frame : Frame) (t : Text) : closing frame ≠ .string t := by
  cases frame with
  | tuple done | list done | tail done => nofun

/-- Behind a complete term the mark that closes the innermost tuple or list completes it. -/
theorem exists_afterTerm_closing (frame : Frame) (stack : List Frame) (v : Term) :
    ∃ w, afterTerm v (frame :: stack) (closing frame) = .ok ⟨stack, .value w⟩ := by
  cases frame with
  | tuple done | list done | tail done => exact ⟨_, rfl⟩

/-- Behind a complete term everything that is open can be closed, from the inside out, and the term
    that this completes is accepted. -/
theorem exists_advance_closings (stack : List Frame) : ∀ {v : Term} {s : State},
    Complete stack v s →
      ∃ w, advance s (stack.map closing ++ [.dot, .eof]) = .ok ⟨[], .accepted w⟩ := by
  induction stack with
  | nil =>
    intro v s h
    have hdot : step s .dot = .ok ⟨[], .terminated v⟩ := h.step_eq (by simp)
    exact ⟨v, advance_cons hdot [.eof]⟩
  | cons frame stack ih =>
    intro v s h
    obtain ⟨w, hclosing⟩ := exists_afterTerm_closing frame stack v
    obtain ⟨whole, hwhole⟩ := ih (.value : Complete stack w ⟨stack, .value w⟩)
    refine ⟨whole, ?_⟩
    rw [List.map_cons, List.cons_append,
      advance_cons ((h.step_eq (closing_ne_string frame)).trans hclosing), hwhole]

/-- A token that leads to a complete term leads to one that is accepted. -/
theorem exists_advance_of_step {s next : State} {t : Token} {stack : List Frame} {v : Term}
    (hs : step s t = .ok next) (h : Complete stack v next) :
    ∃ ts stack' w, advance s ts = .ok ⟨stack', .accepted w⟩ := by
  obtain ⟨w, hw⟩ := exists_advance_closings stack h
  exact ⟨t :: _, [], w, (advance_cons hs _).trans hw⟩

/-- Outside binaries every state leads to a term that is accepted: a number serves where a term has
    to begin or stands behind a sign. -/
theorem exists_advance_accepted {s : State} (hs : ∀ bytes phase, s.phase ≠ .binary bytes phase) :
    ∃ ts stack v, advance s ts = .ok ⟨stack, .accepted v⟩ := by
  obtain ⟨stack, phase⟩ := s
  cases phase with
  | begin =>
    have hnumber : step ⟨stack, .begin⟩ (.integer 0) = .ok ⟨stack, .value (.int 0)⟩ :=
      step_begin stack (by simp) (by simp)
    exact exists_advance_of_step hnumber .value
  | signed negative => exact exists_advance_of_step (t := .integer 0) rfl .value
  | chars t =>
    obtain ⟨w, hw⟩ := exists_advance_closings stack
      (.chars rfl : Complete stack (codeList t) ⟨stack, .chars t⟩)
    exact ⟨_, [], w, hw⟩
  | binary bytes phase => exact absurd rfl (hs bytes phase)
  | value v =>
    obtain ⟨w, hw⟩ := exists_advance_closings stack
      (.value : Complete stack v ⟨stack, .value v⟩)
    exact ⟨_, [], w, hw⟩
  | terminated v => exact ⟨[.eof], stack, v, rfl⟩
  | accepted v => exact ⟨[], stack, v, rfl⟩

/-! ## Runs without binaries -/

/-- Only the mark that opens a binary leads into one. -/
theorem binaryOpen_mem_of_after {ts : List Token} {s : State} (h : After ts s)
    {bytes : List UInt8} {phase : SegmentPhase} (hphase : s.phase = .binary bytes phase) :
    .binaryOpen ∈ ts := by
  cases h with
  | opened h => simp
  | binary h parts hp hs => simp
  | _ => cases hphase

/-- Behind the end of the text there is nothing left to refuse. -/
theorem exists_accepted_of_eof_mem {ts : List Token} {s s' : State} (h : advance s ts = .ok s')
    (heof : .eof ∈ ts) : ∃ stack v, s' = ⟨stack, .accepted v⟩ := by
  obtain ⟨front, back, rfl⟩ := List.append_of_mem heof
  obtain ⟨before, -, hback⟩ := advance_append_eq_ok_iff.mp h
  cases hs : step before .eof with
  | error refusal =>
    rw [advance, hs] at hback
    cases hback
  | ok next =>
    obtain ⟨stack, v, rfl⟩ := accepted_of_step_eof hs
    rw [advance_cons hs, advance_accepted] at hback
    cases hback
    exact ⟨stack, v, rfl⟩

/-- No tokens are accepted that begin with others of which the last is refused. -/
theorem advance_ne_ok_of_refused {s next : State} {ts us : List Token} {t : Token}
    {refusal : Refusal} (hts : advance s ts = .ok next) (ht : step next t = .error refusal)
    (hus : ts ++ [t] <+: us) (s' : State) : advance s us ≠ .ok s' := by
  obtain ⟨rest, rfl⟩ := hus
  rw [List.append_assoc, advance_append _ hts, List.singleton_append, advance, ht]
  intro h
  cases h

end Faultline.Term.Parser

namespace Faultline.Term

/-- Lexemes that hold the end of the text and open no binary are refused at the first one that is
    wrong: a term is read from those in front of it with others behind them, and none from lexemes
    whose tokens begin with theirs and its own. -/
theorem parse_refuses_first {lexemes : List Lexeme} {whole : Text} {failure : Failure}
    (heof : ∃ l ∈ lexemes, l.token = .eof) (hbinary : ∀ l ∈ lexemes, l.token ≠ .binaryOpen)
    (h : parse lexemes whole = .error failure) :
    ∃ front l back cause, lexemes = front ++ l :: back ∧
      failure = .decode ⟨Malformed.message cause, whole, some l.column⟩ ∧
      (∃ more v, parse (front ++ more) whole = .ok v) ∧
      ∀ other text v, (front ++ [l]).map Lexeme.token <+: other.map Lexeme.token →
        parse other text ≠ .ok v := by
  rcases Parser.exists_of_run_error h with ⟨front, l, back, s, refusal, rfl, hfront, hstep, rfl⟩ |
    ⟨s, hrun, hphase, -⟩
  · have hs : ∀ bytes phase, s.phase ≠ .binary bytes phase := by
      intro bytes phase hinside
      have hopen := Parser.binaryOpen_mem_of_after (Parser.After.advance (.begin .bottom) hfront)
        hinside
      obtain ⟨opener, hmem, hopener⟩ := List.mem_map.mp hopen
      exact hbinary opener (List.mem_append_left _ hmem) hopener
    obtain ⟨cause, rfl, hshort⟩ := Parser.blamesToken_step hs l.token refusal hstep
    refine ⟨front, l, back, cause, rfl, ?_, ?_, ?_⟩
    · rw [Refusal.failure, hshort, if_neg Bool.false_ne_true]
    · obtain ⟨ts, stack, v, hts⟩ := Parser.exists_advance_accepted hs
      refine ⟨ts.map fun t => ⟨t, 0⟩, v, parse_eq_ok_iff_advance.mpr ⟨stack, ?_⟩⟩
      rw [List.map_append, Parser.advance_append _ hfront, List.map_map]
      simpa [Function.comp_def] using hts
    · intro other text v hother hv
      obtain ⟨stack, haccepted⟩ := parse_eq_ok_iff_advance.mp hv
      rw [List.map_append, List.map_singleton] at hother
      exact Parser.advance_ne_ok_of_refused hfront hstep hother _ haccepted
  · -- the tokens do not run out, because the end of the text is among them
    obtain ⟨last, hmem, hlast⟩ := heof
    obtain ⟨stack, v, rfl⟩ := Parser.exists_accepted_of_eof_mem hrun
      (List.mem_map.mpr ⟨last, hmem, hlast⟩)
    exact absurd rfl (hphase v)

/-- The lexemes of a tuple that is closed like a list. -/
def tupleClosedAsList : List Lexeme :=
  [⟨.braceOpen, 1⟩, ⟨.string (text "a"), 2⟩, ⟨.comma, 5⟩, ⟨.bracketOpen, 6⟩, ⟨.minus, 7⟩,
    ⟨.integer 1, 8⟩, ⟨.bracketClose, 9⟩, ⟨.bracketClose, 10⟩, ⟨.dot, 11⟩, ⟨.eof, 12⟩]

theorem parse_refuses_tupleClosedAsList :
    (∃ l ∈ tupleClosedAsList, l.token = .eof) ∧
    (∀ l ∈ tupleClosedAsList, l.token ≠ .binaryOpen) ∧
    parse tupleClosedAsList (text "?") =
      .error (.decode ⟨Malformed.openTuple.message, text "?", some 10⟩) ∧
    ∃ front l back cause, tupleClosedAsList = front ++ l :: back ∧
      Failure.decode ⟨Malformed.openTuple.message, text "?", some 10⟩ =
        .decode ⟨Malformed.message cause, text "?", some l.column⟩ ∧
      (∃ more v, parse (front ++ more) (text "?") = .ok v) ∧
      ∀ other text v, (front ++ [l]).map Lexeme.token <+: other.map Lexeme.token →
        parse other text ≠ .ok v := by
  have heof : ∃ l ∈ tupleClosedAsList, l.token = .eof := by decide
  have hbinary : ∀ l ∈ tupleClosedAsList, l.token ≠ .binaryOpen := by decide
  have herror : parse tupleClosedAsList (text "?") =
      .error (.decode ⟨Malformed.openTuple.message, text "?", some 10⟩) := rfl
  exact ⟨heof, hbinary, herror, parse_refuses_first heof hbinary herror⟩

end Faultline.Term
