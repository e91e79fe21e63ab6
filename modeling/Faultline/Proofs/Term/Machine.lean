import Faultline.Term.Parser

/-!
# Runs of the machine that reads tokens

`advance` moves the machine over tokens and keeps the state it reaches; `run` looks at the state at
the end of all lexemes only.

Results:
* `advance_append`, `advance_append_eq_ok_iff`: a run over two sequences is two runs.
* `exists_of_run_error`: where a run that fails comes to its end.
* `parse_eq_ok_iff_advance`: a term is read exactly if the machine accepts it at some point.
-/

namespace Faultline.Term.Parser

/-- The state after some tokens, or why one of them is refused. -/
def advance (s : State) : List Token → Except Refusal State
  | [] => .ok s
  | t :: ts =>
    match step s t with
    | .ok next => advance next ts
    | .error refusal => .error refusal

@[simp] theorem advance_nil (s : State) : advance s [] = .ok s := rfl

theorem advance_cons {s next : State} {t : Token} (h : step s t = .ok next) (ts : List Token) :
    advance s (t :: ts) = advance next ts := by
  rw [advance, h]

@[simp] theorem advance_singleton (s : State) (t : Token) : advance s [t] = step s t := by
  rw [advance]
  cases step s t <;> rfl

theorem advance_append {s next : State} {ts : List Token} (us : List Token)
    (h : advance s ts = .ok next) : advance s (ts ++ us) = advance next us := by
  induction ts generalizing s with
  | nil =>
    cases h
    rfl
  | cons t ts ih =>
    cases hs : step s t with
    | error refusal =>
      rw [advance, hs] at h
      cases h
    | ok s' =>
      rw [advance_cons hs] at h
      rw [List.cons_append, advance_cons hs, ih h]

theorem advance_append_eq_ok_iff {s s' : State} {ts us : List Token} :
    advance s (ts ++ us) = .ok s' ↔
      ∃ next, advance s ts = .ok next ∧ advance next us = .ok s' := by
  constructor
  · intro h
    induction ts generalizing s with
    | nil => exact ⟨s, rfl, h⟩
    | cons t ts ih =>
      cases hs : step s t with
      | error refusal =>
        rw [List.cons_append, advance, hs] at h
        cases h
      | ok next =>
        rw [List.cons_append, advance_cons hs] at h
        rw [advance_cons hs]
        exact ih h
  · rintro ⟨next, hts, hus⟩
    rw [advance_append us hts, hus]

/-- An accepted term is not lost. -/
theorem advance_accepted (stack : List Frame) (v : Term) (ts : List Token) :
    advance ⟨stack, .accepted v⟩ ts = .ok ⟨stack, .accepted v⟩ := by
  induction ts with
  | nil => rfl
  | cons t ts ih =>
    rw [advance_cons rfl, ih]

/-- Any token but a closing brace or bracket begins a term where one has to begin. -/
theorem step_begin (stack : List Frame) {t : Token} (hbrace : t ≠ .braceClose)
    (hbracket : t ≠ .bracketClose) : step ⟨stack, .begin⟩ t = beginTerm stack t := by
  show beginOrClose stack t = _
  unfold beginOrClose
  split
  · exact absurd rfl hbrace
  · exact absurd rfl hbracket
  · rfl

/-- Behind the opening mark of a binary any token but the closing one is taken like behind a comma. -/
theorem insideBinary_opened (stack : List Frame) (bytes : List UInt8) {t : Token}
    (ht : t ≠ .binaryClose) :
    insideBinary stack bytes .opened t = insideBinary stack bytes .begin t := by
  cases t with
  | binaryClose => exact absurd rfl ht
  | _ => rfl

theorem run_eq_ok_iff {whole : Text} {lexemes : List Lexeme} {v : Term} :
    ∀ {s : State}, run whole s lexemes = .ok v ↔
      ∃ stack, advance s (lexemes.map Lexeme.token) = .ok ⟨stack, .accepted v⟩ := by
  induction lexemes with
  | nil =>
    rintro ⟨stack, phase⟩
    cases phase with
    | accepted w => simp [run]
    | _ => simp [run]
  | cons l rest ih =>
    intro s
    rw [run, List.map_cons, advance]
    cases step s l.token with
    | ok next => exact ih
    | error refusal => simp

/-- A run fails at a token that is refused, or behind the last one if no term is accepted there. -/
theorem exists_of_run_error {whole : Text} {lexemes : List Lexeme} {failure : Failure} :
    ∀ {s : State}, run whole s lexemes = .error failure →
      (∃ front l back s' refusal, lexemes = front ++ l :: back ∧
        advance s (front.map Lexeme.token) = .ok s' ∧ step s' l.token = .error refusal ∧
        failure = refusal.failure whole l.column) ∨
      (∃ s', advance s (lexemes.map Lexeme.token) = .ok s' ∧ (∀ v, s'.phase ≠ .accepted v) ∧
        failure = .outOfTokens) := by
  induction lexemes with
  | nil =>
    rintro ⟨stack, phase⟩ h
    cases phase with
    | accepted v => cases h
    | _ =>
      cases h
      exact .inr ⟨_, rfl, by simp, rfl⟩
  | cons l rest ih =>
    intro s h
    rw [run] at h
    cases hs : step s l.token with
    | error refusal =>
      rw [hs] at h
      cases h
      exact .inl ⟨[], l, rest, s, refusal, rfl, rfl, hs, rfl⟩
    | ok next =>
      rw [hs] at h
      rcases ih h with ⟨front, l', back, s', refusal, rfl, hfront, hstep, hfailure⟩ |
        ⟨s', hrest, hphase, hfailure⟩
      · refine .inl ⟨l :: front, l', back, s', refusal, rfl, ?_, hstep, hfailure⟩
        rw [List.map_cons, advance_cons hs, hfront]
      · refine .inr ⟨s', ?_, hphase, hfailure⟩
        rw [List.map_cons, advance_cons hs, hrest]

/-- A run fails at the token that is refused. -/
theorem run_eq_error {whole : Text} {front back : List Lexeme} {l : Lexeme} {s' : State}
    {refusal : Refusal} (hstep : step s' l.token = .error refusal) :
    ∀ {s : State}, advance s (front.map Lexeme.token) = .ok s' →
      run whole s (front ++ l :: back) = .error (refusal.failure whole l.column) := by
  induction front with
  | nil =>
    intro s hfront
    cases hfront
    rw [List.nil_append, run, hstep]
  | cons first front ih =>
    intro s hfront
    cases hs : step s first.token with
    | error other =>
      rw [List.map_cons, advance, hs] at hfront
      cases hfront
    | ok next =>
      rw [List.map_cons, advance_cons hs] at hfront
      rw [List.cons_append, run, hs]
      exact ih hfront

end Faultline.Term.Parser

namespace Faultline.Term

/-- The terminator stands in front of the last lexeme. -/
theorem withTerminator_append_singleton (lexemes : List Lexeme) (last : Lexeme) :
    withTerminator (lexemes ++ [last]) = lexemes ++ [⟨.dot, last.column⟩, last] := by
  induction lexemes with
  | nil => rfl
  | cons l lexemes ih =>
    have hcons : withTerminator (l :: (lexemes ++ [last])) =
        l :: withTerminator (lexemes ++ [last]) := by
      cases lexemes <;> rfl
    rw [List.cons_append, hcons, ih, List.cons_append]

/-- A term is read exactly if the machine accepts it. -/
theorem parse_eq_ok_iff_advance {lexemes : List Lexeme} {whole : Text} {v : Term} :
    parse lexemes whole = .ok v ↔
      ∃ stack, Parser.advance .start (lexemes.map Lexeme.token) = .ok ⟨stack, .accepted v⟩ :=
  Parser.run_eq_ok_iff

end Faultline.Term
