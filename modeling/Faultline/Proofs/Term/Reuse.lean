import Faultline.Proofs.Term.Position

/-!
# Lexers that are used again

A lexer holds the lexemes it read last, and an iteration reads the text only if it holds none. After
any use it holds what stands in front of the first failure, or all lexemes if there is none. So
reading again gives what a fresh lexer gives, and so does an iteration, unless the text is cut short:
behind a failure that has a lexeme in front of it, an iteration gives the lexemes in front of the
failure and does not fail.

Results:
* `after_fresh`: what a lexer holds after any uses.
* `iterate_spent_of_not`, `exists_iterate_spent`: what an iteration gives then.
* `use_after`: when a use has the outcome of reading afresh, and when it is a proper one.
-/

namespace Faultline.Term

namespace Lexer

/-! ## Uses -/

/-- A use of a lexer: its text is read, or its lexemes are iterated over. -/
inductive Use where
  | tokenize
  | iterate
deriving DecidableEq

/-- The outcome of a use and the lexer after it. -/
def use (l : Lexer) : Use → Outcome (List Lexeme) × Lexer
  | .tokenize => l.tokenize
  | .iterate => l.iterate

/-- The lexer after uses, whatever their outcomes were. -/
def after (l : Lexer) (uses : List Use) : Lexer := uses.foldl (fun l u => (l.use u).2) l

/-- A lexer that holds what is read of its text. -/
def spent (t : Text) : Lexer := ⟨t, (lexFrom 1 t).1⟩

theorem use_fresh (t : Text) (u : Use) : (fresh t).use u = (Term.tokenize t, spent t) := by
  cases u with
  | tokenize | iterate => rfl

theorem iterate_spent (t : Text) :
    (spent t).iterate =
      (if (lexFrom 1 t).1 = [] then Term.tokenize t else .ok (lexFrom 1 t).1, spent t) := by
  unfold iterate
  simp only [List.isEmpty_iff]
  show (if (lexFrom 1 t).1 = [] then _ else _) = _
  split_ifs
  · rfl
  · rfl

/-- No use changes a spent lexer. -/
theorem use_spent (t : Text) (u : Use) : ((spent t).use u).2 = spent t := by
  cases u with
  | tokenize => rfl
  | iterate => exact congrArg Prod.snd (iterate_spent t)

theorem after_spent (t : Text) (uses : List Use) : (spent t).after uses = spent t := by
  induction uses with
  | nil => rfl
  | cons u uses ih =>
    rw [after, List.foldl_cons, use_spent]
    exact ih

/-- After any uses a lexer is spent. -/
theorem after_fresh (t : Text) {uses : List Use} (h : uses ≠ []) :
    (fresh t).after uses = spent t := by
  -- the first use spends the lexer, and no later one changes it
  obtain ⟨u, uses, rfl⟩ := List.exists_cons_of_ne_nil h
  rw [after, List.foldl_cons, use_fresh]
  exact after_spent t uses

/-! ## Texts that are cut short -/

/-- Reading fails behind a lexeme. -/
def IsCutShort (t : Text) : Prop := (lexFrom 1 t).1 ≠ [] ∧ (lexFrom 1 t).2 ≠ none

/-- The end of the text is among the lexemes only if nothing fails. -/
theorem ne_eof_of_stop {column : Nat} {t : Text} {lexemes : List Lexeme} {stop : Stop}
    (h : lexFrom column t = (lexemes, some stop)) : ∀ l ∈ lexemes, l.token ≠ .eof := by
  fun_induction lexFrom column t generalizing lexemes with
  | case1 => cases h
  | case2 column c rest hc ih => exact ih h
  | case3 =>
    cases h
    exact List.forall_mem_nil _
  | case4 column c rest hc token more hscan inner stop' hrest ih =>
    cases h
    refine List.forall_mem_cons.mpr ⟨?_, ih hrest⟩
    rintro rfl
    exact scan_ne_eof hscan

theorem tokenize_of_stop {t : Text} {stop : Stop} (h : (lexFrom 1 t).2 = some stop) :
    Term.tokenize t = .error (stop.failure t) := by
  unfold Term.tokenize
  generalize lexFrom 1 t = read at h
  obtain ⟨lexemes, stop⟩ := read
  cases h
  rfl

/-- An iteration over a spent lexer gives what reading gives, unless the text is cut short. -/
theorem iterate_spent_of_not {t : Text} (h : ¬ IsCutShort t) :
    (spent t).iterate.1 = Term.tokenize t := by
  rw [iterate_spent]
  dsimp only
  split_ifs with hempty
  · rfl
  · have hread : (lexFrom 1 t).2 = none :=
      Classical.byContradiction fun hstop => h ⟨hempty, hstop⟩
    exact (tokenize_eq_ok hread).symm

theorem iterate_spent_of_cutShort {t : Text} (h : IsCutShort t) :
    (spent t).iterate.1 = .ok (lexFrom 1 t).1 := by
  rw [iterate_spent]
  exact if_neg h.1

/-- If the text is cut short, an iteration gives lexemes without the end of the text, where reading
    fails. -/
theorem exists_iterate_spent {t : Text} (h : IsCutShort t) :
    ∃ lexemes failure, (spent t).iterate.1 = .ok lexemes ∧ lexemes ≠ [] ∧
      (∀ l ∈ lexemes, l.token ≠ .eof) ∧ Term.tokenize t = .error failure := by
  obtain ⟨stop, hstop⟩ := Option.ne_none_iff_exists'.mp h.2
  exact ⟨(lexFrom 1 t).1, stop.failure t, iterate_spent_of_cutShort h, h.1,
    ne_eof_of_stop (Prod.ext rfl hstop), tokenize_of_stop hstop⟩

end Lexer

open Lexer (Use IsCutShort fresh spent)

/-- A proper outcome: lexemes that end in the end of the text, or a text that is refused with a
    message about it. -/
inductive IsProper : Outcome (List Lexeme) → Prop where
  | read (front : List Lexeme) (column : Int) : IsProper (.ok (front ++ [⟨.eof, column⟩]))
  | refused (e : DecodeError) : IsProper (.error (.decode e))

/-- Reading has a proper outcome, unless it comes to a numeral that is too long. -/
theorem isProper_tokenize_iff {t : Text} :
    IsProper (tokenize t) ↔ ¬ Lexer.ReachesLongNumeral t := by
  rw [← settled_tokenize_iff]
  constructor
  · intro h
    cases hread : tokenize t with
    | ok lexemes => exact settled_ok lexemes
    | error failure =>
      rw [hread] at h
      cases h with
      | refused e => exact settled_error_iff.mpr ⟨e, rfl⟩
  · rintro (⟨lexemes, hread⟩ | ⟨e, hread⟩)
    · obtain ⟨front, last, rfl, hlast⟩ := exists_eof_of_tokenize hread
      obtain ⟨token, column⟩ := last
      cases hlast
      rw [hread]
      exact .read front column
    · rw [hread]
      exact .refused e

theorem not_isProper_of_ne_eof {lexemes : List Lexeme} (h : ∀ l ∈ lexemes, l.token ≠ .eof) :
    ¬ IsProper (.ok lexemes) := by
  intro hproper
  cases hproper with
  | read front column => exact h ⟨.eof, column⟩ (by simp) rfl

/-- A use is an iteration that hides a failure: the lexer was used before, and its text is cut
    short. -/
structure HidesFailure (t : Text) (before : List Use) (u : Use) : Prop where
  used : before ≠ []
  iterate : u = .iterate
  cutShort : IsCutShort t

theorem use_after_of_not {t : Text} {before : List Use} {u : Use} (h : ¬ HidesFailure t before u) :
    (((fresh t).after before).use u).1 = tokenize t := by
  by_cases hused : before = []
  · rw [hused]
    exact congrArg Prod.fst (Lexer.use_fresh t u)
  · rw [Lexer.after_fresh t hused]
    cases u with
    | tokenize => rfl
    | iterate => exact Lexer.iterate_spent_of_not fun hcut => h ⟨hused, rfl, hcut⟩

theorem HidesFailure.exists_outcome {t : Text} {before : List Use} {u : Use}
    (h : HidesFailure t before u) :
    ∃ lexemes failure, (((fresh t).after before).use u).1 = .ok lexemes ∧ lexemes ≠ [] ∧
      (∀ l ∈ lexemes, l.token ≠ .eof) ∧ tokenize t = .error failure := by
  obtain ⟨hused, rfl, hcut⟩ := h
  rw [Lexer.after_fresh t hused]
  exact Lexer.exists_iterate_spent hcut

/-- Every use of a lexer, whatever it was used for before, has the outcome of reading its text
    afresh, unless it hides a failure: then it gives lexemes without the end of the text. The
    outcome is a proper one, unless it hides a failure or a numeral is too long. -/
theorem use_after (t : Text) (before : List Use) (u : Use) :
    ((((fresh t).after before).use u).1 = tokenize t ↔ ¬ HidesFailure t before u) ∧
    (IsProper (((fresh t).after before).use u).1 ↔
      ¬ HidesFailure t before u ∧ ¬ Lexer.ReachesLongNumeral t) ∧
    (HidesFailure t before u → ∃ lexemes failure,
      (((fresh t).after before).use u).1 = .ok lexemes ∧ lexemes ≠ [] ∧
        (∀ l ∈ lexemes, l.token ≠ .eof) ∧ tokenize t = .error failure) := by
  by_cases h : HidesFailure t before u
  · obtain ⟨lexemes, failure, houtcome, hne, heof, herror⟩ := h.exists_outcome
    refine ⟨iff_of_false ?_ (not_not_intro h), iff_of_false ?_ fun hnot => hnot.1 h,
      fun _ => h.exists_outcome⟩
    · rw [houtcome, herror]
      exact nofun
    · rw [houtcome]
      exact not_isProper_of_ne_eof heof
  · rw [use_after_of_not h]
    exact ⟨iff_of_true rfl h, isProper_tokenize_iff.trans (by rw [and_iff_right h]),
      fun hhides => absurd hhides h⟩

/-- An atom in front of an open string: reading fails, and an iteration behind it gives the atom.
    And a numeral of 4301 digits has no proper outcome. -/
theorem use_after_openString :
    (((fresh (text "a\"")).after [.tokenize]).use .iterate).1 = .ok [⟨.atom (text "a"), 1⟩] ∧
      (∃ e, tokenize (text "a\"") = .error (.decode e)) ∧
      ¬ IsProper ((fresh (List.replicate 4301 (CodePoint.ofChar '1'))).use .tokenize).1 := by
  have hheld : (Lexer.lexFrom 1 (text "a\"")).1 = [⟨.atom (text "a"), 1⟩] := by decide +kernel
  have hcut : IsCutShort (text "a\"") := by
    refine ⟨by rw [hheld]; exact List.cons_ne_nil _ _, ?_⟩
    rw [← Option.isSome_iff_ne_none]
    decide +kernel
  have hshort : HasShortRuns (text "a\"") := by
    intro run hrun hparts
    have hlength : run.length ≤ 2 := hrun.length_le
    have hfilter := List.length_filter_le CodePoint.isAsciiDigit run
    have hlimit : 2 ≤ Numeral.decimalLimit := by decide
    omega
  refine ⟨?_, ?_, ?_⟩
  · rw [Lexer.after_fresh _ (List.cons_ne_nil _ _), ← hheld]
    exact Lexer.iterate_spent_of_cutShort hcut
  · obtain ⟨_, failure, -, -, -, herror⟩ := Lexer.exists_iterate_spent hcut
    have hproper := isProper_tokenize_iff.mpr (not_reachesLongNumeral hshort)
    rw [herror] at hproper ⊢
    cases hproper with
    | refused e => exact ⟨e, rfl⟩
  · rw [Lexer.use_fresh, isProper_tokenize_iff, Classical.not_not, List.replicate_succ,
      ← List.append_nil (List.replicate 4300 _)]
    have hdigits : ∀ d ∈ List.replicate 4300 (CodePoint.ofChar '1'), d.isAsciiDigit = true := by
      intro d hd
      rw [List.eq_of_mem_replicate hd]
      rfl
    refine ⟨_, .refl _, .mk (by decide) ?_ rfl ?_ nofun⟩
    · intro d hd
      rw [Lexer.isNumberPart, hdigits d hd, Bool.true_or]
    · rw [Lexer.withoutUnderscores_digits hdigits, List.length_cons, List.length_replicate]
      decide

end Faultline.Term
