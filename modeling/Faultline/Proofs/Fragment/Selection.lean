import Faultline.Fragment.Rule

/-!
# Which rule is selected

The rules for structured tokens look at the lead and at the head of the token. The rules in front of
them ask for particular tokens, none of which begins like a structured one, so the head decides.

Results:
* `rule_eq_sigil_iff`, `rule_eq_quotedAlias_iff`, `rule_eq_wrappedList_iff`: when each of these
  rules is selected.
* `exists_message`: every other rule that is selected has a message.
-/

namespace Faultline

namespace Lead

theorem isSyntaxError_iff {l : Lead} : l.isSyntaxError = true ↔ l = .before syntaxErrorBefore := by
  unfold isSyntaxError
  exact beq_iff_eq

theorem isSome_before?_iff {l : Lead} : l.before?.isSome = true ↔ ∃ front, l = .before front := by
  cases l with
  | before front => exact ⟨fun _ => ⟨front, rfl⟩, fun _ => rfl⟩
  | around front back =>
    constructor
    · intro h
      cases h
    · rintro ⟨_, h⟩
      cases h

end Lead

namespace Fragment

theorem startsWith_iff {t p : Text} : Text.startsWith t p = true ↔ p <+: t :=
  List.isPrefixOf_iff_prefix

/-- A rule that matches while those in front of it do not is selected. -/
theorem rule_eq_of_first {f : Fragment} (front : List Rule) {back : List Rule} {r : Rule}
    (hall : Rule.all = front ++ r :: back) (hr : r.applies f = true)
    (hfront : ∀ s ∈ front, s.applies f = false) : f.rule = r := by
  have hfind : Rule.all.find? (fun s => s.applies f) = some r := by
    rw [List.find?_eq_some_iff_append]
    exact ⟨hr, front, back, hall, fun s hs => by simp [hfront s hs]⟩
  rw [rule, hfind]
  rfl

/-- The rules that ask for a particular token. -/
def wholeTokenRules : List Rule := [.incompleteExpression, .missingToken, .endOfLine, .danglingEnd]

/-- None of them matches a token that begins with a brace or a bracket. -/
theorem applies_eq_false_of_head {f : Fragment} {c : CodePoint} {rest : Text}
    (hc : c = '{' ∨ c = '[') (ht : f.token = c :: rest) :
    ∀ s ∈ wholeTokenRules, s.applies f = false := by
  have hline : (f.token == text "eol") = false := by
    rw [ht]
    rcases hc with rfl | rfl
    · rfl
    · rfl
  have hend : (f.token == text "'end'") = false := by
    rw [ht]
    rcases hc with rfl | rfl
    · rfl
    · rfl
  have hempty : f.token.isEmpty = false := by
    rw [ht]
    rfl
  simp [wholeTokenRules, Rule.applies, hline, hend, hempty]

theorem rule_eq_sigil_iff {f : Fragment} :
    f.rule = .sigil ↔
      f.lead = .before Lead.syntaxErrorBefore ∧ Structured.sigilMarker <+: f.token := by
  have happlies : Rule.sigil.applies f = true ↔
      f.lead = .before Lead.syntaxErrorBefore ∧ Structured.sigilMarker <+: f.token := by
    rw [Rule.applies, Bool.and_eq_true, Lead.isSyntaxError_iff, startsWith_iff]
  rw [← happlies]
  constructor
  · intro h
    have := f.applies_rule
    rwa [h] at this
  · intro h
    obtain ⟨rest, hrest⟩ := (happlies.mp h).2
    exact rule_eq_of_first wholeTokenRules rfl h
      (applies_eq_false_of_head (.inl rfl) hrest.symm)

theorem sigil_applies_eq_false {f : Fragment} {rest : Text}
    (ht : f.token = CodePoint.ofChar '[' :: rest) : Rule.sigil.applies f = false := by
  rw [Rule.applies, ht]
  exact Bool.and_false _

theorem rule_eq_quotedAlias_iff {f : Fragment} :
    f.rule = .quotedAlias ↔
      (∃ front, f.lead = .before front) ∧ Structured.aliasMarker <+: f.token := by
  have happlies : Rule.quotedAlias.applies f = true ↔
      (∃ front, f.lead = .before front) ∧ Structured.aliasMarker <+: f.token := by
    rw [Rule.applies, Bool.and_eq_true, Lead.isSome_before?_iff, startsWith_iff]
  rw [← happlies]
  constructor
  · intro h
    have := f.applies_rule
    rwa [h] at this
  · intro h
    obtain ⟨rest, hrest⟩ := (happlies.mp h).2
    have hearly := applies_eq_false_of_head (f := f) (.inr rfl) hrest.symm
    exact rule_eq_of_first (wholeTokenRules ++ [.sigil]) rfl h (List.forall_mem_append.mpr
      ⟨hearly, List.forall_mem_singleton.mpr (sigil_applies_eq_false hrest.symm)⟩)

theorem rule_eq_wrappedList_iff {f : Fragment} :
    f.rule = .wrappedList ↔ (∃ front, f.lead = .before front) ∧
      Structured.listMarker <+: f.token ∧ ¬ Structured.aliasMarker <+: f.token := by
  have happlies : Rule.wrappedList.applies f = true ↔
      (∃ front, f.lead = .before front) ∧ Structured.listMarker <+: f.token := by
    rw [Rule.applies, Bool.and_eq_true, Lead.isSome_before?_iff, startsWith_iff]
  constructor
  · intro h
    have hr := f.applies_rule
    rw [h] at hr
    obtain ⟨hlead, hlist⟩ := happlies.mp hr
    refine ⟨hlead, hlist, ?_⟩
    intro halias
    rw [rule_eq_quotedAlias_iff.mpr ⟨hlead, halias⟩] at h
    cases h
  · rintro ⟨hlead, hlist, halias⟩
    have hr := happlies.mpr ⟨hlead, hlist⟩
    have hquoted : Rule.quotedAlias.applies f = false := by
      rw [Rule.applies, Bool.and_eq_false_iff]
      exact .inr (Bool.not_eq_true _ ▸ mt startsWith_iff.mp halias)
    obtain ⟨rest, hrest⟩ := hlist
    have hearly := applies_eq_false_of_head (f := f) (.inr rfl) hrest.symm
    refine rule_eq_of_first (wholeTokenRules ++ [.sigil, .quotedAlias]) rfl hr
      (List.forall_mem_append.mpr ⟨hearly, List.forall_mem_cons.mpr
        ⟨sigil_applies_eq_false hrest.symm, List.forall_mem_singleton.mpr hquoted⟩⟩)

/-- Around a pair of words no rule is selected that puts a text in front of the token. -/
theorem rule_of_pair (front back token : Text) :
    rule ⟨.around front back, token⟩ = if token.isEmpty then .missingToken else .around := by
  cases token with
  | nil => rfl
  | cons c rest => rfl

/-- Every other rule that is selected has a message. -/
theorem exists_message {f : Fragment} (hsigil : f.rule ≠ .sigil) (halias : f.rule ≠ .quotedAlias)
    (hlist : f.rule ≠ .wrappedList) : ∃ message, f.rule.message f = .ok message := by
  cases hrule : f.rule with
  | sigil => exact absurd hrule hsigil
  | quotedAlias => exact absurd hrule halias
  | wrappedList => exact absurd hrule hlist
  | incompleteExpression => exact ⟨_, rfl⟩
  | missingToken => exact ⟨_, rfl⟩
  | endOfLine => exact ⟨_, rfl⟩
  | danglingEnd => exact ⟨_, rfl⟩
  | around =>
    obtain ⟨lead, token⟩ := f
    cases lead with
    | before front => exact ⟨_, rfl⟩
    | around front back => exact ⟨_, rfl⟩
  | inFront =>
    obtain ⟨lead, token⟩ := f
    cases lead with
    | before front => exact ⟨_, rfl⟩
    | around front back =>
      rw [rule_of_pair] at hrule
      split at hrule
      · cases hrule
      · cases hrule

end Fragment

end Faultline
