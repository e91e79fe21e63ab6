import Faultline.Proofs.Fragment.Ending

/-!
# What the table of rules says

For every lead and every token the table of rules leads to one outcome, which can be told from the
lead and the head of the token. Rules that cannot word a pair of texts are never selected for one,
and what a structured token is read as, or why it cannot be read, is not replaced by the words of a
later rule.

Results:
* `kindsFit_ofText`: reading a term never fails about the kind of a value.
* `kind_rule`: the kind of the diagnostic depends on whether there is a token.
* `normalize_by_table`: the outcome for every fragment.
-/

namespace Faultline

/-! ## Failures about the kind of a value -/

/-- If it fails, the failure is not about the kind of a value. -/
def KindsFit {α : Type} (outcome : Outcome α) : Prop :=
  ∀ failure, outcome = .error failure → failure.category ≠ .wrongKind

theorem kindsFit_ok {α : Type} (a : α) : KindsFit (.ok a : Outcome α) := nofun

theorem kindsFit_error_iff {α : Type} {failure : Failure} :
    KindsFit (.error failure : Outcome α) ↔ failure.category ≠ .wrongKind := by
  constructor
  · intro h
    exact h failure rfl
  · rintro h _ ⟨⟩
    exact h

theorem KindsFit.map {α β : Type} {outcome : Outcome α} (h : KindsFit outcome) (f : α → β) :
    KindsFit (outcome.map f) := by
  cases outcome with
  | ok a => exact kindsFit_ok (f a)
  | error failure => exact kindsFit_error_iff.mpr (kindsFit_error_iff.mp h)

namespace Term

/-- A refusal that is not about the kind of a value, wherever it arises. -/
def Refusal.KindsFit (refusal : Refusal) : Prop :=
  ∀ whole column, (refusal.failure whole column).category ≠ .wrongKind

theorem Refusal.kindsFit_malformed (cause : Malformed) : (Refusal.malformed cause).KindsFit := by
  intro whole column
  rw [Refusal.failure]
  cases cause.isTooLong with
  | true => nofun
  | false => nofun

theorem BlamesToken.kindsFit {α : Type} {x : Except Refusal α} {refusal : Refusal}
    (hx : BlamesToken x) (h : x = .error refusal) : refusal.KindsFit := by
  obtain ⟨cause, rfl, -⟩ := hx refusal h
  exact Refusal.kindsFit_malformed cause

theorem kindsFit_of_utf8Bytes {t : Text} {refusal : Refusal} (h : utf8Bytes t = .error refusal) :
    refusal.KindsFit := by
  unfold utf8Bytes at h
  cases hencode : Utf8.encode t with
  | ok bytes =>
    rw [hencode] at h
    cases h
  | error run =>
    rw [hencode] at h
    cases h
    nofun

theorem kindsFit_of_codePointBytes {n : Int} {refusal : Refusal}
    (h : codePointBytes n = .error refusal) : refusal.KindsFit := by
  unfold codePointBytes at h
  split at h
  · split at h
    · exact kindsFit_of_utf8Bytes h
    · cases h
      exact Refusal.kindsFit_malformed _
  · cases h
    exact Refusal.kindsFit_malformed _

theorem kindsFit_of_sizedBytes {size n : Int} {refusal : Refusal}
    (h : sizedBytes size n = .error refusal) : refusal.KindsFit := by
  unfold sizedBytes at h
  split_ifs at h
  · cases h
    exact Refusal.kindsFit_malformed _
  · cases h
    nofun
  · cases h
    nofun

theorem kindsFit_of_bytes {s : Segment} {refusal : Refusal} (h : s.bytes = .error refusal) :
    refusal.KindsFit := by
  obtain ⟨value, size, types⟩ := s
  unfold Segment.bytes at h
  cases value with
  | chars t =>
    simp only at h
    split_ifs at h
    exact kindsFit_of_utf8Bytes h
  | float x =>
    cases h
    exact Refusal.kindsFit_malformed _
  | integer n =>
    simp only at h
    split_ifs at h
    · exact kindsFit_of_codePointBytes h
    · exact kindsFit_of_sizedBytes h

namespace Parser

theorem kindsFit_of_afterSegment {stack : List Frame} {bytes : List UInt8} {s : Segment}
    {t : Token} {refusal : Refusal} (h : afterSegment stack bytes s t = .error refusal) :
    refusal.KindsFit := by
  unfold afterSegment at h
  cases hbytes : s.bytes with
  | error inner =>
    rw [hbytes] at h
    cases h
    exact kindsFit_of_bytes hbytes
  | ok more =>
    rw [hbytes] at h
    simp only at h
    split at h
    · cases h
    · cases h
    · cases h
      exact Refusal.kindsFit_malformed _

/-- No move is refused for the kind of a value: the token is to blame, or the bytes of a segment. -/
theorem kindsFit_of_step {s : State} {t : Token} {refusal : Refusal}
    (h : step s t = .error refusal) : refusal.KindsFit := by
  by_cases hs : ∃ bytes phase, s.phase = .binary bytes phase
  · obtain ⟨bytes, phase, hphase⟩ := hs
    rw [step, hphase] at h
    simp only at h
    rcases endsSegment_or_blamesToken s.stack bytes phase t with ⟨segment, hends⟩ | hblames
    · rw [hends.insideBinary_eq] at h
      exact kindsFit_of_afterSegment h
    · exact hblames.kindsFit h
  · exact (blamesToken_step (fun bytes phase hphase => hs ⟨bytes, phase, hphase⟩) t).kindsFit h

end Parser

/-- Reading a term never fails about the kind of a value. -/
theorem kindsFit_ofText (t : Text) : KindsFit (ofText t) := by
  unfold ofText
  cases htokens : tokenize t with
  | error failure =>
    refine kindsFit_error_iff.mpr ?_
    unfold tokenize at htokens
    split at htokens
    · cases htokens
    · next stop _ =>
      cases htokens
      cases stop with
      | malformed cause column => nofun
      | longNumeral digits => nofun
  | ok lexemes =>
    intro failure h
    rcases Parser.exists_of_run_error h with ⟨_, l, _, _, refusal, _, _, hstep, rfl⟩ | ⟨_, _, _, rfl⟩
    · exact Parser.kindsFit_of_step hstep t l.column
    · nofun

end Term

namespace Structured

theorem kindsFit_refuse {α : Type} (cause : Term.Malformed) (whole : Text) :
    KindsFit (.error (refuse cause whole) : Outcome α) := by
  rw [kindsFit_error_iff, refuse]
  cases cause.isTooLong with
  | true => nofun
  | false => nofun

theorem kindsFit_letter (t : Term) (whole : Text) : KindsFit (letter t whole) := by
  unfold letter
  split
  · split_ifs
    · exact kindsFit_error_iff.mpr nofun
    · split
      · exact kindsFit_ok _
      · exact kindsFit_error_iff.mpr nofun
  · split_ifs
    · exact kindsFit_error_iff.mpr nofun
    · exact kindsFit_error_iff.mpr nofun
  · split
    · exact kindsFit_ok _
    · exact kindsFit_refuse _ _

/-- A sigil is refused for its shape, or it is read if its letter is. -/
theorem sigilOfTerm_cases (t : Term) (whole : Text) :
    (∃ cause, sigilOfTerm t whole = .error (refuse cause whole)) ∨
      ∃ char content, sigilOfTerm t whole = (letter char whole).map fun l => .sigil l content := by
  unfold sigilOfTerm
  split
  · next marker _ char parts _ _ =>
    split_ifs
    · split
      · next first _ _ =>
        refine .inr ⟨char, textOrEmpty first, ?_⟩
        cases letter char whole with
        | ok l => rfl
        | error failure => rfl
      · exact .inl ⟨_, rfl⟩
    · exact .inl ⟨_, rfl⟩
  · exact .inl ⟨_, rfl⟩

theorem kindsFit_readSigil (whole : Text) : KindsFit (readSigil whole) := by
  unfold readSigil
  cases hread : Term.ofText whole with
  | error failure => exact kindsFit_error_iff.mpr (Term.kindsFit_ofText whole failure hread)
  | ok t =>
    simp only
    rcases sigilOfTerm_cases t whole with ⟨cause, hrefuse⟩ | ⟨char, content, hletter⟩
    · rw [hrefuse]
      exact kindsFit_refuse cause whole
    · rw [hletter]
      exact (kindsFit_letter char whole).map _

/-- What is read as a sigil is one. -/
theorem exists_sigil_of_readSigil {whole : Text} {s : Structured} (h : readSigil whole = .ok s) :
    ∃ letter content, s = .sigil letter content := by
  unfold readSigil at h
  cases hread : Term.ofText whole with
  | error failure =>
    rw [hread] at h
    cases h
  | ok t =>
    rw [hread] at h
    simp only at h
    rcases sigilOfTerm_cases t whole with ⟨cause, hrefuse⟩ | ⟨char, content, hletter⟩
    · rw [hrefuse] at h
      cases h
    · rw [hletter] at h
      cases hchar : letter char whole with
      | error failure =>
        rw [hchar] at h
        cases h
      | ok l =>
        rw [hchar] at h
        cases h
        exact ⟨l, content, rfl⟩

theorem kindsFit_readAlias (whole : Text) : KindsFit (readAlias whole) := by
  unfold readAlias
  cases hread : Term.ofText whole with
  | error failure => exact kindsFit_error_iff.mpr (Term.kindsFit_ofText whole failure hread)
  | ok t =>
    simp only
    cases aliasName? t with
    | some name => exact kindsFit_ok name
    | none => exact kindsFit_refuse _ _

theorem kindsFit_readList (whole : Text) : KindsFit (readList whole) := by
  unfold readList
  cases hread : Term.ofText whole with
  | error failure => exact kindsFit_error_iff.mpr (Term.kindsFit_ofText whole failure hread)
  | ok t =>
    simp only
    split_ifs
    · exact kindsFit_ok t
    · exact kindsFit_refuse _ _

end Structured

/-! ## Messages of the selected rule -/

/-- The words about a sigil. -/
def sigilWords : Structured → Text
  | .sigil letter content =>
    text "syntax error before: sigil ~" ++ letter ++ text " starting with content '" ++ content ++
      text "'"
  | _ => []

namespace Rule

theorem sigilMessage_eq (token : Text) :
    sigilMessage token = (Structured.readSigil token).map sigilWords := by
  unfold sigilMessage
  cases hread : Structured.readSigil token with
  | error failure => rfl
  | ok s =>
    obtain ⟨letter, content, rfl⟩ := Structured.exists_sigil_of_readSigil hread
    rfl

theorem aliasMessage_eq (front token : Text) :
    aliasMessage front token = (Structured.readAlias token).map fun name => front ++ name := by
  unfold aliasMessage
  cases Structured.readAlias token with
  | error failure => rfl
  | ok name => rfl

end Rule

namespace Fragment

theorem message_eq_sigil {token : Text} (h : Structured.sigilMarker <+: token) :
    (rule ⟨.before Lead.syntaxErrorBefore, token⟩).message ⟨.before Lead.syntaxErrorBefore, token⟩ =
      (Structured.readSigil token).map sigilWords := by
  rw [rule_eq_sigil_iff.mpr ⟨rfl, h⟩, ← Rule.sigilMessage_eq]
  rfl

theorem message_eq_alias {front token : Text} (h : Structured.aliasMarker <+: token) :
    (rule ⟨.before front, token⟩).message ⟨.before front, token⟩ =
      (Structured.readAlias token).map fun name => front ++ name := by
  rw [rule_eq_quotedAlias_iff.mpr ⟨⟨front, rfl⟩, h⟩, ← Rule.aliasMessage_eq]
  rfl

theorem message_eq_list {front token : Text} (h : Structured.listMarker <+: token)
    (halias : ¬ Structured.aliasMarker <+: token) :
    (rule ⟨.before front, token⟩).message ⟨.before front, token⟩ =
      (Structured.readList token).map fun t => front ++ listWords (t.listElements?.getD []) := by
  rw [rule_eq_wrappedList_iff.mpr ⟨⟨front, rfl⟩, h, halias⟩, ← Rule.listMessage_eq]
  rfl

/-- A pair of texts goes around every token. -/
theorem message_of_pair (front back token : Text) :
    (rule ⟨.around front back, token⟩).message ⟨.around front back, token⟩ =
      .ok (front ++ token ++ back) := by
  rw [rule_of_pair]
  cases token with
  | nil =>
    rw [List.append_nil]
    rfl
  | cons c rest => rfl

/-- At the end of the input the words of an ordinary syntax error are replaced. -/
theorem rule_of_end (front : Text) :
    rule ⟨.before front, []⟩ =
      if front = Lead.syntaxErrorBefore then .incompleteExpression else .missingToken := by
  split
  · next h =>
    subst h
    rfl
  · next h =>
    have hlead : (Lead.before front).isSyntaxError = false :=
      Bool.eq_false_iff.mpr fun heq => h (Lead.before.inj (Lead.isSyntaxError_iff.mp heq))
    have happlies : Rule.incompleteExpression.applies ⟨.before front, []⟩ = false := by
      rw [Rule.applies, hlead, Bool.and_false]
    exact rule_eq_of_first [.incompleteExpression] rfl rfl
      (List.forall_mem_singleton.mpr happlies)

/-- The texts that do not simply go in front of the token. -/
def Special (front token : Text) : Prop :=
  front = Lead.syntaxErrorBefore ∧ (token = [] ∨ token = text "eol" ∨ token = text "'end'" ∨
    Structured.sigilMarker <+: token) ∨ Structured.listMarker <+: token

instance (front token : Text) : Decidable (Special front token) :=
  inferInstanceAs (Decidable (_ ∨ _))

theorem rule_eq_inFront {front token : Text} (hempty : token ≠ []) (h : ¬ Special front token) :
    rule ⟨.before front, token⟩ = .inFront := by
  have hlist : ¬ Structured.listMarker <+: token := fun hmarker => h (.inr hmarker)
  have happlies := applies_rule ⟨.before front, token⟩
  cases hrule : rule ⟨.before front, token⟩ with
  | inFront => rfl
  | incompleteExpression =>
    rw [hrule, Rule.applies, Bool.and_eq_true, List.isEmpty_iff] at happlies
    exact absurd happlies.1 hempty
  | missingToken =>
    rw [hrule, Rule.applies, List.isEmpty_iff] at happlies
    exact absurd happlies hempty
  | endOfLine =>
    rw [hrule, Rule.applies, Bool.and_eq_true, Lead.isSyntaxError_iff, beq_iff_eq] at happlies
    obtain ⟨hlead, rfl⟩ := happlies
    cases hlead
    exact absurd (.inl ⟨rfl, .inr (.inl rfl)⟩) h
  | danglingEnd =>
    rw [hrule, Rule.applies, Bool.and_eq_true, Lead.isSyntaxError_iff, beq_iff_eq] at happlies
    obtain ⟨hlead, rfl⟩ := happlies
    cases hlead
    exact absurd (.inl ⟨rfl, .inr (.inr (.inl rfl))⟩) h
  | sigil =>
    obtain ⟨hlead, hmarker⟩ := rule_eq_sigil_iff.mp hrule
    cases hlead
    exact absurd (.inl ⟨rfl, .inr (.inr (.inr hmarker))⟩) h
  | quotedAlias =>
    exact absurd (listMarker_of_aliasMarker (rule_eq_quotedAlias_iff.mp hrule).2) hlist
  | wrappedList => exact absurd (rule_eq_wrappedList_iff.mp hrule).2.1 hlist
  | around =>
    rw [hrule] at happlies
    cases happlies

/-- Everywhere else a text goes in front of the token, which may be empty. -/
theorem message_of_not_special {front token : Text} (h : ¬ Special front token) :
    (rule ⟨.before front, token⟩).message ⟨.before front, token⟩ = .ok (front ++ token) := by
  by_cases hempty : token = []
  · subst hempty
    rw [rule_of_end, List.append_nil, if_neg]
    · rfl
    · rintro rfl
      exact h (.inl ⟨rfl, .inl rfl⟩)
  · rw [rule_eq_inFront hempty h]
    rfl

/-! ## The table -/

/-- The rule that is selected is the first that matches; there is always one. -/
theorem exists_earlier_rules (f : Fragment) : ∃ earlier later,
    Rule.all = earlier ++ f.rule :: later ∧ f.rule.applies f = true ∧
      ∀ r ∈ earlier, r.applies f = false := by
  cases hfind : Rule.all.find? fun r => r.applies f with
  | none => exact absurd rfl (List.find?_eq_none.mp hfind .inFront (by decide))
  | some r =>
    have hrule : f.rule = r := by rw [rule, hfind, Option.getD_some]
    obtain ⟨happlies, earlier, later, hall, hearlier⟩ := List.find?_eq_some_iff_append.mp hfind
    subst hrule
    exact ⟨earlier, later, hall, happlies, fun s hs => by simpa using hearlier s hs⟩

/-- The kind of the diagnostic depends on whether there is a token. -/
theorem kind_rule (f : Fragment) :
    f.rule.kind = if f.token = [] then .missingToken else .malformed := by
  obtain ⟨lead, token⟩ := f
  cases token with
  | nil =>
    cases lead with
    | around front back => rfl
    | before front =>
      rw [rule_of_end]
      split
      · rfl
      · rfl
  | cons c rest =>
    have happlies := applies_rule ⟨lead, c :: rest⟩
    cases hrule : rule ⟨lead, c :: rest⟩ with
    | incompleteExpression | missingToken =>
      rw [hrule] at happlies
      cases happlies
    | _ => rfl

/-- The diagnostic of a fragment with a message. -/
def told (f : Fragment) (line file : Value) (message : Text) : Diagnostic :=
  ⟨if f.token = [] then .missingToken else .malformed, .string message, file, line⟩

/-- The outcome is the message of the selected rule, told with the kind of the fragment. -/
theorem normalize_eq_map (line file : Value) (f : Fragment) :
    normalize line file f.lead.toValue (.string f.token) =
      (f.rule.message f).map (f.told line file) := by
  rw [normalize_eq_diagnose, Rule.diagnose, kind_rule]
  cases f.rule.message f with
  | ok message => rfl
  | error failure => rfl

/-- No message fails about the kind of a value: a pair never meets a rule that needs a text. -/
theorem kindsFit_message (f : Fragment) : KindsFit (f.rule.message f) := by
  obtain ⟨lead, token⟩ := f
  by_cases hsigil : rule ⟨lead, token⟩ = .sigil
  · obtain ⟨hlead, hmarker⟩ := rule_eq_sigil_iff.mp hsigil
    obtain rfl : lead = .before Lead.syntaxErrorBefore := hlead
    rw [message_eq_sigil hmarker]
    exact (Structured.kindsFit_readSigil token).map _
  by_cases halias : rule ⟨lead, token⟩ = .quotedAlias
  · obtain ⟨⟨front, hlead⟩, hmarker⟩ := rule_eq_quotedAlias_iff.mp halias
    obtain rfl : lead = .before front := hlead
    rw [message_eq_alias hmarker]
    exact (Structured.kindsFit_readAlias token).map _
  by_cases hlist : rule ⟨lead, token⟩ = .wrappedList
  · obtain ⟨⟨front, hlead⟩, hmarker, hnot⟩ := rule_eq_wrappedList_iff.mp hlist
    obtain rfl : lead = .before front := hlead
    rw [message_eq_list hmarker hnot]
    exact (Structured.kindsFit_readList token).map _
  obtain ⟨message, hmessage⟩ := exists_message hsigil halias hlist
  rw [hmessage]
  exact kindsFit_ok message

theorem kind_told_iff (f : Fragment) (line file : Value) (message : Text) :
    ((f.told line file message).kind = .missingToken ↔ f.token = []) ∧
      ((f.told line file message).kind = .malformed ↔ f.token ≠ []) := by
  unfold told
  by_cases h : f.token = []
  · rw [if_pos h]
    exact ⟨iff_of_true rfl h, iff_of_false nofun (not_not_intro h)⟩
  · rw [if_neg h]
    exact ⟨iff_of_false nofun h, iff_of_true rfl h⟩

/-- What is read, or the failure to read it, is told as such. -/
theorem map_told_of_map {α : Type} {f : Fragment} {outcome : Outcome α} {words : α → Text}
    (h : f.rule.message f = outcome.map words) (line : Value) (file : Text) :
    (f.rule.message f).map (f.told line (.string file)) =
      outcome.map fun a => f.told line (.string file) (words a) := by
  rw [h]
  cases outcome with
  | ok a => rfl
  | error failure => rfl

/-- What the first rule that matches tells of a fragment. A pair goes around every token, and a text
    goes in front of every token but the special ones. These have messages of their own or are read
    as what they begin like, and a failure to read one is the failure of the fragment. -/
theorem normalize_by_table (line : Value) (file : Text) (f : Fragment) :
    (∃ earlier later, Rule.all = earlier ++ f.rule :: later ∧ f.rule.applies f = true ∧
      ∀ r ∈ earlier, r.applies f = false) ∧
    (∀ failure, normalize line (.string file) f.lead.toValue (.string f.token) = .error failure →
      failure.category ≠ .wrongKind) ∧
    (∀ d, normalize line (.string file) f.lead.toValue (.string f.token) = .ok d →
      (d.kind = .missingToken ↔ f.token = []) ∧ (d.kind = .malformed ↔ f.token ≠ [])) ∧
    (∀ front back, f.lead = .around front back →
      normalize line (.string file) f.lead.toValue (.string f.token) =
        .ok (f.told line (.string file) (front ++ f.token ++ back))) ∧
    (∀ front, f.lead = .before front → ¬ Special front f.token →
      normalize line (.string file) f.lead.toValue (.string f.token) =
        .ok (f.told line (.string file) (front ++ f.token))) ∧
    (f.lead = .before Lead.syntaxErrorBefore →
      (f.token = [] → normalize line (.string file) f.lead.toValue (.string f.token) =
        .ok (f.told line (.string file) Rule.incompleteMessage)) ∧
      (f.token = text "eol" → normalize line (.string file) f.lead.toValue (.string f.token) =
        .ok (f.told line (.string file) Rule.endOfLineMessage)) ∧
      (f.token = text "'end'" → normalize line (.string file) f.lead.toValue (.string f.token) =
        .ok (f.told line (.string file) Rule.danglingEndMessage)) ∧
      (Structured.sigilMarker <+: f.token →
        (∀ s, Structured.readSigil f.token = .ok s → ∃ letter content, s = .sigil letter content) ∧
        normalize line (.string file) f.lead.toValue (.string f.token) =
          (Structured.readSigil f.token).map fun s => f.told line (.string file) (sigilWords s))) ∧
    (∀ front, f.lead = .before front → Structured.listMarker <+: f.token →
      (Structured.aliasMarker <+: f.token →
        normalize line (.string file) f.lead.toValue (.string f.token) =
          (Structured.readAlias f.token).map fun name =>
            f.told line (.string file) (front ++ name)) ∧
      (¬ Structured.aliasMarker <+: f.token →
        normalize line (.string file) f.lead.toValue (.string f.token) =
          (Structured.readList f.token).map fun t =>
            f.told line (.string file) (front ++ listWords (t.listElements?.getD [])))) := by
  refine ⟨f.exists_earlier_rules, ?_⟩
  obtain ⟨lead, token⟩ := f
  rw [normalize_eq_map]
  refine ⟨?_, ?_, ?_, ?_, ?_, ?_⟩
  · exact (kindsFit_message ⟨lead, token⟩).map _
  · intro d hd
    cases hmessage : (rule ⟨lead, token⟩).message ⟨lead, token⟩ with
    | error failure =>
      rw [hmessage] at hd
      cases hd
    | ok message =>
      rw [hmessage] at hd
      cases hd
      exact kind_told_iff ⟨lead, token⟩ line (.string file) message
  · rintro front back rfl
    rw [message_of_pair]
    rfl
  · rintro front rfl hspecial
    rw [message_of_not_special hspecial]
    rfl
  · rintro rfl
    refine ⟨?_, ?_, ?_, ?_⟩
    · rintro rfl
      rfl
    · rintro rfl
      rfl
    · rintro rfl
      rfl
    · intro hmarker
      refine ⟨?_, map_told_of_map (message_eq_sigil hmarker) line file⟩
      intro s hs
      exact Structured.exists_sigil_of_readSigil hs
  · rintro front rfl hlist
    constructor
    · intro halias
      exact map_told_of_map (message_eq_alias halias) line file
    · intro halias
      exact map_told_of_map (message_eq_list hlist halias) line file

/-- A pair goes around what looks like an alias, a text goes in front of the end of a line, and a
    sigil whose letter is no code point is not told as plain text. -/
theorem normalize_overlappingRules :
    normalize (.int 3) (.string (text "a.ex"))
      (.tuple [.string (text "unexpected "), .string (text " here")]) (.string (text "['Foo']")) =
      .ok ⟨.malformed, .string (text "unexpected ['Foo'] here"), .string (text "a.ex"), .int 3⟩ ∧
    normalize (.int 3) (.string (text "a.ex")) (.string (text "other: ")) (.string (text "eol")) =
      .ok ⟨.malformed, .string (text "other: eol"), .string (text "a.ex"), .int 3⟩ ∧
    normalize (.int 3) (.string (text "a.ex")) (.string Lead.syntaxErrorBefore)
      (.string letterMinusOne) = .error .notACodePoint := by
  obtain ⟨-, -, -, haround, -, -, -⟩ := normalize_by_table (.int 3) (text "a.ex")
    ⟨.around (text "unexpected ") (text " here"), text "['Foo']"⟩
  obtain ⟨-, -, -, -, hinFront, -, -⟩ := normalize_by_table (.int 3) (text "a.ex")
    ⟨.before (text "other: "), text "eol"⟩
  obtain ⟨-, -, -, -, -, hspecial, -⟩ := normalize_by_table (.int 3) (text "a.ex")
    ⟨.before Lead.syntaxErrorBefore, letterMinusOne⟩
  refine ⟨haround _ _ rfl, hinFront _ rfl (by decide), ?_⟩
  have hread : Structured.readSigil letterMinusOne = .error .notACodePoint := by
    rw [Structured.readSigil, ofText_letterMinusOne]
    rfl
  obtain ⟨-, hsigil⟩ := (hspecial rfl).2.2.2 ⟨text "1,-1,[a],[],nil\x7d", by decide +kernel⟩
  rw [hread] at hsigil
  exact hsigil

end Fragment

end Faultline
