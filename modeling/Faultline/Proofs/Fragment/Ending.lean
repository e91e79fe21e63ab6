import Faultline.Proofs.Diagnostic.Raising
import Faultline.Proofs.Fragment.Message
import Faultline.Proofs.Term.Unwritable

/-!
# How reporting a fragment ends

Reporting a fragment should end with a diagnostic, or with the refusal of a structured token that is
malformed. It does for all fragments but those of `Fragment.Unreportable`: tokens that are not
decoded and not refused with a message either, and sigils whose letter is no code point or too long
to be told. And it does for all lines but those that are too long to be written, at which no
diagnostic can be raised.

Results:
* `settled_read_iff`: which structured tokens are read or refused with a message.
* `parseError_ends_iff`: which fragments are reported or refused with a message, and both at once.
-/

namespace Faultline

open Term (Undecodable Renderable Written)

/-! ## Sigils -/

/-- The letter of a sigil that is a number but not of a code point, or that is no text either and
    holds an integer that is too long to be told. -/
inductive BadLetter : Term → Prop where
  | number {n : Int} (h : n < 0 ∨ 0x110000 ≤ n) : BadLetter (.int n)
  | long {t : Term} (hnumber : ∀ n, t ≠ .int n) (htext : t.textOf? = none)
    (hlong : t.isTooLong = true) : BadLetter t

/-- A term of the shape of a sigil with such a letter. -/
inductive BadSigil : Term → Prop where
  | mk {marker context letter parts modifiers delimiter first : Term} {more : List Term}
    (hmarker : marker.textOf? = some (text "sigil"))
    (hparts : parts.listElements? = some (first :: more)) (hletter : BadLetter letter) :
    BadSigil (.tuple [marker, context, letter, parts, modifiers, delimiter])

theorem badLetter_int_iff {n : Int} : BadLetter (.int n) ↔ n < 0 ∨ 0x110000 ≤ n := by
  constructor
  · intro h
    cases h with
    | number h => exact h
    | long hnumber => exact absurd rfl (hnumber n)
  · exact .number

theorem badLetter_iff_isTooLong {t : Term} (hnumber : ∀ n, t ≠ .int n) (htext : t.textOf? = none) :
    BadLetter t ↔ t.isTooLong = true := by
  constructor
  · intro h
    cases h with
    | @number n => exact absurd rfl (hnumber n)
    | long _ _ hlong => exact hlong
  · exact .long hnumber htext

theorem not_badLetter_of_text {t : Term} {s : Text} (htext : t.textOf? = some s) :
    ¬ BadLetter t := by
  intro h
  cases h with
  | number => cases htext
  | long _ hnone =>
    rw [hnone] at htext
    cases htext

namespace Structured

theorem settled_refuse_iff {α : Type} {cause : Term.Malformed} {whole : Text} :
    Settled (.error (refuse cause whole) : Outcome α) ↔ cause.isTooLong = false := by
  rw [settled_error_iff]
  unfold refuse
  cases cause.isTooLong with
  | true => simp
  | false => simp

theorem settled_letter_int_iff {n : Int} {whole : Text} :
    Settled (letter (.int n) whole) ↔ ¬ BadLetter (.int n) := by
  rw [badLetter_int_iff]
  cases n with
  | ofNat k =>
    by_cases hk : k < 0x110000
    · have hletter : letter (.int (.ofNat k)) whole = .ok [⟨k, hk⟩] := letter_val ⟨k, hk⟩ whole
      rw [hletter]
      refine iff_of_true (settled_ok _) ?_
      simp only [Int.ofNat_eq_natCast]
      omega
    · have hofNat : CodePoint.ofNat? k = none := dif_neg hk
      rw [letter, hofNat]
      refine iff_of_false ?_ ?_
      · split
        · simp [settled_error_iff]
        · simp [settled_error_iff]
      · simp only [Int.ofNat_eq_natCast]
        omega
  | negSucc k =>
    refine iff_of_false ?_ (not_not_intro (.inl (Int.negSucc_lt_zero k)))
    rw [letter]
    split
    · simp [settled_error_iff]
    · simp [settled_error_iff]

/-- A letter that is neither a number nor a text is refused. -/
theorem settled_letter_refuse_iff {t : Term} {whole : Text} (hnumber : ∀ n, t ≠ .int n)
    (htext : t.textOf? = none)
    (hletter : letter t whole = .error (refuse (.sigilLetter t) whole)) :
    Settled (letter t whole) ↔ ¬ BadLetter t := by
  rw [hletter, settled_refuse_iff, badLetter_iff_isTooLong hnumber htext, Bool.not_eq_true]
  exact Iff.rfl

theorem settled_letter_iff (t : Term) (whole : Text) :
    Settled (letter t whole) ↔ ¬ BadLetter t := by
  cases t with
  | int n => exact settled_letter_int_iff
  | atom name => exact iff_of_true (settled_ok name) (not_badLetter_of_text rfl)
  | binary t => exact iff_of_true (settled_ok t) (not_badLetter_of_text rfl)
  | float x => exact settled_letter_refuse_iff (by simp) rfl rfl
  | tuple elements => exact settled_letter_refuse_iff (by simp) rfl rfl
  | list elements => exact settled_letter_refuse_iff (by simp) rfl rfl
  | improper elements tail => exact settled_letter_refuse_iff (by simp) rfl rfl

theorem settled_sigilOfTerm_iff {t : Term} {whole : Text} :
    Settled (sigilOfTerm t whole) ↔ ¬ BadSigil t := by
  unfold sigilOfTerm
  split
  · next marker context char parts modifiers delimiter =>
    split_ifs with hmarker
    · split
      · next first more hparts =>
        have hsigil : BadSigil (.tuple [marker, context, char, parts, modifiers, delimiter]) ↔
            BadLetter char := by
          constructor
          · intro h
            cases h with
            | mk _ _ hletter => exact hletter
          · exact .mk hmarker hparts
        rw [hsigil, ← settled_letter_iff char whole]
        cases letter char whole with
        | ok l => exact iff_of_true (settled_ok _) (settled_ok l)
        | error failure => rw [settled_error_iff, settled_error_iff]
      · next hparts =>
        refine iff_of_true (settled_refuse_iff.mpr rfl) ?_
        intro h
        cases h with
        | mk _ hparts' => exact hparts _ _ hparts'
    · refine iff_of_true (settled_refuse_iff.mpr rfl) ?_
      intro h
      cases h with
      | mk hmarker' => exact hmarker hmarker'
  · next hshape =>
    refine iff_of_true (settled_refuse_iff.mpr rfl) ?_
    intro h
    cases h with
    | mk => exact hshape _ _ _ _ _ _ rfl

/-! ## Reading structured tokens -/

/-- The text is a token that is neither read as a sigil nor refused with a message. -/
inductive UnreadableSigil (whole : Text) : Prop where
  | undecodable (h : Undecodable whole)
  | sigil {t : Term} (ht : Term.ofText whole = .ok t) (h : BadSigil t)

theorem settled_of_ofText_error {α : Type} {whole : Text} {failure : Failure}
    (h : Term.ofText whole = .error failure) :
    Settled (.error failure : Outcome α) ↔ ¬ Undecodable whole := by
  rw [← Term.settled_ofText_iff, h, settled_error_iff, settled_error_iff]

theorem not_undecodable_of_ofText {whole : Text} {t : Term} (h : Term.ofText whole = .ok t) :
    ¬ Undecodable whole := by
  rw [← Term.settled_ofText_iff, h]
  exact settled_ok t

/-- A text is unreadable as a sigil if it is not decoded without being refused. -/
theorem unreadableSigil_iff_of_error {whole : Text} {failure : Failure}
    (h : Term.ofText whole = .error failure) : UnreadableSigil whole ↔ Undecodable whole := by
  constructor
  · intro hunreadable
    cases hunreadable with
    | undecodable h => exact h
    | sigil ht =>
      rw [h] at ht
      cases ht
  · exact .undecodable

theorem unreadableSigil_iff_of_ok {whole : Text} {t : Term} (h : Term.ofText whole = .ok t) :
    UnreadableSigil whole ↔ BadSigil t := by
  constructor
  · intro hunreadable
    cases hunreadable with
    | undecodable hundecodable => exact absurd hundecodable (not_undecodable_of_ofText h)
    | sigil ht hbad =>
      rw [h] at ht
      cases ht
      exact hbad
  · exact .sigil h

theorem settled_readSigil_iff {whole : Text} :
    Settled (readSigil whole) ↔ ¬ UnreadableSigil whole := by
  unfold readSigil
  cases hread : Term.ofText whole with
  | ok t => rw [unreadableSigil_iff_of_ok hread, settled_sigilOfTerm_iff]
  | error failure => rw [unreadableSigil_iff_of_error hread, settled_of_ofText_error hread]

theorem settled_readAlias_iff {whole : Text} : Settled (readAlias whole) ↔ ¬ Undecodable whole := by
  unfold readAlias
  cases hread : Term.ofText whole with
  | ok t =>
    refine iff_of_true ?_ (not_undecodable_of_ofText hread)
    simp only
    cases aliasName? t with
    | some name => exact settled_ok name
    | none => exact settled_refuse_iff.mpr rfl
  | error failure => exact settled_of_ofText_error hread

theorem settled_readList_iff {whole : Text} : Settled (readList whole) ↔ ¬ Undecodable whole := by
  unfold readList
  cases hread : Term.ofText whole with
  | ok t =>
    refine iff_of_true ?_ (not_undecodable_of_ofText hread)
    simp only
    split_ifs
    · exact settled_ok t
    · exact settled_refuse_iff.mpr rfl
  | error failure => exact settled_of_ofText_error hread

theorem isSigilTuple_of_badSigil {t : Term} (h : BadSigil t) : isSigilTuple t = true := by
  cases h with
  | mk hmarker hparts hletter =>
    rw [isSigilTuple, hmarker]
    exact beq_self_eq_true _

/-- Which structured tokens are read or refused with a message. -/
theorem settled_read_iff {whole : Text} : Settled (read whole) ↔ ¬ UnreadableSigil whole := by
  unfold read
  cases hread : Term.ofText whole with
  | error failure => rw [unreadableSigil_iff_of_error hread, settled_of_ofText_error hread]
  | ok t =>
    rw [unreadableSigil_iff_of_ok hread]
    simp only
    by_cases hsigil : isSigilTuple t = true
    · rw [if_pos hsigil]
      exact settled_sigilOfTerm_iff
    · refine iff_of_true ?_ (mt isSigilTuple_of_badSigil hsigil)
      rw [if_neg hsigil]
      split_ifs
      · cases aliasName? t with
        | none => exact settled_ok _
        | some name => exact settled_ok _
      · cases aliasName? t with
        | none => exact settled_ok _
        | some name => exact settled_ok _
      · exact settled_refuse_iff.mpr rfl

end Structured

/-! ## Reporting fragments -/

/-- A fragment that is neither reported nor refused with a message. -/
inductive Fragment.Unreportable : Fragment → Prop where
  /-- The token begins like a sigil and is no readable one. -/
  | sigil {token : Text} (hmarker : Structured.sigilMarker <+: token)
    (h : Structured.UnreadableSigil token) : Unreportable ⟨.before Lead.syntaxErrorBefore, token⟩
  /-- The token begins like a list and is not decoded. -/
  | list {front token : Text} (hmarker : Structured.listMarker <+: token)
    (h : Undecodable token) : Unreportable ⟨.before front, token⟩

namespace Rule

theorem settled_sigilMessage_iff {token : Text} :
    Settled (sigilMessage token) ↔ ¬ Structured.UnreadableSigil token := by
  rw [← Structured.settled_readSigil_iff]
  unfold sigilMessage
  cases Structured.readSigil token with
  | error failure => rw [settled_error_iff, settled_error_iff]
  | ok s =>
    refine iff_of_true ?_ (settled_ok s)
    cases s with
    | sigil letter content => exact settled_ok _
    | identifier name | list t => exact Structured.settled_refuse_iff.mpr rfl

theorem settled_aliasMessage_iff {front token : Text} :
    Settled (aliasMessage front token) ↔ ¬ Undecodable token := by
  rw [← Structured.settled_readAlias_iff]
  unfold aliasMessage
  cases Structured.readAlias token with
  | error failure => exact Iff.rfl
  | ok name => exact iff_of_true (settled_ok _) (settled_ok name)

theorem settled_listMessage_iff {front token : Text} :
    Settled (listMessage front token) ↔ ¬ Undecodable token := by
  rw [← Structured.settled_readList_iff]
  unfold listMessage
  cases Structured.readList token with
  | error failure => rw [settled_error_iff, settled_error_iff]
  | ok t =>
    refine iff_of_true ?_ (settled_ok t)
    simp only
    split
    · exact settled_ok _
    · exact settled_ok _

end Rule

namespace Fragment

theorem not_sigilMarker_of_listMarker {token : Text} (hlist : Structured.listMarker <+: token) :
    ¬ Structured.sigilMarker <+: token := by
  obtain ⟨rest, hrest⟩ := hlist
  rintro ⟨rest', hrest'⟩
  have hhead := (List.cons.inj (hrest'.trans hrest.symm)).1
  exact absurd hhead (by decide)

theorem listMarker_of_aliasMarker {token : Text} (h : Structured.aliasMarker <+: token) :
    Structured.listMarker <+: token :=
  List.IsPrefix.trans ⟨['\''], rfl⟩ h

theorem rule_of_listMarker {front token : Text} (h : Structured.listMarker <+: token) :
    rule ⟨.before front, token⟩ = .quotedAlias ∨ rule ⟨.before front, token⟩ = .wrappedList := by
  by_cases halias : Structured.aliasMarker <+: token
  · exact .inl (rule_eq_quotedAlias_iff.mpr ⟨⟨front, rfl⟩, halias⟩)
  · exact .inr (rule_eq_wrappedList_iff.mpr ⟨⟨front, rfl⟩, h, halias⟩)

theorem unreportable_sigil_iff {token : Text} (h : Structured.sigilMarker <+: token) :
    Unreportable ⟨.before Lead.syntaxErrorBefore, token⟩ ↔ Structured.UnreadableSigil token := by
  constructor
  · intro hunreportable
    cases hunreportable with
    | sigil _ h => exact h
    | list hlist => exact absurd h (not_sigilMarker_of_listMarker hlist)
  · exact .sigil h

theorem unreportable_list_iff {front token : Text} (h : Structured.listMarker <+: token) :
    Unreportable ⟨.before front, token⟩ ↔ Undecodable token := by
  constructor
  · intro hunreportable
    cases hunreportable with
    | sigil hsigil => exact absurd hsigil (not_sigilMarker_of_listMarker h)
    | list _ h => exact h
  · exact .list h

/-- Which fragments have a message or are refused with one. -/
theorem settled_message_iff {f : Fragment} : Settled (f.rule.message f) ↔ ¬ f.Unreportable := by
  by_cases hsigil : f.rule = .sigil
  · obtain ⟨lead, token⟩ := f
    obtain ⟨hlead, hmarker⟩ := rule_eq_sigil_iff.mp hsigil
    obtain rfl : lead = .before Lead.syntaxErrorBefore := hlead
    rw [hsigil, unreportable_sigil_iff hmarker]
    exact Rule.settled_sigilMessage_iff
  by_cases halias : f.rule = .quotedAlias
  · obtain ⟨lead, token⟩ := f
    obtain ⟨⟨front, hlead⟩, hmarker⟩ := rule_eq_quotedAlias_iff.mp halias
    obtain rfl : lead = .before front := hlead
    rw [halias, unreportable_list_iff (listMarker_of_aliasMarker hmarker)]
    exact Rule.settled_aliasMessage_iff
  by_cases hlist : f.rule = .wrappedList
  · obtain ⟨lead, token⟩ := f
    obtain ⟨⟨front, hlead⟩, hmarker, -⟩ := rule_eq_wrappedList_iff.mp hlist
    obtain rfl : lead = .before front := hlead
    rw [hlist, unreportable_list_iff hmarker]
    exact Rule.settled_listMessage_iff
  obtain ⟨message, hmessage⟩ := exists_message hsigil halias hlist
  rw [hmessage]
  refine iff_of_true (settled_ok message) ?_
  intro hunreportable
  cases hunreportable with
  | sigil hmarker => exact hsigil (rule_eq_sigil_iff.mpr ⟨rfl, hmarker⟩)
  | list hmarker => exact (rule_of_listMarker hmarker).elim halias hlist

end Fragment

/-- A line as a caller gives it: none, or a number. -/
def lineValue : Option Nat → Value
  | none => .none
  | some n => .int n

theorem coerceLine_lineValue (line : Option Nat) :
    coerceLine (lineValue line) = .ok (line.getD 0) := by
  cases line with
  | none => rfl
  | some n => rfl

theorem normalize_eq_diagnose (line file : Value) (f : Fragment) :
    normalize line file f.lead.toValue (.string f.token) = f.rule.diagnose line file f := by
  have hfragment : Fragment.ofValues f.lead.toValue (.string f.token) = .ok f := by
    rw [Fragment.ofValues, Lead.ofValue?_toValue]
  rw [normalize, hfragment]

/-- Reporting a fragment raises its diagnostic, or ends like the search for its message. -/
theorem parseError_eq (line : Option Nat) (file : Text) (f : Fragment) :
    parseError (lineValue line) (.string file) f.lead.toValue (.string f.token) =
      match normalize (.int (line.getD 0)) (.string file) f.lead.toValue (.string f.token) with
      | .ok d => d.raise
      | .error failure => failure := by
  rw [parseError, coerceLine_lineValue]
  simp only [normalize_eq_diagnose, Rule.diagnose]
  cases f.rule.message f with
  | ok message => rfl
  | error failure => rfl

theorem settled_normalize_iff (line file : Value) (f : Fragment) :
    Settled (normalize line file f.lead.toValue (.string f.token)) ↔ ¬ f.Unreportable := by
  rw [← Fragment.settled_message_iff, normalize_eq_diagnose, Rule.diagnose]
  cases f.rule.message f with
  | ok message => exact iff_of_true (settled_ok _) (settled_ok message)
  | error failure => rw [settled_error_iff, settled_error_iff]

/-- Reporting raises the diagnostic of the fragment or is refused with a message about a malformed
    token, for all fragments but the unreportable ones, at all lines but those that are too long to
    be written; a token that is refused is refused at any line. A structured token is read or refused
    with a message unless it is unreadable. -/
theorem parseError_ends_iff (line : Option Nat) (file : Text) (f : Fragment) (token : Text) :
    (((∃ d e, normalize (.int (line.getD 0)) (.string file) f.lead.toValue (.string f.token) = .ok d ∧
        parseError (lineValue line) (.string file) f.lead.toValue (.string f.token) = .raised e ∧
        e.diagnostic = d) ∨
      ∃ e, parseError (lineValue line) (.string file) f.lead.toValue (.string f.token) =
        .decode e) ↔
      ¬ f.Unreportable ∧ (line.getD 0 < 10 ^ Numeral.decimalLimit ∨
        ∃ e, normalize (.int (line.getD 0)) (.string file) f.lead.toValue (.string f.token) =
          .error (.decode e))) ∧
    (((∃ s, Structured.read token = .ok s) ∨ ∃ e, Structured.read token = .error (.decode e)) ↔
      ¬ Structured.UnreadableSigil token) := by
  refine ⟨?_, Structured.settled_read_iff⟩
  rw [parseError_eq, ← settled_normalize_iff (.int (line.getD 0)) (.string file)]
  cases hd : normalize (.int (line.getD 0)) (.string file) f.lead.toValue (.string f.token) with
  | error failure =>
    simp only [settled_error_iff, reduceCtorEq, false_and, exists_false, false_or,
      Except.error.injEq]
    constructor
    · intro h
      exact ⟨h, .inr h⟩
    · exact And.left
  | ok d =>
    obtain ⟨message, hparts⟩ := normalize_parts hd
    rw [hparts]
    by_cases hline : line.getD 0 < 10 ^ Numeral.decimalLimit
    · refine iff_of_true (.inl ⟨_, _, rfl, Diagnostic.raise_of_lt _ _ _ hline, ?_⟩)
        ⟨settled_ok _, .inl hline⟩
      exact (Diagnostic.diagnostic_of_toError (Diagnostic.toError_of_lt _ _ _ hline)).2
    · simp only [Diagnostic.raise_of_le _ _ _ (Nat.not_lt.mp hline)]
      simp [hline]

/-- A sigil whose letter is the number minus one. -/
def letterMinusOne : Text := text "\x7bsigil,1,-1,[a],[],nil\x7d"

theorem ofText_letterMinusOne : Term.ofText letterMinusOne = .ok (.tuple [.atom (text "sigil"),
    .int 1, .int (-1), .list [.atom (text "a")], .list [], .atom (text "nil")]) := by
  have hrenderable : Renderable (.tuple [.atom (text "sigil"), .int 1, .int (-1),
      .list [.atom (text "a")], .list [], .atom (text "nil")]) := by
    refine .tuple ?_
    simp only [List.forall_mem_cons]
    exact ⟨.atom _, .int (by decide +kernel), .int (by decide +kernel),
      .list (List.forall_mem_singleton.mpr (.atom _)), .list (by simp), .atom _, by simp⟩
  have hname (name : Text) (h : Term.IsBareName name) : Written (.atom name) name := .bareAtom h
  have hlist := Written.list [(.atom (text "a"), text "a")] (List.forall_mem_singleton.mpr
    (hname (text "a") (.mk (by decide) (by decide) (by decide))))
  have hwritten := Written.tuple [(_, text "sigil"), (.int 1, Numeral.ofInt 1),
    (.int (-1), Numeral.ofInt (-1)), (_, _), (.list [], text "[]"), (_, text "nil")] (by
      simp only [List.forall_mem_cons]
      exact ⟨hname (text "sigil") (.mk (by decide) (by decide) (by decide)), .int 1, .int (-1),
        hlist, .list [] (by simp), hname (text "nil") (.mk (by decide) (by decide) (by decide)),
        by simp⟩)
  have hread := Term.ofText_of_written hwritten hrenderable
  exact (congrArg (Term.ofText · = .ok _) (by decide +kernel)).mp hread

/-- A sigil whose letter is the number minus one is not told as malformed, neither when it is
    reported nor when it is read. -/
theorem parseError_letterMinusOne :
    ¬ ((∃ e, parseError .none (.string (text "a")) (.string Lead.syntaxErrorBefore)
        (.string letterMinusOne) = .raised e) ∨
      ∃ e, parseError .none (.string (text "a")) (.string Lead.syntaxErrorBefore)
        (.string letterMinusOne) = .decode e) ∧
    ¬ ((∃ s, Structured.read letterMinusOne = .ok s) ∨
      ∃ e, Structured.read letterMinusOne = .error (.decode e)) := by
  have hrule : Fragment.rule ⟨.before Lead.syntaxErrorBefore, letterMinusOne⟩ = .sigil :=
    Fragment.rule_eq_sigil_iff.mpr ⟨rfl, ⟨text "1,-1,[a],[],nil\x7d", by decide +kernel⟩⟩
  have hmessage : Rule.sigil.message ⟨.before Lead.syntaxErrorBefore, letterMinusOne⟩ =
      .error .notACodePoint := by
    show Rule.sigilMessage letterMinusOne = _
    rw [Rule.sigilMessage, Structured.readSigil, ofText_letterMinusOne]
    rfl
  have hparse : parseError .none (.string (text "a")) (.string Lead.syntaxErrorBefore)
      (.string letterMinusOne) = .notACodePoint := by
    have hparse := parseError_eq none (text "a") ⟨.before Lead.syntaxErrorBefore, letterMinusOne⟩
    rw [normalize_eq_diagnose, hrule, Rule.diagnose, hmessage] at hparse
    exact hparse
  have hread : Structured.read letterMinusOne = .error .notACodePoint := by
    rw [Structured.read, ofText_letterMinusOne]
    rfl
  rw [hparse, hread]
  constructor
  · rintro (⟨d, hd⟩ | ⟨e, he⟩)
    · cases hd
    · cases he
  · rintro (⟨s, hs⟩ | ⟨e, he⟩)
    · cases hs
    · cases he

end Faultline
