import Faultline.Proofs.Diagnostic.Place
import Faultline.Raise

/-!
# Raising loses nothing

A diagnostic passes three layers before a caller sees it: its parts are built from a fragment or
from a node, they are checked when the diagnostic is raised, and the error that is raised holds them
one by one, with the kind told by its class. The error has a text from the start, so that a diagnostic
whose line is too long to be written cannot be raised.

Results:
* `raiseDiagnostic_eq`: with a text for a file and a text for a message, only the line can keep a
  diagnostic from being raised.
* `normalize_parts`: what a fragment is normalized to has a text for a message, and stands where the
  fragment stands.
* `formError_eq`: an error whose message a formatter words is raised with the words as they are.
* `parseError_keeps`: the error that is raised for a fragment holds its diagnostic, exactly if the
  line can be written, and other failures leave as they are, that of the line first.
-/

namespace Faultline

namespace Diagnostic

section

variable {n : Nat} (k : Kind) (message file : Text)

/-- A diagnostic at a line that can be written is raised as its error. -/
theorem raise_of_lt (hn : n < 10 ^ Numeral.decimalLimit) :
    raise ⟨k, .string message, .string file, .int n⟩ =
      .raised ⟨k.errorClass, .string message, .string file, .int n,
        placeText file n ++ text ": " ++ message⟩ := by
  rw [raise, toError_of_lt k message file hn]

/-- A diagnostic at a line that is too long to be written fails instead. -/
theorem raise_of_le (hn : 10 ^ Numeral.decimalLimit ≤ n) :
    raise ⟨k, .string message, .string file, .int n⟩ = .longInteger := by
  rw [raise, toError_of_le k message file hn]

end

end Diagnostic

/-- A diagnostic with a text for a file and a text for a message is raised if its line can be read,
    and with the line that is read. -/
theorem raiseDiagnostic_eq (line : Value) (file message : Text) (k : Kind) :
    raiseDiagnostic line (.string file) (.ok k) (.string message) =
      match coerceLine line with
      | .ok n => Diagnostic.raise ⟨k, .string message, .string file, .int n⟩
      | .error failure => failure := by
  rw [raiseDiagnostic]
  cases coerceLine line with
  | ok n => rfl
  | error failure => rfl

/-- An error whose message a formatter words is raised at the place of the node: the words are no
    template and are not looked into. -/
theorem formError_eq (metadata file : Value) {formatter : Formatter} {description : Value} {t : Text}
    (ht : formatter.apply description = .ok (.string t)) :
    formError metadata file formatter description =
      match resolveLocation metadata file with
      | .ok (g, line) => raiseDiagnostic line g (.ok .compile) (.string t)
      | .error failure => failure := by
  rw [formError, ht]
  show compileError metadata file (.string t) [] = _
  rw [compileError]
  cases resolveLocation metadata file with
  | ok place => rfl
  | error failure => rfl

/-- What a fragment is normalized to has a text for a message, and the line and the file that it was
    given. -/
theorem normalize_parts {line file lead token : Value} {d : Diagnostic}
    (h : normalize line file lead token = .ok d) :
    ∃ message, d = ⟨d.kind, .string message, file, line⟩ := by
  unfold normalize at h
  cases hfragment : Fragment.ofValues lead token with
  | error failure =>
    rw [hfragment] at h
    cases h
  | ok f =>
    simp only [hfragment, Rule.diagnose] at h
    cases hmessage : f.rule.message f with
    | error failure =>
      rw [hmessage] at h
      cases h
    | ok message =>
      rw [hmessage] at h
      cases h
      exact ⟨message, rfl⟩

section

variable {line lead token : Value} {file : Text}

/-- A fragment at a line that can be read is raised as what it is normalized to. -/
theorem parseError_of_ok {n : Nat} {d : Diagnostic} (hline : coerceLine line = .ok n)
    (hd : normalize (.int n) (.string file) lead token = .ok d) :
    parseError line (.string file) lead token = d.raise := by
  rw [parseError, hline]
  simp only [hd]
  -- the checks see the line and the file of the fragment, and a text for a message
  obtain ⟨message, hparts⟩ := normalize_parts hd
  rw [hparts, raiseDiagnostic_eq]
  rfl

/-- A fragment that cannot be normalized fails like its normalization. -/
theorem parseError_of_error {n : Nat} {failure : Failure} (hline : coerceLine line = .ok n)
    (hfailure : normalize (.int n) (.string file) lead token = .error failure) :
    parseError line (.string file) lead token = failure := by
  rw [parseError, hline]
  simp only [hfailure]

/-- A line that cannot be read fails before the fragment is looked at. -/
theorem parseError_of_line_error {failure : Failure} (hline : coerceLine line = .error failure) :
    parseError line (.string file) lead token = failure := by
  rw [parseError, hline]

end

/-- An error loses nothing of a diagnostic: it has the class for the kind, it carries the diagnostic,
    and its text is the text of the diagnostic. It is the error that the diagnostic itself is turned
    into, and it is announced by the kind, the place and the message, with the end of a line behind
    them if a trace is asked for and has no frames. -/
structure DiagnosticError.Keeps (e : DiagnosticError) (d : Diagnostic) : Prop where
  errorClass : e.errorClass = d.kind.errorClass
  diagnostic : e.diagnostic = d
  display : d.display = .ok e.text
  toError : d.toError = .ok e
  headline : ∃ place message, d.location = .ok (.string place) ∧ d.message = .string message ∧
    e.headline = .ok (announcement d.kind place message) ∧
    e.headlineWithEmptyTrace = .ok (announcement d.kind place message ++ Faultline.text "\n")

/-- The error of a diagnostic at a line that can be written loses nothing of it. -/
theorem DiagnosticError.keeps_of_toError {n : Nat} (hn : n < 10 ^ Numeral.decimalLimit) {k : Kind}
    {message file : Text} {e : DiagnosticError}
    (he : Diagnostic.toError ⟨k, .string message, .string file, .int n⟩ = .ok e) :
    e.Keeps ⟨k, .string message, .string file, .int n⟩ where
  errorClass := (Diagnostic.diagnostic_of_toError he).1
  diagnostic := (Diagnostic.diagnostic_of_toError he).2
  display := by
    rw [Diagnostic.display_eq, he]
    rfl
  toError := he
  headline := by
    have hannounced : e.headline = .ok (announcement k (placeText file n) message) := by
      rw [Diagnostic.toError_of_lt k message file hn] at he
      obtain rfl := Except.ok.inj he
      rw [headline_of_lt hn, Kind.kind_errorClass]
    exact ⟨placeText file n, message, placeLabel_of_lt hn file, rfl, hannounced,
      headlineWithEmptyTrace_of_headline hannounced⟩

/-- If the line can be read and the fragment normalized, an error that loses nothing of the
    diagnostic is raised exactly if the line can be written; otherwise nothing is raised, and the
    diagnostic has neither a text nor an error. If the line or else the fragment fails, that failure
    leaves. -/
theorem parseError_keeps (line lead token : Value) (file : Text) :
    (∀ n d, coerceLine line = .ok n → normalize (.int n) (.string file) lead token = .ok d →
      ((∃ e, parseError line (.string file) lead token = .raised e ∧ e.Keeps d) ↔
        n < 10 ^ Numeral.decimalLimit) ∧
      (10 ^ Numeral.decimalLimit ≤ n →
        parseError line (.string file) lead token = .longInteger ∧
          d.display = .error .longInteger ∧ d.toError = .error .longInteger)) ∧
    (∀ n failure, coerceLine line = .ok n →
      normalize (.int n) (.string file) lead token = .error failure →
      parseError line (.string file) lead token = failure) ∧
    ∀ failure, coerceLine line = .error failure →
      parseError line (.string file) lead token = failure := by
  refine ⟨?_, fun _ _ => parseError_of_error, fun _ => parseError_of_line_error⟩
  intro n d hline hd
  rw [parseError_of_ok hline hd]
  obtain ⟨message, hparts⟩ := normalize_parts hd
  rw [hparts]
  refine ⟨⟨?_, fun hn => ?_⟩, fun hn => ?_⟩
  · rintro ⟨e, hraised, -⟩
    refine Nat.lt_of_not_le fun hn => ?_
    rw [Diagnostic.raise_of_le d.kind message file hn] at hraised
    cases hraised
  · exact ⟨_, Diagnostic.raise_of_lt d.kind message file hn,
      DiagnosticError.keeps_of_toError hn (Diagnostic.toError_of_lt d.kind message file hn)⟩
  · have herror := Diagnostic.toError_of_le d.kind message file hn
    refine ⟨Diagnostic.raise_of_le d.kind message file hn, ?_, herror⟩
    rw [Diagnostic.display_eq, herror]
    rfl

/-- A fragment at a position and at a line with one digit too many, a lead that is no lead, and a
    line and a lead that both are refused. -/
theorem parseError_keeps_position :
    (∃ e, parseError (.tuple [.int 3, .int 7]) (.string (text "a.ex"))
        (.string Lead.syntaxErrorBefore) (.string (text "'end'")) = .raised e ∧
      e.Keeps
        ⟨.malformed, .string (text "unexpected token: end"), .string (text "a.ex"), .int 3⟩) ∧
    parseError (.int (10 ^ Numeral.decimalLimit : Nat)) (.string (text "a.ex"))
        (.string Lead.syntaxErrorBefore) (.string (text "'end'")) = .longInteger ∧
    parseError .none (.string (text "a.ex")) (.int 5) (.string []) = .leadKind (.int 5) ∧
    parseError (.int (-2)) (.string (text "a.ex")) (.int 5) (.string []) = .negativeLine (-2) := by
  obtain ⟨hkept, -, -⟩ := parseError_keeps (.tuple [.int 3, .int 7]) (.string Lead.syntaxErrorBefore)
    (.string (text "'end'")) (text "a.ex")
  obtain ⟨hlong, -, -⟩ := parseError_keeps (.int (10 ^ Numeral.decimalLimit : Nat))
    (.string Lead.syntaxErrorBefore) (.string (text "'end'")) (text "a.ex")
  obtain ⟨-, hlead, -⟩ := parseError_keeps .none (.int 5) (.string []) (text "a.ex")
  obtain ⟨-, -, hline⟩ := parseError_keeps (.int (-2)) (.int 5) (.string []) (text "a.ex")
  have hthree : 3 < 10 ^ Numeral.decimalLimit := by decide +kernel
  refine ⟨(hkept 3 _ rfl rfl).1.mpr hthree, ((hlong _ _ rfl rfl).2 (Nat.le_refl _)).1, ?_, ?_⟩
  · exact hlead 0 _ rfl (congrArg Except.error (Failure.showing_of_short (by decide +kernel) _))
  · exact hline _ (congrArg Except.error (Failure.showing_of_short (by decide +kernel) _))

/-- A fragment at a line with one digit too many is normalized and not raised, and an error that is
    raised is announced otherwise if its trace has no frames. -/
theorem parseError_unkept :
    (∃ n d, coerceLine (.int (10 ^ Numeral.decimalLimit : Nat)) = .ok n ∧
      normalize (.int n) (.string (text "a.ex")) (.string Lead.syntaxErrorBefore)
        (.string (text "'end'")) = .ok d ∧
      ∀ e, parseError (.int (10 ^ Numeral.decimalLimit : Nat)) (.string (text "a.ex"))
        (.string Lead.syntaxErrorBefore) (.string (text "'end'")) ≠ .raised e) ∧
    ∃ e, parseError (.int 3) (.string (text "a.ex")) (.string Lead.syntaxErrorBefore)
        (.string (text "'end'")) = .raised e ∧
      e.headline = .ok (text "** (SyntaxError) a.ex:3: unexpected token: end") ∧
      e.headlineWithEmptyTrace ≠ .ok (text "** (SyntaxError) a.ex:3: unexpected token: end") := by
  constructor
  · refine ⟨_, ⟨.malformed, .string (text "unexpected token: end"), .string (text "a.ex"), _⟩, rfl,
      rfl, fun e => ?_⟩
    rw [parseError_of_ok rfl rfl, Diagnostic.raise_of_le _ _ _ (Nat.le_refl _)]
    nofun
  · have hthree : 3 < 10 ^ Numeral.decimalLimit := by decide +kernel
    refine ⟨_, (parseError_of_ok rfl rfl).trans (Diagnostic.raise_of_lt .malformed
      (text "unexpected token: end") (text "a.ex") hthree), ?_⟩
    have hheadline := DiagnosticError.headline_of_lt hthree Kind.malformed.errorClass
      (text "unexpected token: end") (text "a.ex")
      (placeText (text "a.ex") 3 ++ text ": " ++ text "unexpected token: end")
    refine ⟨hheadline.trans (congrArg Except.ok (by decide +kernel)), ?_⟩
    rw [DiagnosticError.headlineWithEmptyTrace_of_headline hheadline]
    exact fun h => absurd (Except.ok.inj h) (by decide +kernel)

end Faultline
