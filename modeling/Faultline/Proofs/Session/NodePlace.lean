import Faultline.Proofs.Diagnostic.Raising
import Faultline.Proofs.Session.Warning

/-!
# Errors and warnings about a node point to the same place

An error about a node is worded before its place is resolved, a warning about it afterwards, and each
reads the line on a way of its own. For words that are a text and a line that can be written this
makes no difference: `nodePlace` is where both point, and what keeps one from being reported keeps the
other from it, before anyone is told of the warning. The error holds the file as it is, and the
console shows it as seen from the current directory.

Results:
* `nodePlace_eq_ok_iff`, `nodePlace_eq_error_iff`: how a place is found, and the two ways in which
  that fails.
* `formError_of_place`, `formError_of_error`: where an error about a node points.
* `Desk.formWarn_of_place`, `Desk.formWarn_of_error`: where a warning about a node points.
* `formError_formWarn_agree`: errors and warnings about the same node point to the same place.
-/

namespace Faultline

/-- The place of a node in a file being compiled: what its metadata is resolved to, with the line
    that is read there. -/
def nodePlace (metadata file : Value) : Outcome (Value × Nat) := do
  let (g, line) ← resolveLocation metadata file
  let n ← coerceLine line
  return (g, n)

theorem nodePlace_eq_ok_iff {metadata file g : Value} {n : Nat} :
    nodePlace metadata file = .ok (g, n) ↔
      ∃ line, resolveLocation metadata file = .ok (g, line) ∧ coerceLine line = .ok n := by
  simp only [nodePlace, Outcome.bind_eq_ok_iff, Prod.exists]
  constructor
  · rintro ⟨g', line, hresolved, k, hline, hplace⟩
    cases hplace
    exact ⟨line, hresolved, hline⟩
  · rintro ⟨line, hresolved, hline⟩
    exact ⟨g, line, hresolved, n, hline, rfl⟩

/-- No place is found if the metadata cannot be resolved, or else if the line cannot be read. -/
theorem nodePlace_eq_error_iff {metadata file : Value} {failure : Failure} :
    nodePlace metadata file = .error failure ↔
      resolveLocation metadata file = .error failure ∨
      ∃ g line, resolveLocation metadata file = .ok (g, line) ∧ coerceLine line = .error failure := by
  have hpure (g : Value) (n : Nat) : (pure (g, n) : Outcome (Value × Nat)) ≠ .error failure := nofun
  simp only [nodePlace, Outcome.bind_eq_error_iff, Prod.exists, hpure, and_false, exists_false,
    or_false]

section

variable {metadata file : Value} {formatter : Formatter} {description : Value} {t : Text}

/-- An error about a node is the diagnostic at its place. -/
theorem formError_of_place (ht : formatter.apply description = .ok (.string t)) {g : Text} {n : Nat}
    (hplace : nodePlace metadata file = .ok (.string g, n)) :
    formError metadata file formatter description =
      Diagnostic.raise ⟨.compile, .string t, .string g, .int n⟩ := by
  obtain ⟨line, hresolved, hline⟩ := nodePlace_eq_ok_iff.mp hplace
  rw [formError_eq metadata file ht, hresolved]
  simp only [raiseDiagnostic_eq, hline]

/-- An error about a node without a place fails like the search for the place. -/
theorem formError_of_error (ht : formatter.apply description = .ok (.string t)) {failure : Failure}
    (hplace : nodePlace metadata file = .error failure) :
    formError metadata file formatter description = failure := by
  rw [formError_eq metadata file ht]
  rcases nodePlace_eq_error_iff.mp hplace with hresolved | ⟨g, line, hresolved, hline⟩
  · rw [hresolved]
  · rw [hresolved]
    -- the line is read before the file is looked at, so that the file may be of any kind
    simp only [raiseDiagnostic, hline]

namespace Desk

/-- A warning about a node is reported at its place. -/
theorem formWarn_of_place (d : Desk) (ht : formatter.apply description = .ok (.string t)) {g : Text}
    {n : Nat} (hplace : nodePlace metadata file = .ok (.string g, n)) :
    ∃ line, coerceLine line = .ok n ∧
      d.formWarn metadata file formatter description = d.warn line (.string g) (.string t) := by
  obtain ⟨line, hresolved, hline⟩ := nodePlace_eq_ok_iff.mp hplace
  refine ⟨line, hline, ?_⟩
  simp only [formWarn, hresolved, ht]

/-- A warning about a node without a place fails like the search for the place, and leaves the desk
    as it was. -/
theorem formWarn_of_error (d : Desk) (ht : formatter.apply description = .ok (.string t))
    {failure : Failure} (hplace : nodePlace metadata file = .error failure) :
    d.formWarn metadata file formatter description = (.error failure, d) := by
  rcases nodePlace_eq_error_iff.mp hplace with hresolved | ⟨g, line, hresolved, hline⟩
  · simp only [formWarn, hresolved]
  · simp only [formWarn, hresolved, ht]
    exact warn_of_coerceLine_error d g (.string t) hline

end Desk

end

/-- An error and a warning about a node, worded by a formatter, point to one place, if its line can be
    written: the error has its file, its line and the words as they are, and the session that is
    registered is notified of just these and then counts the warning, which is written with the words
    and with the place as the console shows it. If there is no place, both fail alike, and the warning
    has left everything as it was. -/
theorem formError_formWarn_agree (metadata : Value) (file : Text) {formatter : Formatter}
    {description : Value} {t : Text} (ht : formatter.apply description = .ok (.string t)) (d : Desk) :
    (∀ g n, nodePlace metadata (.string file) = .ok (.string g, n) →
      n < 10 ^ Numeral.decimalLimit →
      (∃ e, formError metadata (.string file) formatter description = .raised e ∧
        e.errorClass = .compileError ∧
        e.diagnostic = ⟨.compile, .string t, .string g, .int n⟩) ∧
      ∃ after, d.formWarn metadata (.string file) formatter description = (.ok (), after) ∧
        Desk.Reported (Session.handed d.directory
          [.notify ⟨.string g, .int n, .string t⟩, .register]) d after ∧
        (∀ k m, d.current = some k → d.sessions k = .mailbox m →
          after.sessions k = .mailbox { m with
            pending := m.pending ++ [⟨.string g, .int n, .string t⟩], count := m.count + 1 }) ∧
        after.writes = d.writes ++
          [d.console.warningMark ++ t ++ text "\n  " ++ shownAt d.directory g n ++ text "\n"]) ∧
    ∀ failure, nodePlace metadata (.string file) = .error failure →
      formError metadata (.string file) formatter description = failure ∧
      d.formWarn metadata (.string file) formatter description = (.error failure, d) := by
  constructor
  · intro g n hplace hn
    constructor
    · rw [formError_of_place ht hplace]
      exact ⟨_, Diagnostic.raise_of_lt .compile t g hn,
        Diagnostic.diagnostic_of_toError (Diagnostic.toError_of_lt .compile t g hn)⟩
    · obtain ⟨line, hline, hwarn⟩ := d.formWarn_of_place ht hplace
      obtain ⟨after, hafter, hreported, hwrites⟩ := d.exists_warn_of_lt hline g t hn
      refine ⟨after, hwarn.trans hafter, hreported, ?_, hwrites⟩
      intro k m hcurrent hsession
      rw [hreported.sessions k, if_pos hcurrent, hsession, Session.handed_mailbox]
  · intro failure hplace
    exact ⟨formError_of_error ht hplace, d.formWarn_of_error ht hplace⟩

/-- Metadata that was built unchecked: a file with a position in it, and a line below zero behind no
    file. -/
theorem formError_formWarn_agree_unchecked :
    (∃ e, formError (.location (.int (-1)) (.string (text "m.ex")) (.tuple [.int 3, .int 7]))
        (.string (text "a.ex")) (.before (.string (text "bad \x7b\x7d: "))) (.string (text "x")) =
        .raised e ∧
      e.diagnostic =
        ⟨.compile, .string (text "bad \x7b\x7d: x"), .string (text "m.ex"), .int 3⟩) ∧
    (∃ after, (Desk.attended (.mailbox (.initial .none))).formWarn
        (.location (.int (-1)) (.string (text "m.ex")) (.tuple [.int 3, .int 7]))
        (.string (text "a.ex")) (.before (.string (text "bad \x7b\x7d: "))) (.string (text "x")) =
        (.ok (), after) ∧
      after.sessions 0 = .mailbox ⟨.none,
        [⟨.string (text "m.ex"), .int 3, .string (text "bad \x7b\x7d: x")⟩], 1⟩ ∧
      after.writes = [text "warning: bad \x7b\x7d: x\n  m.ex:3\n"]) ∧
    formError (.location (.int (-1)) .none .none) (.string (text "a.ex"))
      (.constant (.string (text "odd"))) .none = .negativeLine (-1) := by
  have hbad : (Formatter.before (.string (text "bad \x7b\x7d: "))).apply (.string (text "x")) =
      .ok (.string (text "bad \x7b\x7d: x")) := rfl
  have hodd : (Formatter.constant (.string (text "odd"))).apply .none =
      .ok (.string (text "odd")) := rfl
  have hnegative : nodePlace (.location (.int (-1)) .none .none) (.string (text "a.ex")) =
      .error (.negativeLine (-1)) :=
    congrArg Except.error (Failure.showing_of_short (by decide +kernel) _)
  obtain ⟨hplaced, -⟩ := formError_formWarn_agree
    (.location (.int (-1)) (.string (text "m.ex")) (.tuple [.int 3, .int 7])) (text "a.ex") hbad
    (Desk.attended (.mailbox (.initial .none)))
  obtain ⟨-, hfailed⟩ := formError_formWarn_agree (.location (.int (-1)) .none .none) (text "a.ex")
    hodd (Desk.attended (.mailbox (.initial .none)))
  obtain ⟨⟨e, herror, -, hdiagnostic⟩, after, hwarn, -, hsession, hwrites⟩ :=
    hplaced (text "m.ex") 3 rfl (by decide +kernel)
  refine ⟨⟨e, herror, hdiagnostic⟩, ⟨after, hwarn, hsession 0 _ rfl rfl, ?_⟩,
    (hfailed _ hnegative).1⟩
  rw [hwrites]
  decide +kernel

/-- A warning about a node in a file in the current directory is not written with the location of the
    warning, but with its place as seen from the directory. An error about a node at a line with one
    digit too many is not raised, and a warning about it is neither counted nor written. -/
theorem formError_formWarn_elsewhere :
    (∃ after, (Desk.initial (some (text "/w")) .initial).formWarn (.int 3)
        (.string (text "/w/a.ex")) (.constant (.string (text "odd"))) .none = (.ok (), after) ∧
      Warning.location ⟨.string (text "/w/a.ex"), .int 3, .string (text "odd")⟩ =
        .ok (.string (text "/w/a.ex:3")) ∧
      after.writes = [text "warning: odd\n  a.ex:3\n"]) ∧
    nodePlace (.int (10 ^ Numeral.decimalLimit : Nat)) (.string (text "a.ex")) =
      .ok (.string (text "a.ex"), 10 ^ Numeral.decimalLimit) ∧
    (∀ e, formError (.int (10 ^ Numeral.decimalLimit : Nat)) (.string (text "a.ex"))
      (.constant (.string (text "odd"))) .none ≠ .raised e) ∧
    ∃ after, (Desk.attended (.mailbox (.initial .none))).formWarn
        (.int (10 ^ Numeral.decimalLimit : Nat)) (.string (text "a.ex"))
        (.constant (.string (text "odd"))) .none = (.error .longInteger, after) ∧
      after.sessions 0 = .mailbox ⟨.none, [⟨.string (text "a.ex"),
        .int (10 ^ Numeral.decimalLimit : Nat), .string (text "odd")⟩], 0⟩ ∧
      after.writes = [] := by
  have hodd : (Formatter.constant (.string (text "odd"))).apply .none =
      .ok (.string (text "odd")) := rfl
  have hthree : 3 < 10 ^ Numeral.decimalLimit := by decide +kernel
  have hplace : nodePlace (.int (10 ^ Numeral.decimalLimit : Nat)) (.string (text "a.ex")) =
      .ok (.string (text "a.ex"), 10 ^ Numeral.decimalLimit) := rfl
  refine ⟨?_, hplace, fun e => ?_, ?_⟩
  · obtain ⟨line, hline, hwarn⟩ := (Desk.initial (some (text "/w")) .initial).formWarn_of_place hodd
      (show nodePlace (.int 3) (.string (text "/w/a.ex")) = .ok (.string (text "/w/a.ex"), 3) from rfl)
    obtain ⟨after, hafter, -, hwrites⟩ := Desk.exists_warn_of_lt _ hline (text "/w/a.ex")
      (text "odd") hthree
    have hlocation : placeText (text "/w/a.ex") 3 = text "/w/a.ex:3" := by decide +kernel
    refine ⟨after, hwarn.trans hafter, ?_, hwrites.trans (by decide +kernel)⟩
    rw [← hlocation]
    exact placeLabel_of_lt hthree (text "/w/a.ex")
  · rw [formError_of_place hodd hplace, Diagnostic.raise_of_le _ _ _ (Nat.le_refl _)]
    nofun
  · obtain ⟨line, hline, hwarn⟩ :=
      (Desk.attended (.mailbox (.initial .none))).formWarn_of_place hodd hplace
    obtain ⟨after, hafter, hreported, hwrites⟩ := Desk.exists_warn_of_le
      (Desk.attended (.mailbox (.initial .none))) hline (text "a.ex") (text "odd") (Nat.le_refl _)
    exact ⟨after, hwarn.trans hafter, hreported.sessions 0, hwrites⟩

end Faultline
