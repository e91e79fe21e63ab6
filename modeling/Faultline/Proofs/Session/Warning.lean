import Faultline.Proofs.Location.Keywords
import Faultline.Proofs.Session.Reporting

/-!
# Whether reporting a warning fails

Whatever a session answers to what it is asked, a warning at a line in a file is reported: the
session that is registered is notified and then registers the warning, once each and in this order,
and the console gets the warning in one write. Only a line that is too long to be written makes the
report fail, after the session was notified.

Results:
* `handed_collaborator`: a session of which nothing is known is asked what it is handed and nothing
  else.
* `Desk.exists_warn_of_lt`, `Desk.exists_warn_of_le`: what a located warning does at a desk.
* `Desk.warn_ok_iff`: when a report does not fail, and what is done in either case.
-/

namespace Faultline

/-! ## What sessions are asked -/

namespace Session

/-- Hands a request to a session. -/
def ask (directory : Option Text) : Request → Session → Outcome Unit × Session
  | .notify w => notifyWarning directory w
  | .register => registerWarning

/-- A session after requests that it was handed one after the other, whatever it answered. -/
def handed (directory : Option Text) (rs : List Request) (s : Session) : Session :=
  rs.foldl (fun s r => (s.ask directory r).2) s

/-- A session of which nothing is known was asked what it was handed, in order and nothing else. -/
theorem handed_collaborator (directory : Option Text) (rs : List Request) (c : Collaborator) :
    handed directory rs (.collaborator c) = .collaborator { c with asked := c.asked ++ rs } := by
  induction rs generalizing c with
  | nil => simp [handed]
  | cons r rs ih =>
    have hask : ((collaborator c).ask directory r).2 = .collaborator (c.ask r).2 := by
      cases r with
      | notify w => rfl
      | register => rfl
    show handed directory rs ((collaborator c).ask directory r).2 = _
    rw [hask, ih, Collaborator.ask, List.append_assoc, List.singleton_append]

/-- A mailbox that is notified of a warning and registers it keeps the warning and counts it. -/
theorem handed_mailbox (directory : Option Text) (w : Warning) (m : Mailbox) :
    handed directory [.notify w, .register] (.mailbox m) =
      .mailbox { m with pending := m.pending ++ [w], count := m.count + 1 } :=
  rfl

end Session

/-! ## Reports -/

namespace Desk

/-- A registered session of which nothing is known was asked what it was handed. -/
theorem Reported.asked {rs : List Request} {d after : Desk}
    (h : Reported (Session.handed d.directory rs) d after) {k : Nat} {c : Collaborator}
    (hcurrent : d.current = some k) (hsession : d.sessions k = .collaborator c) :
    after.sessions k = .collaborator { c with asked := c.asked ++ rs } := by
  rw [h.sessions k, if_pos hcurrent, hsession, Session.handed_collaborator]

section

variable (d : Desk) {line : Value} {n : Nat} (hline : coerceLine line = .ok n) (file t : Text)
include hline

/-- A located warning whose line can be written is reported: the registered session is notified and
    then registers it, and it is written with its place in one write. -/
theorem exists_warn_of_lt (hn : n < 10 ^ Numeral.decimalLimit) :
    ∃ after, d.warn line (.string file) (.string t) = (.ok (), after) ∧
      Reported (Session.handed d.directory
        [.notify ⟨.string file, .int n, .string t⟩, .register]) d after ∧
      after.writes = d.writes ++
        [d.console.warningMark ++ t ++ text "\n  " ++ shownAt d.directory file n ++ text "\n"] := by
  refine ⟨_, warn_eq d hline (placedText_of_lt d.directory file t hn), ?_, ?_⟩
  · exact (reported_tellSession d _).trans (reported_warnMessage _ _)
  · rw [writes_warnMessage, tellSession_writes, tellSession_console]
    simp only [List.append_assoc]

/-- A located warning whose line is too long to be written fails once the registered session has been
    notified: the session does not register it, and nothing is written. -/
theorem exists_warn_of_le (hn : 10 ^ Numeral.decimalLimit ≤ n) :
    ∃ after, d.warn line (.string file) (.string t) = (.error .longInteger, after) ∧
      Reported (Session.handed d.directory [.notify ⟨.string file, .int n, .string t⟩]) d after ∧
      after.writes = d.writes :=
  ⟨_, warn_of_placedText_error d hline (placedText_of_le d.directory file t hn),
    reported_tellSession d _, tellSession_writes d _⟩

end

/-- A warning is reported, whatever the registered session does, exactly if its line can be written:
    the session is notified of it and then registers it, and it is written with its place in one
    write. Otherwise the report fails once the session has been notified, and nothing is written. A
    warning without a place is registered and written. Nothing else at the desk changes, and a
    session of which nothing is known was asked for nothing else. -/
theorem warn_ok_iff (d : Desk) {line : Value} {n : Nat} (hline : Keywords.IsLine line n)
    (file t : Text) :
    ((d.warn line (.string file) (.string t)).1 = .ok () ↔ n < 10 ^ Numeral.decimalLimit) ∧
    (n < 10 ^ Numeral.decimalLimit →
      ∃ after, d.warn line (.string file) (.string t) = (.ok (), after) ∧
        Reported (Session.handed d.directory
          [.notify ⟨.string file, .int n, .string t⟩, .register]) d after ∧
        (∀ k c, d.current = some k → d.sessions k = .collaborator c →
          after.sessions k = .collaborator { c with
            asked := c.asked ++ [.notify ⟨.string file, .int n, .string t⟩, .register] }) ∧
        after.writes = d.writes ++
          [d.console.warningMark ++ t ++ text "\n  " ++ shownAt d.directory file n ++ text "\n"]) ∧
    (10 ^ Numeral.decimalLimit ≤ n →
      ∃ after, d.warn line (.string file) (.string t) = (.error .longInteger, after) ∧
        Reported (Session.handed d.directory [.notify ⟨.string file, .int n, .string t⟩]) d after ∧
        (∀ k c, d.current = some k → d.sessions k = .collaborator c →
          after.sessions k = .collaborator { c with
            asked := c.asked ++ [.notify ⟨.string file, .int n, .string t⟩] }) ∧
        after.writes = d.writes) ∧
    Reported (Session.handed d.directory [.register]) d (d.warnMessage t) ∧
    (∀ k c, d.current = some k → d.sessions k = .collaborator c →
      (d.warnMessage t).sessions k = .collaborator { c with asked := c.asked ++ [.register] }) ∧
    (d.warnMessage t).writes = d.writes ++ [d.console.warningMark ++ t ++ text "\n"] := by
  have hmessage : Reported (Session.handed d.directory [.register]) d (d.warnMessage t) :=
    reported_warnMessage d t
  refine ⟨⟨?_, ?_⟩, ?_, ?_, hmessage, fun _ _ => hmessage.asked, writes_warnMessage d t⟩
  · intro hok
    refine Nat.lt_of_not_le fun hn => ?_
    obtain ⟨after, hwarn, -⟩ := exists_warn_of_le d hline.coerceLine file t hn
    rw [hwarn] at hok
    cases hok
  · intro hn
    obtain ⟨after, hwarn, -⟩ := exists_warn_of_lt d hline.coerceLine file t hn
    rw [hwarn]
  · intro hn
    obtain ⟨after, hwarn, hreported, hwrites⟩ := exists_warn_of_lt d hline.coerceLine file t hn
    exact ⟨after, hwarn, hreported, fun _ _ => hreported.asked, hwrites⟩
  · intro hn
    obtain ⟨after, hwarn, hreported, hwrites⟩ := exists_warn_of_le d hline.coerceLine file t hn
    exact ⟨after, hwarn, hreported, fun _ _ => hreported.asked, hwrites⟩

/-- A desk without a directory at which a session is registered. -/
def attended (s : Session) : Desk :=
  { Desk.initial none .initial with sessions := fun _ => s, registered := fun _ => some 0 }

/-- A warning far beyond the lines of an editor in a file without an address, which an editor session
    refuses and counts, and a warning to a session that refuses whatever it is asked. -/
theorem warn_ok_iff_refused :
    (∃ after, (attended (.editor (.initial false))).warn (.tuple [.int 2147483649, .int 7])
        (.string (text "a.ex")) (.string (text "odd")) = (.ok (), after) ∧
      (∃ e : EditorSession, after.sessions 0 = .editor e ∧ e.count = 1 ∧ e.sent = []) ∧
      after.writes = [text "warning: odd\n  a.ex:2147483649\n"]) ∧
    ∃ after, (attended (.collaborator ⟨[], fun _ _ => .error .sessionGone, []⟩)).warn .none
        (.string (text "/a/../b")) (.string (text "late")) = (.ok (), after) ∧
      after.sessions 0 = .collaborator ⟨[], fun _ _ => .error .sessionGone,
        [.notify ⟨.string (text "/a/../b"), .int 0, .string (text "late")⟩, .register]⟩ ∧
      after.writes = [text "warning: late\n  /a/../b\n"] := by
  obtain ⟨-, hwritten, -⟩ := warn_ok_iff (attended (.editor (.initial false)))
    (.position 2147483649 [.int 7]) (text "a.ex") (text "odd")
  obtain ⟨-, hwritten', -⟩ := warn_ok_iff
    (attended (.collaborator ⟨[], fun _ _ => .error .sessionGone, []⟩)) .none (text "/a/../b")
    (text "late")
  obtain ⟨after, hwarn, hreported, -, hwrites⟩ := hwritten (by decide +kernel)
  obtain ⟨after', hwarn', -, hasked, hwrites'⟩ := hwritten' (by decide +kernel)
  refine ⟨⟨after, hwarn, ⟨_, hreported.sessions 0, rfl, rfl⟩, ?_⟩, after', hwarn', ?_, ?_⟩
  · rw [hwrites]
    decide +kernel
  · exact hasked 0 _ rfl rfl
  · rw [hwrites']
    decide +kernel

/-- A warning at a line with one digit too many fails: the session was notified of it, it was not
    asked to register it, and nothing was written. -/
theorem warn_longLine :
    ∃ after, (attended (.collaborator ⟨[], fun _ _ => .ok (), []⟩)).warn
        (.int (10 ^ Numeral.decimalLimit : Nat)) (.string (text "a.ex")) (.string (text "x")) =
        (.error .longInteger, after) ∧
      after.sessions 0 = .collaborator ⟨[], fun _ _ => .ok (),
        [.notify ⟨.string (text "a.ex"), .int (10 ^ Numeral.decimalLimit : Nat),
          .string (text "x")⟩]⟩ ∧
      after.writes = [] := by
  have hline : coerceLine (.int (10 ^ Numeral.decimalLimit : Nat)) =
      .ok (10 ^ Numeral.decimalLimit) := rfl
  obtain ⟨after, hwarn, hreported, hwrites⟩ := exists_warn_of_le
    (attended (.collaborator ⟨[], fun _ _ => .ok (), []⟩)) hline (text "a.ex") (text "x")
    (Nat.le_refl _)
  exact ⟨after, hwarn, hreported.asked rfl rfl, hwrites⟩

end Desk

end Faultline
