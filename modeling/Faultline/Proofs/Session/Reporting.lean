import Faultline.Proofs.Diagnostic.Place
import Faultline.Report
import Mathlib.Tactic.SplitIfs

/-!
# What a report does at a desk

A report reaches the session that is registered in the running context and no other, and it writes
to the console. `Reported` says that nothing else at the desk is touched: registrations, tokens and
the directory stay what they are, and so does the mark that the next warning starts with.

Results:
* `render_eq_placedText`: what is written of a warning is what the warning is rendered as.
* `placedText_of_lt`, `placedText_of_le`: what is written of a warning about a file, and when it
  cannot be written.
* `reported_warnMessage`, `reported_warn`: what the two ways to report do.
* `writes_warnMessage`: a warning is written in one write.
* `warn_eq`, `warn_of_placedText_error`: a warning whose line can be read is notified, and then
  reported with its place if that can be written.
* `resetSession_of_unused`: a token that was not used brings the earlier registration back in the
  context that made it.
* `block_eq`: a block brings the earlier registration back if its body leaves its token alone.
-/

namespace Faultline

/-- A session after it was handed a located warning: it is notified if the line can be read, and
    the warning is registered if it can be written as well. -/
def Session.warned (directory : Option Text) (line file t : Value) (s : Session) : Session :=
  match coerceLine line with
  | .error _ => s
  | .ok n =>
    let notified := (s.notifyWarning directory ⟨file, .int n, t⟩).2
    match Desk.placedText directory (.int n) file t with
    | .error _ => notified
    | .ok _ => notified.registerWarning.2

/-- A place as the console shows it: the file as it is shown in the directory, and behind a colon
    the line unless it is zero. -/
def shownAt (directory : Option Text) (file : Text) (n : Nat) : Text :=
  placeText (shownFile directory file) n

namespace Desk

/-! ## What is written of a warning -/

/-- What is written of a warning is what the warning is rendered as. -/
theorem render_eq_placedText (w : Warning) (directory : Option Text) :
    w.render directory = placedText directory w.line w.file w.text := rfl

section

variable {n : Nat} (directory : Option Text) (file t : Text)

/-- A warning shows its text, and its place on the line below. -/
theorem placedText_of_lt (hn : n < 10 ^ Numeral.decimalLimit) :
    placedText directory (.int n) (.string file) (.string t) =
      .ok (t ++ text "\n  " ++ shownAt directory file n) := by
  have hplace : shownPlace directory (.int n) (.string file) =
      .ok (.string (shownAt directory file n)) := placeLabel_of_lt hn _
  rw [placedText, hplace]
  rfl

/-- A warning at a line that is too long to be written is not shown. -/
theorem placedText_of_le (hn : 10 ^ Numeral.decimalLimit ≤ n) :
    placedText directory (.int n) (.string file) (.string t) = .error .longInteger := by
  have hplace : shownPlace directory (.int n) (.string file) = .error .longInteger :=
    placeLabel_of_le hn _
  rw [placedText, hplace]
  rfl

end

end Desk

/-- A session that is handed a warning that can be written is notified of it and registers it. -/
theorem Session.warned_of_lt {line : Value} {n : Nat} (hline : coerceLine line = .ok n)
    (hn : n < 10 ^ Numeral.decimalLimit) (directory : Option Text) (file t : Text) (s : Session) :
    s.warned directory line (.string file) (.string t) =
      (s.notifyWarning directory ⟨.string file, .int n, .string t⟩).2.registerWarning.2 := by
  simp only [warned, hline, Desk.placedText_of_lt directory file t hn]

/-! ## Reports -/

namespace Desk

/-- A desk after another, with a report in between that changed the registered session. -/
structure Reported (change : Session → Session) (d after : Desk) : Prop where
  directory : after.directory = d.directory
  context : after.context = d.context
  registered : after.registered = d.registered
  freshToken : after.freshToken = d.freshToken
  isUsed : after.isUsed = d.isUsed
  mark : after.console.warningMark = d.console.warningMark
  sessions : ∀ n, after.sessions n =
    if d.current = some n then change (d.sessions n) else d.sessions n

theorem Reported.current {change : Session → Session} {d after : Desk}
    (h : Reported change d after) : after.current = d.current := by
  rw [Desk.current, h.registered, h.context, Desk.current]

theorem Reported.refl (d : Desk) : Reported id d d where
  directory := rfl
  context := rfl
  registered := rfl
  freshToken := rfl
  isUsed := rfl
  mark := rfl
  sessions _ := (ite_self _).symm

theorem Reported.trans {f g : Session → Session} {d middle after : Desk}
    (h : Reported f d middle) (h' : Reported g middle after) : Reported (g ∘ f) d after where
  directory := h'.directory.trans h.directory
  context := h'.context.trans h.context
  registered := h'.registered.trans h.registered
  freshToken := h'.freshToken.trans h.freshToken
  isUsed := h'.isUsed.trans h.isUsed
  mark := h'.mark.trans h.mark
  sessions n := by
    rw [h'.sessions n, h.current, h.sessions n]
    by_cases hn : d.current = some n
    · rw [if_pos hn, if_pos hn, if_pos hn]
      rfl
    · rw [if_neg hn, if_neg hn, if_neg hn]

/-! ## The two ways to report -/

section

variable (d : Desk) (operation : Session → Outcome Unit × Session)

theorem tellSession_writes : (d.tellSession operation).writes = d.writes := by
  rw [tellSession]
  split <;> rfl

theorem tellSession_written : (d.tellSession operation).written = d.written :=
  congrArg List.flatten (tellSession_writes d operation)

theorem tellSession_console : (d.tellSession operation).console = d.console := by
  rw [tellSession]
  split <;> rfl

theorem reported_tellSession :
    Reported (fun s => (operation s).2) d (d.tellSession operation) := by
  cases hcurrent : d.current with
  | none =>
    have hsame : d.tellSession operation = d := by rw [tellSession, hcurrent]
    rw [hsame]
    exact { Reported.refl d with sessions := fun n => by rw [hcurrent, if_neg nofun] }
  | some number =>
    have htold : d.tellSession operation = (d.withSession number operation).2 := by
      rw [tellSession, hcurrent]
    rw [htold]
    refine { Reported.refl d with sessions := fun n => ?_ }
    show (if n = number then (operation (d.sessions number)).2 else d.sessions n) = _
    by_cases hn : n = number
    · rw [if_pos hn, hcurrent, if_pos (congrArg some hn.symm), hn]
    · rw [if_neg hn, hcurrent, if_neg fun h => hn (Option.some.inj h).symm]

end

theorem reported_writeWarning (d : Desk) (t : Text) : Reported id d (d.writeWarning t) :=
  { Reported.refl d with }

theorem reported_warnMessage (d : Desk) (t : Text) :
    Reported (fun s => s.registerWarning.2) d (d.warnMessage t) :=
  (reported_tellSession d _).trans (reported_writeWarning _ t)

/-- A warning is written behind the mark, in one write. -/
theorem writes_warnMessage (d : Desk) (t : Text) :
    (d.warnMessage t).writes = d.writes ++ [d.console.warningMark ++ t ++ text "\n"] := by
  show (d.tellSession Session.registerWarning).writes ++
    [(d.tellSession Session.registerWarning).console.warningMark ++ t ++ text "\n"] = _
  rw [tellSession_writes, tellSession_console]

theorem written_warnMessage (d : Desk) (t : Text) :
    (d.warnMessage t).written = d.written ++ d.console.warningMark ++ t ++ text "\n" := by
  rw [written, writes_warnMessage, List.flatten_append, List.flatten_singleton, written,
    List.append_assoc, List.append_assoc, List.append_assoc]

/-- A warning whose line cannot be read is not reported at all. -/
theorem warn_of_coerceLine_error (d : Desk) {line : Value} (file t : Value) {failure : Failure}
    (h : coerceLine line = .error failure) : d.warn line file t = (.error failure, d) := by
  rw [warn, h]

section

variable (d : Desk) {line file t : Value} {n : Nat} (hline : coerceLine line = .ok n)
include hline

/-- A warning that can be written is notified, and then reported with its place. -/
theorem warn_eq {body : Text} (hbody : placedText d.directory (.int n) file t = .ok body) :
    d.warn line file t =
      (.ok (), (d.tellSession (Session.notifyWarning d.directory ⟨file, .int n, t⟩)).warnMessage
        body) := by
  have hdirectory := (reported_tellSession d
    (Session.notifyWarning d.directory ⟨file, .int n, t⟩)).directory
  simp only [warn, hline, hdirectory, hbody]

/-- A warning that cannot be written is notified and nothing else. -/
theorem warn_of_placedText_error {failure : Failure}
    (hbody : placedText d.directory (.int n) file t = .error failure) :
    d.warn line file t =
      (.error failure, d.tellSession (Session.notifyWarning d.directory ⟨file, .int n, t⟩)) := by
  have hdirectory := (reported_tellSession d
    (Session.notifyWarning d.directory ⟨file, .int n, t⟩)).directory
  simp only [warn, hline, hdirectory, hbody]

end

theorem reported_warn (d : Desk) (line file t : Value) :
    Reported (Session.warned d.directory line file t) d (d.warn line file t).2 := by
  cases hline : coerceLine line with
  | error failure =>
    rw [warn_of_coerceLine_error d file t hline]
    have hchange : Session.warned d.directory line file t = id := by
      funext s
      rw [Session.warned, hline]
      rfl
    rw [hchange]
    exact Reported.refl d
  | ok n =>
    have told := reported_tellSession d (Session.notifyWarning d.directory ⟨file, .int n, t⟩)
    cases hbody : placedText d.directory (.int n) file t with
    | error failure =>
      have hchange : Session.warned d.directory line file t =
          fun s => (s.notifyWarning d.directory ⟨file, .int n, t⟩).2 := by
        funext s
        simp only [Session.warned, hline, hbody]
      rw [hchange, warn_of_placedText_error d hline hbody]
      exact told
    | ok body =>
      have hchange : Session.warned d.directory line file t =
          (fun s => s.registerWarning.2) ∘
            fun s => (s.notifyWarning d.directory ⟨file, .int n, t⟩).2 := by
        funext s
        simp only [Session.warned, hline, hbody, Function.comp]
      rw [hchange, warn_eq d hline hbody]
      exact told.trans (reported_warnMessage _ body)

/-! ## Bringing a registration back -/

/-- A token that was not used brings the earlier registration back in the context that made it. -/
theorem resetSession_of_unused {d : Desk} {t : ResetToken} (hunused : d.isUsed t.number = false)
    (hcontext : t.context = d.context) :
    d.resetSession t = (.ok (),
      { d with isUsed := fun n => decide (n = t.number) || d.isUsed n }.register t.earlier) := by
  have hfresh : ¬ d.isUsed t.number = true := by
    rw [hunused]
    decide
  rw [resetSession, if_neg hfresh, if_neg (not_not_intro hcontext)]

/-- A token that was used does nothing. -/
theorem resetSession_of_used {d : Desk} {t : ResetToken} (hused : d.isUsed t.number = true) :
    d.resetSession t = (.error .usedToken, d) := by
  rw [resetSession, if_pos hused]

theorem resetSession_directory (d : Desk) (t : ResetToken) :
    (d.resetSession t).2.directory = d.directory := by
  rw [resetSession]
  split_ifs <;> rfl

theorem resetSession_sessions (d : Desk) (t : ResetToken) :
    (d.resetSession t).2.sessions = d.sessions := by
  rw [resetSession]
  split_ifs <;> rfl

/-- A block whose body keeps the registrations and leaves the block's token alone brings the earlier
    registration back. -/
theorem block_eq {α : Type} {d entered ended : Desk} {session : Nat} {body : Desk → α × Desk} {a : α}
    (hentered : (d.setSession (some session)).2 = entered) (hbody : body entered = (a, ended))
    (hcontext : ended.context = entered.context) (hregistered : ended.registered = entered.registered)
    (hunused : ended.isUsed d.freshToken = false) :
    d.block session body = ((.ok (), a),
      { ended with
        isUsed := fun k => decide (k = d.freshToken) || ended.isUsed k
        registered := d.registered }) := by
  have hblock : d.block session body =
      (((ended.resetSession (d.setSession (some session)).1).1, a),
        (ended.resetSession (d.setSession (some session)).1).2) := by
    show ((((body (d.setSession (some session)).2).2.resetSession _).1,
      (body (d.setSession (some session)).2).1),
      ((body (d.setSession (some session)).2).2.resetSession _).2) = _
    rw [hentered, hbody]
    rfl
  have hown : (d.setSession (some session)).1.context = ended.context := by
    rw [hcontext, ← hentered]
    rfl
  have hback : (fun c => if c = ended.context then d.current else ended.registered c) =
      d.registered := by
    funext c
    rw [hcontext, hregistered, ← hentered]
    show (if c = d.context then d.current else if c = d.context then _ else _) = _
    by_cases hc : c = d.context
    · rw [if_pos hc, hc, current]
    · rw [if_neg hc, if_neg hc]
  rw [hblock, resetSession_of_unused hunused hown]
  rw [← hback]
  rfl

end Desk

end Faultline
