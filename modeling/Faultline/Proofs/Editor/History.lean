import Faultline.Editor
import Mathlib.Data.List.DropRight
import Mathlib.Tactic.SplitIfs

/-!
# What an editor shows

An editor session is called any number of times, each time in some directory, and its client is
never gone. `Call.effect?` says what a call does unless it fails: it counts, it adds a diagnostic to
a document, or it clears a document. What the session keeps and what its client was sent follow from
the effects alone: `standing` takes the diagnostics that were added to a document since it was
cleared.

Results:
* `make_cases`: everything a call does to a session.
* `effect?_notify_eq_none_iff`, `effect?_report_eq_none_iff`: which calls fail.
* `Tracks.make`: one more call keeps a session in step with the effects.
* `tracks_sessionAfter`: after any calls the session is in step with their effects.
* `sessionAfter_calls`: the editor sees what the session keeps, and calls that fail leave no trace.
-/

namespace Faultline.EditorSession

/-! ## Calls -/

/-- What a session is called for. -/
inductive Request where
  | notify (file : Text) (line message : Value)
  | register
  | report (kind : Kind) (message : Value) (file : Text) (line : Value)
  | clear (file : Text)

/-- A call of a session, made in a directory or in none. -/
structure Call where
  directory : Option Text
  request : Request

/-- Makes a call. -/
def Call.make (c : Call) (s : EditorSession) : Outcome Unit × EditorSession :=
  match c.request with
  | .notify file line message => s.notifyWarning c.directory ⟨.string file, line, message⟩
  | .register => (.ok (), s.registerWarning)
  | .report kind message file line => s.reportError c.directory ⟨kind, message, .string file, line⟩
  | .clear file => s.clear c.directory (.string file)

/-- The session after calls, made one after the other whether they fail or not. -/
def sessionAfter (calls : List Call) : EditorSession :=
  calls.foldl (fun s c => (c.make s).2) (initial false)

/-! ## Publishing -/

/-- The session after the diagnostics of a document were set and sent. -/
def posted (s : EditorSession) (document : Text) (diagnostics : List EditorDiagnostic) :
    EditorSession :=
  { s.setDocument document diagnostics with sent := s.sent ++ [(document, diagnostics)] }

section Posted

variable (s : EditorSession) (u : Text) (ds : List EditorDiagnostic)

@[simp] theorem posted_sent : (s.posted u ds).sent = s.sent ++ [(u, ds)] := rfl

@[simp] theorem posted_count : (s.posted u ds).count = s.count := rfl

theorem posted_documents (v : Text) :
    (s.posted u ds).documents v = if v = u then ds else s.documents v := rfl

variable {s}

theorem publish_setDocument (hs : s.clientGone = false) :
    (s.setDocument u ds).publish u ds = (.ok (), s.posted u ds) := by
  have hconnected : ¬ (s.setDocument u ds).clientGone = true := by
    show ¬ s.clientGone = true
    rw [hs]
    decide
  rw [publish, if_neg hconnected]
  rfl

end Posted

/-! ## Effects -/

/-- What a call does that does not fail. -/
inductive Effect where
  | count
  | add (document : Text) (d : EditorDiagnostic)
  | clear (document : Text)
deriving DecidableEq

/-- What a call does, unless it fails. -/
def Call.effect? (c : Call) : Option Effect :=
  match c.request with
  | .notify file line message =>
    (EditorDiagnostic.ofWarning ⟨.string file, line, message⟩).toOption.bind fun d =>
      (Uri.ofFile c.directory file).toOption.map fun u => .add u d
  | .register => some .count
  | .report kind message file line =>
    (EditorDiagnostic.ofDiagnostic ⟨kind, message, .string file, line⟩).toOption.bind fun d =>
      (Uri.ofFile c.directory file).toOption.map fun u => .add u d
  | .clear file => (Uri.ofFile c.directory file).toOption.map .clear

namespace Effect

/-- The document that an effect is about. -/
def document? : Effect → Option Text
  | .count => none
  | .add document _ | .clear document => some document

/-- The diagnostic that an effect adds to a document. -/
def added? (u : Text) : Effect → Option EditorDiagnostic
  | .add document d => if document = u then some d else none
  | .count | .clear _ => none

/-- The session after an effect: a document that changes is sent. -/
def apply (s : EditorSession) : Effect → EditorSession
  | .count => s.registerWarning
  | .add document d => s.posted document (s.documents document ++ [d])
  | .clear document => s.posted document []

end Effect

theorem add_eq {s : EditorSession} (hs : s.clientGone = false) (u : Text) (d : EditorDiagnostic) :
    s.add u d = (.ok (), Effect.apply s (.add u d)) :=
  publish_setDocument u _ hs

/-- Lines beyond the greatest position are no lines of an editor. -/
theorem atLine_eq_none_iff {n : Int} {t : Text} {severity : Severity} {code : Option Kind} :
    (EditorDiagnostic.atLine (.int n) (.string t) severity code).toOption = none ↔
      EditorDiagnostic.positionLimit < n := by
  have hlimit : EditorDiagnostic.positionLimit = 2147483647 := rfl
  unfold EditorDiagnostic.atLine EditorDiagnostic.lineOf EditorDiagnostic.checkedLine
  simp only
  split_ifs with hstart hnext
  · exact iff_of_true rfl (by omega)
  · exact iff_of_true rfl (by omega)
  · exact iff_of_false nofun (by omega)

theorem bind_map_eq_none_iff {α β γ : Type} {x : Option α} {y : Outcome β} {f : α → β → γ} :
    (x.bind fun a => y.toOption.map (f a)) = none ↔ x = none ∨ ¬ ∃ b, y = .ok b := by
  cases x with
  | none => exact iff_of_true rfl (.inl rfl)
  | some a =>
    cases y with
    | error failure => exact iff_of_true rfl (.inr nofun)
    | ok b => exact iff_of_false nofun (not_or.mpr ⟨nofun, fun h => h ⟨b, rfl⟩⟩)

/-- A warning has no effect exactly if its line is beyond the positions of an editor or its file has
    no address. -/
theorem effect?_notify_eq_none_iff {directory : Option Text} {file t : Text} {n : Int} :
    (Call.mk directory (.notify file (.int n) (.string t))).effect? = none ↔
      EditorDiagnostic.positionLimit < n ∨ ¬ ∃ u, Uri.ofFile directory file = .ok u := by
  rw [← atLine_eq_none_iff]
  exact bind_map_eq_none_iff

/-- The same of a fatal diagnostic. -/
theorem effect?_report_eq_none_iff {directory : Option Text} {kind : Kind} {file t : Text}
    {n : Int} :
    (Call.mk directory (.report kind (.string t) file (.int n))).effect? = none ↔
      EditorDiagnostic.positionLimit < n ∨ ¬ ∃ u, Uri.ofFile directory file = .ok u := by
  rw [← atLine_eq_none_iff]
  exact bind_map_eq_none_iff

/-- A call has its effect, or it fails and leaves the session as it is. -/
theorem make_cases (c : Call) {s : EditorSession} (hs : s.clientGone = false) :
    (∃ e, c.effect? = some e ∧ c.make s = (.ok (), e.apply s)) ∨
      c.effect? = none ∧ ∃ failure, c.make s = (.error failure, s) := by
  obtain ⟨directory, request⟩ := c
  cases request with
  | notify file line message =>
    simp only [Call.effect?, Call.make, notifyWarning, Uri.ofValue]
    cases hd : EditorDiagnostic.ofWarning ⟨.string file, line, message⟩ with
    | error failure => exact .inr ⟨rfl, failure, rfl⟩
    | ok d =>
      cases hu : Uri.ofFile directory file with
      | error failure => exact .inr ⟨rfl, failure, rfl⟩
      | ok u => exact .inl ⟨.add u d, rfl, add_eq hs u d⟩
  | register => exact .inl ⟨.count, rfl, rfl⟩
  | report kind message file line =>
    simp only [Call.effect?, Call.make, reportError, Uri.ofValue]
    cases hu : Uri.ofFile directory file with
    | error failure =>
      refine .inr ⟨?_, failure, rfl⟩
      cases EditorDiagnostic.ofDiagnostic ⟨kind, message, .string file, line⟩ with
      | error _ => rfl
      | ok d => rfl
    | ok u =>
      cases hd : EditorDiagnostic.ofDiagnostic ⟨kind, message, .string file, line⟩ with
      | error failure => exact .inr ⟨rfl, failure, rfl⟩
      | ok d => exact .inl ⟨.add u d, rfl, add_eq hs u d⟩
  | clear file =>
    simp only [Call.effect?, Call.make, EditorSession.clear, Uri.ofValue]
    cases hu : Uri.ofFile directory file with
    | error failure => exact .inr ⟨rfl, failure, rfl⟩
    | ok u => exact .inl ⟨.clear u, rfl, publish_setDocument u [] hs⟩

/-! ## In step with the effects -/

/-- The diagnostics that effects leave to a document: those added since it was last cleared. -/
def standing (u : Text) (effects : List Effect) : List EditorDiagnostic :=
  (effects.rtakeWhile fun e => e ≠ .clear u).filterMap (Effect.added? u)

/-- What was sent last about a document. -/
def latest? (u : Text) (sent : List Publication) : Option (List EditorDiagnostic) :=
  (sent.reverse.find? fun p => p.1 = u).map Prod.snd

/-- The session keeps and its client was sent what effects leave. -/
structure Tracks (effects : List Effect) (s : EditorSession) : Prop where
  connected : s.clientGone = false
  documents : ∀ u, s.documents u = standing u effects
  /-- What the client was sent last about a document is what the session keeps for it. -/
  latest : ∀ u ds, latest? u s.sent = some ds → ds = s.documents u
  /-- Every effect but counting is sent. -/
  sent_documents : s.sent.map Prod.fst = effects.filterMap Effect.document?
  count : s.count = effects.count .count

theorem standing_append_clear (u : Text) (effects : List Effect) :
    standing u (effects ++ [.clear u]) = [] := by
  rw [standing, List.rtakeWhile_concat, if_neg (by simp)]
  rfl

theorem standing_append {u : Text} {e : Effect} (he : e ≠ .clear u) (effects : List Effect) :
    standing u (effects ++ [e]) = standing u effects ++ (e.added? u).toList := by
  rw [standing, List.rtakeWhile_concat, if_pos (by simpa using he), List.filterMap_append]
  cases h : e.added? u with
  | none => simp [standing, h]
  | some d => simp [standing, h]

theorem latest?_append (u v : Text) (sent : List Publication) (ds : List EditorDiagnostic) :
    latest? u (sent ++ [(v, ds)]) = if v = u then some ds else latest? u sent := by
  unfold latest?
  rw [List.reverse_append, List.reverse_singleton, List.singleton_append, List.find?_cons]
  by_cases h : v = u
  · simp [h]
  · simp [h]

theorem tracks_initial : Tracks [] (initial false) where
  connected := rfl
  documents _ := rfl
  latest _ _ h := by cases h
  sent_documents := rfl
  count := rfl

/-- Setting and sending a document keeps the session in step with an effect on that document. -/
theorem Tracks.posted {effects : List Effect} {s : EditorSession} (h : Tracks effects s)
    {e : Effect} {u : Text} {ds : List EditorDiagnostic} (hu : e.document? = some u)
    (hds : ds = standing u (effects ++ [e])) : Tracks (effects ++ [e]) (s.posted u ds) where
  connected := h.connected
  documents v := by
    rw [posted_documents]
    split_ifs with hv
    · rw [hv, hds]
    · have hadded : e.added? v = none := by
        cases e with
        | count => cases hu
        | clear w => rfl
        | add w d =>
          cases hu
          exact if_neg (Ne.symm hv)
      have hclear : e ≠ .clear v := by
        rintro rfl
        cases hu
        exact hv rfl
      rw [h.documents, standing_append hclear, hadded, Option.toList_none, List.append_nil]
  latest v es hes := by
    rw [posted_sent, latest?_append] at hes
    rw [posted_documents]
    split_ifs at hes with hv
    · cases hes
      rw [if_pos hv.symm]
    · rw [if_neg (Ne.symm hv)]
      exact h.latest v es hes
  sent_documents := by simp [h.sent_documents, hu]
  count := by
    have hcount : e ≠ .count := by
      rintro rfl
      cases hu
    rw [posted_count, h.count, List.count_append, List.count_singleton]
    simp [hcount]

/-- An effect keeps the session in step. -/
theorem Tracks.apply {effects : List Effect} {s : EditorSession} (h : Tracks effects s)
    (e : Effect) : Tracks (effects ++ [e]) (e.apply s) := by
  cases e with
  | count =>
    exact {
      connected := h.connected
      documents := by
        intro u
        rw [standing_append (by nofun)]
        exact (h.documents u).trans (List.append_nil _).symm
      latest := h.latest
      sent_documents := by
        rw [List.filterMap_append]
        exact h.sent_documents.trans (List.append_nil _).symm
      count := by
        rw [List.count_append, List.count_singleton_self, ← h.count]
        rfl }
  | add u d =>
    refine h.posted rfl ?_
    rw [standing_append (by nofun), h.documents, Effect.added?, if_pos rfl]
    rfl
  | clear u => exact h.posted rfl (standing_append_clear u effects).symm

/-- One more call keeps the session in step. -/
theorem Tracks.make {calls : List Call} {s : EditorSession}
    (h : Tracks (calls.filterMap Call.effect?) s) (c : Call) :
    Tracks ((calls ++ [c]).filterMap Call.effect?) (c.make s).2 := by
  rw [List.filterMap_append]
  rcases make_cases c h.connected with ⟨e, he, hmake⟩ | ⟨hnone, failure, hmake⟩
  · rw [hmake, List.filterMap_cons_some he]
    exact h.apply e
  · rw [hmake, List.filterMap_cons_none hnone, List.filterMap_nil, List.append_nil]
    exact h

/-- After any calls the session is in step with their effects. -/
theorem tracks_sessionAfter (calls : List Call) :
    Tracks (calls.filterMap Call.effect?) (sessionAfter calls) := by
  induction calls using List.reverseRecOn with
  | nil => exact tracks_initial
  | append_singleton calls c ih =>
    rw [sessionAfter, List.foldl_append]
    exact ih.make c

/-- Counting is the only effect that is about no document. -/
theorem length_filterMap_document? (effects : List Effect) :
    (effects.filterMap Effect.document?).length =
      (effects.filter fun e => e ≠ .count).length := by
  induction effects with
  | nil => rfl
  | cons e effects ih =>
    cases e with
    | count => exact ih
    | add u d => exact congrArg Nat.succ ih
    | clear u => exact congrArg Nat.succ ih

/-- After any calls, what a session keeps for a document is what the calls that did not fail
    reported for it since it was cleared; the client was sent the same last; the documents sent are
    those of the calls, in order; and one more call changes no other document than its own, fails
    exactly if it has no effect, and then leaves the session as it is. A report has no effect if its
    line is beyond the positions of an editor or its file has no address. -/
theorem sessionAfter_calls (calls : List Call) :
    (∀ directory file u, Uri.ofFile directory file = .ok u →
      (sessionAfter calls).diagnosticsFor directory (.string file) =
        .ok (standing u (calls.filterMap Call.effect?)) ∧
      ∀ ds, latest? u (sessionAfter calls).sent = some ds →
        (sessionAfter calls).diagnosticsFor directory (.string file) = .ok ds) ∧
    (sessionAfter calls).sent.map Prod.fst =
      (calls.filterMap Call.effect?).filterMap Effect.document? ∧
    (sessionAfter calls).sent.length =
      ((calls.filterMap Call.effect?).filter fun e => e ≠ .count).length ∧
    (sessionAfter calls).count = (calls.filterMap Call.effect?).count .count ∧
    (∀ c : Call,
      (∀ u, c.effect?.bind Effect.document? ≠ some u →
        (c.make (sessionAfter calls)).2.documents u = (sessionAfter calls).documents u) ∧
      ((∃ failure, (c.make (sessionAfter calls)).1 = .error failure) ↔ c.effect? = none) ∧
      ∀ failure, (c.make (sessionAfter calls)).1 = .error failure →
        (c.make (sessionAfter calls)).2 = sessionAfter calls) ∧
    ∀ directory kind file t (n : Int),
      ((Call.mk directory (.notify file (.int n) (.string t))).effect? = none ↔
        EditorDiagnostic.positionLimit < n ∨ ¬ ∃ u, Uri.ofFile directory file = .ok u) ∧
      ((Call.mk directory (.report kind (.string t) file (.int n))).effect? = none ↔
        EditorDiagnostic.positionLimit < n ∨ ¬ ∃ u, Uri.ofFile directory file = .ok u) := by
  have htracks := tracks_sessionAfter calls
  have hkept {directory : Option Text} {file u : Text} (hu : Uri.ofFile directory file = .ok u) :
      (sessionAfter calls).diagnosticsFor directory (.string file) =
        .ok ((sessionAfter calls).documents u) := by
    rw [diagnosticsFor, Uri.ofValue, hu]
  refine ⟨?_, htracks.sent_documents, ?_, htracks.count, ?_, ?_⟩
  · intro directory file u hu
    refine ⟨?_, ?_⟩
    · rw [hkept hu, htracks.documents]
    · intro ds hds
      rw [hkept hu, htracks.latest u ds hds]
  · rw [← length_filterMap_document?, ← htracks.sent_documents, List.length_map]
  · intro c
    rcases make_cases c htracks.connected with ⟨e, he, hmake⟩ | ⟨hnone, failure, hmake⟩
    · rw [hmake, he]
      refine ⟨?_, iff_of_false nofun nofun, nofun⟩
      intro u hu
      cases e with
      | count => rfl
      | add v d => exact if_neg fun h => hu (congrArg some h.symm)
      | clear v => exact if_neg fun h => hu (congrArg some h.symm)
    · rw [hmake, hnone]
      exact ⟨fun _ _ => rfl, iff_of_true ⟨failure, rfl⟩ rfl, fun _ _ => rfl⟩
  · intro directory kind file t n
    exact ⟨effect?_notify_eq_none_iff, effect?_report_eq_none_iff⟩

/-- Warnings about one document under two names, the second of which is beyond the positions of an
    editor, and a fatal diagnostic after the document was cleared. -/
def mixedCalls : List Call :=
  [⟨some (text "/w"), .notify (text "a.ex") (.int 3) (.string (text "x"))⟩,
    ⟨none, .register⟩,
    ⟨none, .clear (text "/w/a.ex")⟩,
    ⟨none, .notify (text "/w/a.ex") (.int 2147483648) (.string (text "y"))⟩,
    ⟨some (text "/w"), .notify (text "./a.ex") (.int 0) (.string (text "z"))⟩,
    ⟨none, .report .malformed (.string (text "e")) (text "file:///w/a.ex") (.int 7)⟩]

theorem sessionAfter_mixedCalls :
    (sessionAfter mixedCalls).diagnosticsFor (some (text "/w")) (.string (text "a.ex")) =
      .ok [⟨0, text "z", .warning, none⟩, ⟨6, text "e", .error, some .malformed⟩] ∧
    (sessionAfter mixedCalls).sent.length = 4 ∧ (sessionAfter mixedCalls).count = 1 := by
  have heffects : mixedCalls.filterMap Call.effect? =
      [.add (text "file:///w/a.ex") ⟨2, text "x", .warning, none⟩, .count,
        .clear (text "file:///w/a.ex"),
        .add (text "file:///w/a.ex") ⟨0, text "z", .warning, none⟩,
        .add (text "file:///w/a.ex") ⟨6, text "e", .error, some .malformed⟩] := by
    decide +kernel
  have hcalls := sessionAfter_calls mixedCalls
  rw [heffects] at hcalls
  obtain ⟨hdocuments, -, hsent, hcount, -⟩ := hcalls
  have hu : Uri.ofFile (some (text "/w")) (text "a.ex") = .ok (text "file:///w/a.ex") := rfl
  refine ⟨?_, ?_, ?_⟩
  · rw [(hdocuments _ _ _ hu).1]
    exact congrArg Except.ok (by decide +kernel)
  · rw [hsent]
    decide +kernel
  · rw [hcount]
    decide +kernel

end Faultline.EditorSession
