import Faultline.Proofs.Session.Reporting
import Faultline.Script

/-!
# Every warning is delivered once

A program in one context reports warnings, drains sessions, raises diagnostics and catches them, and
runs parts of itself in blocks, to any depth and with any sessions. `run` runs it at a desk.
`course` says what it reports without a desk: which calls are reached, and for each report the
session of the innermost block around it in the program. All sessions are mailboxes. A call whose
line is refused reports nothing. The course is right for programs whose lines can be written, which
`LinesFit` tells.

Results:
* `Delivers.block`: a block delivers what its body delivers, and the earlier registration is back
  after it.
* `meets_runAll`: a run delivers the reports of its course and ends as the course ends.
* `runAll_opening`: every warning is drained or pending exactly once, in the session of the innermost
  block, and the console shows every report in order.
-/

namespace Faultline

/-- A program in one context. -/
inductive Program where
  | warn (line : Value) (file t : Text)
  | warnMessage (t : Text)
  | drain (session : Nat)
  | parseError (line file lead token : Value)
  | compileError (metadata file message : Value) (arguments : List Value)
  /-- A program with a session registered. -/
  | block (session : Nat) (body : List Program)
  /-- A program, and another one in case that the first ends with a failure that is caught. -/
  | attempt (body : List Program) (catches : Failure → Bool) (handler : List Program)

/-- What is seen of the sessions in a run. -/
inductive Sight where
  /-- A session was drained. -/
  | drained (session : Nat) (warnings : List Warning)
  /-- A block was left: the sessions that were registered before it and are registered after it. -/
  | left (before after : Option Nat)

/-- A report of a warning. -/
inductive Report where
  | located (w : Warning)
  | message (t : Text)

namespace Report

/-- What the console shows of a report after its mark. -/
def body (directory : Option Text) : Report → Outcome Text
  | .located w => w.render directory
  | .message t => .ok t

/-- The warning that a session keeps of a report. -/
def warning? : Report → Option Warning
  | .located w => some w
  | .message _ => none

end Report

namespace Program

/-! ## Runs -/

mutual

/-- Runs a program: how it ends, and what is seen of the sessions. -/
def run (d : Desk) (p : Program) : (Outcome Unit × List Sight) × Desk :=
  match p with
  | .warn line file t =>
    let (ending, after) := d.warn line (.string file) (.string t)
    ((ending, []), after)
  | .warnMessage t => ((.ok (), []), d.warnMessage t)
  | .drain session =>
    match d.withSession session Script.drainSession with
    | (.ok warnings, after) => ((.ok (), [.drained session warnings]), after)
    | (.error failure, after) => ((.error failure, []), after)
  | .parseError line file lead token =>
    ((.error (Faultline.parseError line file lead token), []), d)
  | .compileError metadata file message arguments =>
    ((.error (Faultline.compileError metadata file message arguments), []), d)
  | .block session body =>
    let ((restored, ending, sights), after) := d.block session fun d => runAll d body
    ((restored.bind fun _ => ending, sights ++ [.left d.current after.current]), after)
  | .attempt body catches handler =>
    match runAll d body with
    | ((.ok (), sights), after) => ((.ok (), sights), after)
    | ((.error failure, sights), after) =>
      if catches failure then
        let ((ending, more), last) := runAll after handler
        ((ending, sights ++ more), last)
      else ((.error failure, sights), after)
termination_by structural p

/-- Runs programs one after the other, up to the first that fails. -/
def runAll (d : Desk) (ps : List Program) : (Outcome Unit × List Sight) × Desk :=
  match ps with
  | [] => ((.ok (), []), d)
  | p :: rest =>
    match run d p with
    | ((.ok (), sights), after) =>
      let ((ending, more), last) := runAll after rest
      ((ending, sights ++ more), last)
    | ((.error failure, sights), after) => ((.error failure, sights), after)
termination_by structural ps

end

/-! ## Courses -/

mutual

/-- The reports of a program inside a block or none, each with the session of the innermost block
    around it, and how the program ends. -/
def course (innermost : Option Nat) (p : Program) : List (Option Nat × Report) × Outcome Unit :=
  match p with
  | .warn line file t =>
    match coerceLine line with
    | .ok n => ([(innermost, .located ⟨.string file, .int n, .string t⟩)], .ok ())
    | .error failure => ([], .error failure)
  | .warnMessage t => ([(innermost, .message t)], .ok ())
  | .drain _ => ([], .ok ())
  | .parseError line file lead token =>
    ([], .error (Faultline.parseError line file lead token))
  | .compileError metadata file message arguments =>
    ([], .error (Faultline.compileError metadata file message arguments))
  | .block session body => courseAll (some session) body
  | .attempt body catches handler =>
    match courseAll innermost body with
    | (reports, .ok ()) => (reports, .ok ())
    | (reports, .error failure) =>
      if catches failure then
        let (more, ending) := courseAll innermost handler
        (reports ++ more, ending)
      else (reports, .error failure)
termination_by structural p

/-- The reports of programs one after the other, up to the first that fails, and how they end. -/
def courseAll (innermost : Option Nat) (ps : List Program) :
    List (Option Nat × Report) × Outcome Unit :=
  match ps with
  | [] => ([], .ok ())
  | p :: rest =>
    match course innermost p with
    | (reports, .ok ()) =>
      let (more, ending) := courseAll innermost rest
      (reports ++ more, ending)
    | (reports, .error failure) => (reports, .error failure)
termination_by structural ps

end

mutual

/-- The lines of all warnings in a program can be written, unless they are refused. -/
def LinesFit (p : Program) : Prop :=
  match p with
  | .warn line _ _ => ∀ n, coerceLine line = .ok n → n < 10 ^ Numeral.decimalLimit
  | .block _ body => LinesFitAll body
  | .attempt body _ handler => LinesFitAll body ∧ LinesFitAll handler
  | .warnMessage _ | .drain _ | .parseError _ _ _ _ | .compileError _ _ _ _ => True
termination_by structural p

/-- The lines of all warnings in programs can be written, unless they are refused. -/
def LinesFitAll (ps : List Program) : Prop :=
  match ps with
  | [] => True
  | p :: rest => LinesFit p ∧ LinesFitAll rest
termination_by structural ps

end

/-! ## What is due to a session -/

/-- The reports that were made while a session was the innermost. -/
def reportsTo (session : Nat) (reports : List (Option Nat × Report)) : List Report :=
  (reports.filter fun r => r.1 == some session).map Prod.snd

/-- The warnings that were drained from a session, oldest first. -/
def drainedFrom (session : Nat) (sights : List Sight) : List Warning :=
  sights.flatMap fun
    | .drained n warnings => if n = session then warnings else []
    | .left _ _ => []

/-- The blocks that were left: what was registered before each and what was after it. -/
def leavings (sights : List Sight) : List (Option Nat × Option Nat) :=
  sights.filterMap fun
    | .drained _ _ => none
    | .left before after => some (before, after)

/-- What the console shows of texts, each with the mark in front. -/
def shown (mark : Text) (bodies : List Text) : Text :=
  bodies.flatMap fun body => mark ++ body ++ text "\n"

@[simp] theorem reportsTo_append (n : Nat) (rs rs' : List (Option Nat × Report)) :
    reportsTo n (rs ++ rs') = reportsTo n rs ++ reportsTo n rs' := by
  simp [reportsTo]

@[simp] theorem drainedFrom_append (n : Nat) (ss ss' : List Sight) :
    drainedFrom n (ss ++ ss') = drainedFrom n ss ++ drainedFrom n ss' := by
  simp [drainedFrom]

@[simp] theorem leavings_append (ss ss' : List Sight) :
    leavings (ss ++ ss') = leavings ss ++ leavings ss' :=
  List.filterMap_append

end Program

/-! ## Delivery -/

/-- What a program needs of the desk: all sessions are mailboxes, and tokens that were not made were
    not used. -/
structure Desk.Ready (d : Desk) : Prop where
  mailboxes : ∀ n, ∃ m, d.sessions n = .mailbox m
  unused : ∀ k, d.freshToken ≤ k → d.isUsed k = false

namespace Program

/-- A desk after another, with reports made and sights seen in between: the reports are with their
    sessions and on the console, and the registrations are what they were. -/
structure Delivers (d : Desk) (reports : List (Option Nat × Report)) (sights : List Sight)
    (after : Desk) : Prop where
  directory : after.directory = d.directory
  context : after.context = d.context
  registered : after.registered = d.registered
  mark : after.console.warningMark = d.console.warningMark
  freshToken : d.freshToken ≤ after.freshToken
  /-- Only tokens that were made in between were used in between. -/
  isUsed : ∀ k, k < d.freshToken → after.isUsed k = d.isUsed k
  unused : ∀ k, after.freshToken ≤ k → after.isUsed k = false
  mailbox : ∀ n m, d.sessions n = .mailbox m → ∃ m', after.sessions n = .mailbox m' ∧
    m'.title = m.title ∧
    drainedFrom n sights ++ m'.pending =
      m.pending ++ (reportsTo n reports).filterMap Report.warning? ∧
    m'.count = m.count + (reportsTo n reports).length
  written : ∃ bodies, reports.map (fun r => r.2.body d.directory) = bodies.map .ok ∧
    after.written = d.written ++ shown d.console.warningMark bodies
  left : ∀ block ∈ leavings sights, block.2 = block.1

section Delivers

variable {d middle after : Desk} {reports more : List (Option Nat × Report)}
  {sights later : List Sight}

theorem Delivers.current (h : Delivers d reports sights after) : after.current = d.current := by
  rw [Desk.current, h.registered, h.context, Desk.current]

theorem Delivers.ready (hd : d.Ready) (h : Delivers d reports sights after) : after.Ready where
  mailboxes n := by
    obtain ⟨m, hm⟩ := hd.mailboxes n
    obtain ⟨m', hm', -⟩ := h.mailbox n m hm
    exact ⟨m', hm'⟩
  unused := h.unused

theorem Delivers.refl (hd : d.Ready) : Delivers d [] [] d where
  directory := rfl
  context := rfl
  registered := rfl
  mark := rfl
  freshToken := Nat.le_refl _
  isUsed _ _ := rfl
  unused := hd.unused
  mailbox _ m hm := ⟨m, hm, rfl, (List.append_nil _).symm, rfl⟩
  written := ⟨[], rfl, (List.append_nil _).symm⟩
  left _ h := nomatch h

theorem Delivers.trans (h : Delivers d reports sights middle)
    (h' : Delivers middle more later after) :
    Delivers d (reports ++ more) (sights ++ later) after where
  directory := h'.directory.trans h.directory
  context := h'.context.trans h.context
  registered := h'.registered.trans h.registered
  mark := h'.mark.trans h.mark
  freshToken := Nat.le_trans h.freshToken h'.freshToken
  isUsed k hk := (h'.isUsed k (Nat.lt_of_lt_of_le hk h.freshToken)).trans (h.isUsed k hk)
  unused := h'.unused
  mailbox n m hm := by
    obtain ⟨m', hm', htitle, hpending, hcount⟩ := h.mailbox n m hm
    obtain ⟨m'', hm'', htitle', hpending', hcount'⟩ := h'.mailbox n m' hm'
    refine ⟨m'', hm'', htitle'.trans htitle, ?_, ?_⟩
    · calc drainedFrom n (sights ++ later) ++ m''.pending
          = drainedFrom n sights ++ (drainedFrom n later ++ m''.pending) := by
            rw [drainedFrom_append, List.append_assoc]
        _ = (drainedFrom n sights ++ m'.pending) ++
              (reportsTo n more).filterMap Report.warning? := by
            rw [hpending', List.append_assoc]
        _ = m.pending ++ (reportsTo n (reports ++ more)).filterMap Report.warning? := by
            rw [hpending, reportsTo_append, List.filterMap_append, List.append_assoc]
    · rw [hcount', hcount, reportsTo_append, List.length_append, Nat.add_assoc]
  written := by
    obtain ⟨bodies, hbodies, hwritten⟩ := h.written
    obtain ⟨bodies', hbodies', hwritten'⟩ := h'.written
    refine ⟨bodies ++ bodies', ?_, ?_⟩
    · rw [List.map_append, List.map_append, hbodies, ← hbodies', h.directory]
    · rw [hwritten', hwritten, h.mark, shown, shown, shown, List.flatMap_append,
        List.append_assoc]
  left block hblock := by
    rw [leavings_append] at hblock
    rcases List.mem_append.mp hblock with hblock | hblock
    · exact h.left block hblock
    · exact h'.left block hblock

end Delivers

/-! ## Single calls -/

section Calls

variable {d after : Desk}

/-- A report that a mailbox keeps and counts is delivered. -/
theorem delivers_report {r : Report} {body : Text} {change : Session → Session} (hd : d.Ready)
    (h : Desk.Reported change d after)
    (hchange : ∀ m, change (.mailbox m) =
      .mailbox { m with
        pending := m.pending ++ [r].filterMap Report.warning?, count := m.count + 1 })
    (hbody : r.body d.directory = .ok body)
    (hwritten : after.written = d.written ++ d.console.warningMark ++ body ++ text "\n") :
    Delivers d [(d.current, r)] [] after where
  directory := h.directory
  context := h.context
  registered := h.registered
  mark := h.mark
  freshToken := Nat.le_of_eq h.freshToken.symm
  isUsed _ _ := by rw [h.isUsed]
  unused := by
    rw [h.freshToken, h.isUsed]
    exact hd.unused
  mailbox n m hm := by
    have hsession := h.sessions n
    by_cases hn : d.current = some n
    · rw [if_pos hn, hm, hchange] at hsession
      have hto : reportsTo n [(d.current, r)] = [r] := by simp [reportsTo, hn]
      refine ⟨_, hsession, rfl, ?_, ?_⟩
      · rw [hto]
        rfl
      · rw [hto]
        rfl
    · rw [if_neg hn, hm] at hsession
      have hto : reportsTo n [(d.current, r)] = [] := by simp [reportsTo, hn]
      refine ⟨_, hsession, rfl, ?_, ?_⟩
      · rw [hto]
        exact (List.append_nil _).symm
      · rw [hto]
        rfl
  written := by
    refine ⟨[body], ?_, ?_⟩
    · rw [List.map_singleton, List.map_singleton, hbody]
    · rw [hwritten, shown, List.flatMap_singleton, List.append_assoc, List.append_assoc,
        List.append_assoc]
  left _ h := nomatch h

theorem delivers_warnMessage (hd : d.Ready) (t : Text) :
    Delivers d [(d.current, .message t)] [] (d.warnMessage t) := by
  refine delivers_report hd (Desk.reported_warnMessage d t) (fun m => ?_) rfl
    (Desk.written_warnMessage d t)
  show Session.mailbox m.registerWarning = .mailbox ⟨m.title, m.pending ++ [], m.count + 1⟩
  rw [List.append_nil]
  rfl

/-- A warning whose line can be read and written is reported, and its line is what was read. -/
theorem delivers_warn (hd : d.Ready) {line : Value} (file t : Text) {n : Nat}
    (hline : coerceLine line = .ok n) (hn : n < 10 ^ Numeral.decimalLimit) :
    (d.warn line (.string file) (.string t)).1 = .ok () ∧
      Delivers d [(d.current, .located ⟨.string file, .int n, .string t⟩)] []
        (d.warn line (.string file) (.string t)).2 := by
  have hbody := Desk.placedText_of_lt d.directory file t hn
  have hwarn := Desk.warn_eq d hline hbody
  refine ⟨congrArg Prod.fst hwarn, ?_⟩
  refine delivers_report hd (Desk.reported_warn d line _ _) (fun m => ?_)
    ((Desk.render_eq_placedText _ _).trans hbody) ?_
  · rw [Session.warned_of_lt hline hn]
    rfl
  · rw [hwarn, Desk.written_warnMessage, Desk.tellSession_written, Desk.tellSession_console]

/-- Draining a session takes what is pending there. -/
theorem delivers_drain (hd : d.Ready) (session : Nat) :
    ∃ warnings after, d.withSession session Script.drainSession = (.ok warnings, after) ∧
      Delivers d [] [.drained session warnings] after := by
  obtain ⟨m, hm⟩ := hd.mailboxes session
  refine ⟨m.pending, d.putSession session (.mailbox { m with pending := [] }), ?_, ?_⟩
  · rw [Desk.withSession, hm]
    rfl
  · refine { Delivers.refl hd with mailbox := fun n m' hm' => ?_ }
    by_cases hn : n = session
    · have hsame : m' = m := Session.mailbox.inj (hm'.symm.trans (hn ▸ hm))
      subst hn hsame
      refine ⟨{ m' with pending := [] }, if_pos rfl, rfl, ?_, rfl⟩
      simp [drainedFrom, reportsTo]
    · refine ⟨m', (if_neg hn).trans hm', rfl, ?_, rfl⟩
      simp [drainedFrom, reportsTo, Ne.symm hn]

/-- A block delivers what its body delivers with the session registered, and the earlier
    registration is back after it. -/
theorem Delivers.block (hd : d.Ready) {session : Nat} {entered : Desk}
    (body : Desk → (Outcome Unit × List Sight) × Desk) {reports : List (Option Nat × Report)}
    (hentered : (d.setSession (some session)).2 = entered)
    (h : Delivers entered reports (body entered).1.2 (body entered).2) :
    ∃ after, d.block session body = ((.ok (), (body entered).1), after) ∧
      Delivers d reports ((body entered).1.2 ++ [.left d.current after.current]) after := by
  rcases hbody : body entered with ⟨⟨ending, sights⟩, ended⟩
  have h : Delivers entered reports sights ended := by
    rw [hbody] at h
    exact h
  -- the block's token is the first that was not made, so that the body neither makes nor uses it
  have hmade : entered.freshToken = d.freshToken + 1 := hentered ▸ rfl
  have hunused : ended.isUsed d.freshToken = false := by
    rw [h.isUsed _ (by omega), ← hentered]
    exact hd.unused _ (Nat.le_refl _)
  refine ⟨_, Desk.block_eq hentered hbody h.context h.registered hunused, ?_⟩
  have hcontext : ended.context = d.context := by
    rw [h.context, ← hentered]
    rfl
  subst hentered
  have hlater := h.freshToken
  exact {
    directory := h.directory
    context := hcontext
    registered := rfl
    mark := h.mark
    freshToken := by
      show d.freshToken ≤ ended.freshToken
      omega
    isUsed := fun k hk => by
      show (decide (k = d.freshToken) || ended.isUsed k) = d.isUsed k
      rw [decide_eq_false (by omega), Bool.false_or, h.isUsed k (by omega)]
      rfl
    unused := fun k (hk : ended.freshToken ≤ k) => by
      show (decide (k = d.freshToken) || ended.isUsed k) = false
      rw [decide_eq_false (by omega), Bool.false_or, h.unused k hk]
    mailbox := fun n m hm => by
      obtain ⟨m', hm', htitle, hpending, hcount⟩ := h.mailbox n m hm
      refine ⟨m', hm', htitle, ?_, hcount⟩
      rw [drainedFrom_append, ← hpending]
      simp [drainedFrom]
    written := h.written
    left := fun block hblock => by
      rw [leavings_append] at hblock
      rcases List.mem_append.mp hblock with hblock | hblock
      · exact h.left block hblock
      · obtain rfl := List.mem_singleton.mp hblock
        show d.registered ended.context = d.registered d.context
        rw [hcontext] }

end Calls

/-! ## Runs deliver their course -/

/-- A run that started at a desk ended as a course ends and delivered its reports. -/
structure Meets (d : Desk) (result : (Outcome Unit × List Sight) × Desk)
    (course : List (Option Nat × Report) × Outcome Unit) : Prop where
  ending : result.1.1 = course.2
  delivers : Delivers d course.1 result.1.2 result.2

-- a block and an attempt run lists of programs, so that programs and lists are shown together
mutual

theorem meets_run {d : Desk} (hd : d.Ready) (p : Program) (hp : p.LinesFit) :
    Meets d (run d p) (course d.current p) := by
  match p with
  | .warn line file t =>
    rw [run, course]
    rw [LinesFit] at hp
    cases hline : coerceLine line with
    | error failure =>
      rw [Desk.warn_of_coerceLine_error d _ _ hline]
      exact ⟨rfl, .refl hd⟩
    | ok n =>
      obtain ⟨hending, hdelivers⟩ := delivers_warn hd file t hline (hp n hline)
      exact ⟨hending, hdelivers⟩
  | .warnMessage t => exact ⟨rfl, delivers_warnMessage hd t⟩
  | .drain session =>
    obtain ⟨warnings, after, hdrain, hdelivers⟩ := delivers_drain hd session
    rw [run, hdrain]
    exact ⟨rfl, hdelivers⟩
  | .parseError line file lead token => exact ⟨rfl, .refl hd⟩
  | .compileError metadata file message arguments => exact ⟨rfl, .refl hd⟩
  | .block session body =>
    have hentered : (d.setSession (some session)).2.Ready :=
      ⟨hd.mailboxes, fun k hk => hd.unused k (Nat.le_of_succ_le hk)⟩
    have hcurrent : (d.setSession (some session)).2.current = some session := if_pos rfl
    rw [LinesFit] at hp
    obtain ⟨hending, hdelivers⟩ := meets_runAll hentered body hp
    rw [hcurrent] at hending hdelivers
    obtain ⟨after, hblock, hafter⟩ := hdelivers.block hd (fun d => runAll d body) rfl
    rw [run, hblock]
    exact ⟨hending, hafter⟩
  | .attempt body catches handler =>
    rw [LinesFit] at hp
    obtain ⟨hbody, hhandler⟩ := hp
    have h := meets_runAll hd body hbody
    rw [run, course]
    rcases hrun : runAll d body with ⟨⟨ending, sights⟩, middle⟩
    rcases hcourse : courseAll d.current body with ⟨reports, ending'⟩
    rw [hrun, hcourse] at h
    obtain ⟨rfl, hdelivers⟩ := h
    cases ending with
    | ok _ => exact ⟨rfl, hdelivers⟩
    | error failure =>
      by_cases hcatches : catches failure
      · obtain ⟨hending, hmore⟩ := meets_runAll (hdelivers.ready hd) handler hhandler
        rw [hdelivers.current] at hending hmore
        simp only [hcatches, if_true]
        exact ⟨hending, hdelivers.trans hmore⟩
      · simp only [hcatches]
        exact ⟨rfl, hdelivers⟩
termination_by structural p

theorem meets_runAll {d : Desk} (hd : d.Ready) (ps : List Program) (hps : LinesFitAll ps) :
    Meets d (runAll d ps) (courseAll d.current ps) := by
  match ps with
  | [] => exact ⟨rfl, .refl hd⟩
  | p :: rest =>
    rw [LinesFitAll] at hps
    obtain ⟨hp, hrest⟩ := hps
    have h := meets_run hd p hp
    rw [runAll, courseAll]
    rcases hrun : run d p with ⟨⟨ending, sights⟩, middle⟩
    rcases hcourse : course d.current p with ⟨reports, ending'⟩
    rw [hrun, hcourse] at h
    obtain ⟨rfl, hdelivers⟩ := h
    cases ending with
    | ok _ =>
      obtain ⟨hending, hmore⟩ := meets_runAll (hdelivers.ready hd) rest hrest
      rw [hdelivers.current] at hending hmore
      exact ⟨hending, hdelivers.trans hmore⟩
    | error failure => exact ⟨rfl, hdelivers⟩
termination_by structural ps

end

/-- The desk before a program runs: mailboxes with titles, nothing registered or written. -/
def opening (directory : Option Text) (console : Console) (title : Nat → Value) : Desk :=
  { Desk.initial directory console with sessions := fun n => .mailbox (.initial (title n)) }

/-- A program whose lines can be written ends as its course ends. After every block the earlier
    registration is back. What is drained from a session and what is pending there are the located
    warnings that were reported while it was the innermost, in order, and its count is the number of
    reports; raised diagnostics and warnings whose line is refused are no reports. The console shows
    every report, in order and behind the mark. -/
theorem runAll_opening (directory : Option Text) (console : Console) (title : Nat → Value)
    (ps : List Program) (hps : LinesFitAll ps) :
    ∃ sights after,
      runAll (opening directory console title) ps = (((courseAll none ps).2, sights), after) ∧
      (∀ block ∈ leavings sights, block.2 = block.1) ∧
      after.current = none ∧
      (∀ n, ∃ pending,
        after.sessions n =
          .mailbox ⟨title n, pending, (reportsTo n (courseAll none ps).1).length⟩ ∧
        drainedFrom n sights ++ pending =
          (reportsTo n (courseAll none ps).1).filterMap Report.warning?) ∧
      ∃ bodies,
        (courseAll none ps).1.map (fun r => r.2.body directory) = bodies.map .ok ∧
        after.written = shown console.warningMark bodies := by
  have hready : (opening directory console title).Ready := ⟨fun n => ⟨_, rfl⟩, fun _ _ => rfl⟩
  obtain ⟨hending, hdelivers⟩ := meets_runAll hready ps hps
  refine ⟨_, _, Prod.ext (Prod.ext hending rfl) rfl, hdelivers.left, hdelivers.current,
    fun n => ?_, ?_⟩
  · obtain ⟨m, hsession, htitle, hpending, hcount⟩ := hdelivers.mailbox n _ rfl
    have htitle : m.title = title n := htitle
    have hcount : m.count = (reportsTo n (courseAll none ps).1).length :=
      hcount.trans (Nat.zero_add _)
    refine ⟨m.pending, ?_, hpending⟩
    rw [hsession, ← htitle, ← hcount]
  · obtain ⟨bodies, hbodies, hwritten⟩ := hdelivers.written
    exact ⟨bodies, hbodies, hwritten⟩

/-- A failure that leaves two blocks and is caught in the block around them. -/
def nestedBlocks : List Program :=
  [.block 0
    [.warn (.int 3) (text "a.ex") (text "unused"),
      .attempt
        [.block 1
          [.warnMessage (text "slow"),
            .block 0
              [.warn (.int 5) (text "b.ex") (text "odd"),
                .compileError .none (.string (text "a.ex")) (.string (text "bad")) [],
                .warnMessage (text "never")]]]
        (fun _ => true)
        [.drain 0, .warn .none (text "a.ex") (text "late")]]]

theorem runAll_nestedBlocks :
    LinesFitAll nestedBlocks ∧ ∃ sights after,
      runAll (opening none .initial fun _ => .none) nestedBlocks = ((.ok (), sights), after) ∧
      leavings sights = [(some 1, some 1), (some 0, some 0), (none, none)] ∧
      after.current = none ∧
      ∃ pending, after.sessions 0 = .mailbox ⟨.none, pending, 3⟩ ∧
        drainedFrom 0 sights ++ pending =
          [⟨.string (text "a.ex"), .int 3, .string (text "unused")⟩,
            ⟨.string (text "b.ex"), .int 5, .string (text "odd")⟩,
            ⟨.string (text "a.ex"), .int 0, .string (text "late")⟩] := by
  have hfits : LinesFitAll nestedBlocks := by
    simp only [nestedBlocks, LinesFitAll, LinesFit, and_true, true_and]
    refine ⟨?_, ?_, ?_⟩
    all_goals
      rintro n ⟨⟩
      decide +kernel
  obtain ⟨sights, after, hrun, -, hcurrent, hsessions, -⟩ :=
    runAll_opening none .initial (fun _ => .none) nestedBlocks hfits
  have hleavings : leavings sights = [(some 1, some 1), (some 0, some 0), (none, none)] := by
    have hrunLeavings : leavings (runAll (opening none .initial fun _ => .none) nestedBlocks).1.2 =
        [(some 1, some 1), (some 0, some 0), (none, none)] := by
      decide +kernel
    rw [hrun] at hrunLeavings
    exact hrunLeavings
  obtain ⟨pending, hsession, hpending⟩ := hsessions 0
  exact ⟨hfits, sights, after, hrun, hleavings, hcurrent, pending, hsession, hpending⟩

/-- A warning at a line below zero is refused: it is neither kept nor counted nor shown. One at a line
    with one digit too many is kept, and neither counted nor shown. -/
theorem runAll_unreported :
    (∃ after, (runAll (opening none .initial fun _ => .none)
        [.block 0 [.warn (.int (-1)) (text "a.ex") (text "x")]]).2 = after ∧
      after.sessions 0 = .mailbox ⟨.none, [], 0⟩ ∧ after.writes = []) ∧
    ∃ after, (runAll (opening none .initial fun _ => .none)
        [.block 0 [.warn (.int (10 ^ Numeral.decimalLimit : Nat)) (text "a.ex") (text "x")]]).2 =
        after ∧
      after.sessions 0 = .mailbox ⟨.none,
        [⟨.string (text "a.ex"), .int (10 ^ Numeral.decimalLimit : Nat), .string (text "x")⟩], 0⟩ ∧
      after.writes = [] := by
  refine ⟨⟨_, rfl, rfl, rfl⟩, _, rfl, ?_⟩
  have hbody : (fun d => runAll d
      [.warn (.int (10 ^ Numeral.decimalLimit : Nat)) (text "a.ex") (text "x")]) =
      fun d : Desk => ((.error .longInteger, []), d.tellSession (Session.notifyWarning d.directory
        ⟨.string (text "a.ex"), .int (10 ^ Numeral.decimalLimit : Nat), .string (text "x")⟩)) := by
    funext d
    rw [runAll, run, Desk.warn_of_placedText_error d rfl
      (Desk.placedText_of_le d.directory _ _ (Nat.le_refl _))]
  rw [runAll, run, hbody]
  exact ⟨rfl, rfl⟩

end Program

end Faultline
