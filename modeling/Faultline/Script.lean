import Faultline.Report

/-!
# Scripts

A script is a list of steps at a desk. Each step answers with a result or a failure, and with what
it wrote itself; a failure does not end the script. A block of steps runs with a session registered
and ends at its first failure; the earlier registration is back afterwards, however the block ended.
Steps in a thread start without a session, steps in a copied context with the registered one, and
what they register is gone afterwards. Sessions, the console and the directory are shared by all.

A script gives names to sessions and tokens. A name that is given again leaves the earlier session
without a name; it stays registered where it was.
-/

namespace Faultline.Script

/-- What a script makes sessions of. -/
inductive SessionKind where
  | mailbox
  | editor
  /-- An editor session whose client is gone. -/
  | lostEditor
  | refusing
  | notifyOnly
  | inert
deriving DecidableEq

/-- A new session. -/
def SessionKind.create (title : Value) : SessionKind → Session
  | .mailbox => .mailbox (.initial title)
  | .editor => .editor (.initial false)
  | .lostEditor => .editor (.initial true)
  | .refusing => .refusing
  | .notifyOnly => .notifyOnly []
  | .inert => .inert

/-- A step of a script. -/
inductive Step where
  | create (name : Text) (kind : SessionKind) (title : Value)
  | set (session : Option Text) (token : Text)
  | reset (token : Text)
  | current
  /-- Steps with a session registered. -/
  | block (session : Text) (steps : List Step)
  | thread (steps : List Step)
  | copiedContext (steps : List Step)
  | notify (session : Text) (w : Warning)
  | register (session : Text) (times : Nat)
  | count (session : Text)
  | describe (session : Text)
  | drain (session : Text)
  /-- Drains the warnings, each with its place as it is shown. -/
  | drainLines (session : Text)
  | seen (session : Text)
  | sent (session : Text)
  | diagnosticsFor (session : Text) (file : Value)
  | clear (session : Text) (file : Value)
  /-- Raises the diagnostic of a fragment and hands it to a session. -/
  | report (session : Text) (line file lead token : Value)
  | warn (line file t : Value)
  | warnMessage (t : Value)
  | formWarn (metadata file : Value) (formatter : Formatter) (description : Value)
  | parseError (line file lead token : Value)
  | compileError (metadata file message : Value) (arguments : List Value)
  | pin (colored : Option Bool)
  /-- Sets a variable of the environment; the value `none` unsets it. -/
  | setVariable (name : Text) (value : Value)
  | redirect (stream : Stream)
  | isColored
  | warningMark
  | colorize (v : Value) (color : Console.Color)
  | enter (directory : Option Text)

instance : Inhabited Step := ⟨.current⟩

mutual

/-- What a step answers. -/
inductive Result where
  | flag (b : Bool)
  | number (n : Nat)
  | words (t : Text)
  | value (v : Value)
  | lines (ts : List Text)
  /-- The name of the registered session, if there is one and it has a name. -/
  | session (name : Option Text)
  | warnings (ws : List Warning)
  | diagnostics (ds : List EditorDiagnostic)
  | publications (ps : List Publication)
  /-- The answers of the steps in another context. -/
  | answers (as : List Answer)
  /-- The answers in a block, whether its session still has its name at the end or else the failure
      that ended the block early, and the name of the session that is registered after it. -/
  | block (as : List Answer) (ending : Outcome Bool) (after : Option Text)

/-- The answer of a step: its result or failure, and what it wrote itself. -/
inductive Answer where
  | mk (result : Option Result) (failure : Option Failure) (written : Text)

end

/-- The answer with a result. -/
def Answer.ofResult (r : Result) : Answer := .mk (some r) none []

/-- The answer of an operation, given what it wrote. -/
def Answer.ofOutcome {α : Type} (written : Text) (result : α → Option Result) :
    Outcome α → Answer
  | .ok a => .mk (result a) none written
  | .error failure => .mk none (some failure) written

/-- The failure of the step that was answered. -/
def Answer.failure? : Answer → Option Failure
  | .mk _ failure _ => failure

/-- The failure of the last answer. -/
def lastFailure? (answers : List Answer) : Option Failure := answers.getLast?.bind Answer.failure?

/-! ## Names -/

/-- A desk, and what a script gave names to. -/
structure Stage where
  desk : Desk
  /-- The sessions with a name. -/
  sessions : List (Text × Nat)
  /-- The tokens by name. -/
  tokens : Text → Option ResetToken

namespace Stage

/-- A desk at which nothing has a name. -/
def initial (desk : Desk) : Stage := ⟨desk, [], fun _ => none⟩

/-- The session with a name. -/
def session? (s : Stage) (name : Text) : Option Nat :=
  (s.sessions.find? fun entry => entry.1 == name).map (·.2)

/-- The name of a session. -/
def name? (s : Stage) (number : Nat) : Option Text :=
  (s.sessions.find? fun entry => entry.2 == number).map (·.1)

/-- The name of the session that is registered in the running context. -/
def current (s : Stage) : Option Text := s.desk.current.bind s.name?

/-- Gives a session a name that no other session has from here on. -/
def nameSession (s : Stage) (name : Text) (number : Nat) : Stage :=
  { s with sessions := (name, number) :: s.sessions.filter fun entry => entry.1 != name }

/-- Gives a token a name. -/
def nameToken (s : Stage) (name : Text) (t : ResetToken) : Stage :=
  { s with tokens := fun n => if n = name then some t else s.tokens n }

end Stage

/-! ## Single steps -/

/-- Runs an operation at the desk and answers it with what it wrote. -/
def atDesk {α : Type} (s : Stage) (result : α → Option Result)
    (operation : Desk → Outcome α × Desk) : Answer × Stage :=
  let (outcome, after) := operation { s.desk with writes := [] }
  (.ofOutcome after.written result outcome, { s with desk := after })

/-- Runs an operation on the session with a name. -/
def onSession {α : Type} (s : Stage) (name : Text) (result : α → Option Result)
    (operation : Session → Outcome α × Session) : Answer × Stage :=
  match s.session? name with
  | none => (.mk none (some (.unknownName name)) [], s)
  | some number => atDesk s result fun d => d.withSession number operation

/-- Changes the console. -/
def atConsole (s : Stage) (result : Option Result) (change : Console → Console) : Answer × Stage :=
  (.mk result none [], { s with desk := { s.desk with console := change s.desk.console } })

/-- An operation on a session that keeps the session. -/
def observe {α : Type} (f : Session → Outcome α) (s : Session) : Outcome α × Session := (f s, s)

/-- The warnings that a session drains. -/
def drainSession : Session → Outcome (List Warning) × Session
  | .mailbox m =>
    let (ws, m) := m.drain
    (.ok ws, .mailbox m)
  | s => (.error (s.lacks (text "drain")), s)

/-- What an editor session sent since it was last asked. -/
def sentBySession : Session → Outcome (List Publication) × Session
  | .editor e =>
    let (ps, e) := e.takeSent
    (.ok ps, .editor e)
  | s => (.error (s.lacks (text "published")), s)

/-- The warnings that a session keeps without draining them. -/
def seenBySession : Session → Outcome (List Warning)
  | .notifyOnly seen => .ok seen
  | s => .error (s.lacks (text "seen"))

/-- A mailbox session in one line. -/
def describeSession : Session → Outcome Text
  | .mailbox m => if m.title.isTooLong then .error .longInteger else .ok m.display
  | s => .error (s.lacks (text "name"))

/-- An operation of an editor session, with its name. -/
def withEditor {α : Type} (name : Text) (operation : EditorSession → Outcome α × EditorSession) :
    Session → Outcome α × Session
  | .editor e =>
    let (outcome, e) := operation e
    (outcome, .editor e)
  | s => (.error (s.lacks name), s)

/-- Registers a warning a number of times, up to the first failure. -/
def registerTimes : Nat → Session → Outcome Unit × Session
  | 0, s => (.ok (), s)
  | n + 1, s =>
    match s.registerWarning with
    | (.ok (), s) => registerTimes n s
    | (.error failure, s) => (.error failure, s)

/-- The result of an operation that has none. -/
def noResult {α : Type} (_ : α) : Option Result := none

/-- Registers the session with a name, or none, and names the token. -/
def setStep (s : Stage) (session : Option Text) (token : Text) : Answer × Stage :=
  let number : Outcome (Option Nat) := match session with
    | none => .ok none
    | some name =>
      match s.session? name with
      | some number => .ok (some number)
      | none => .error (.unknownName name)
  match number with
  | .error failure => (.mk none (some failure) [], s)
  | .ok number =>
    let (t, d) := s.desk.setSession number
    (.mk none none [], { s with desk := d }.nameToken token t)

/-- Brings back what was registered before the token with a name was made. -/
def resetStep (s : Stage) (token : Text) : Answer × Stage :=
  match s.tokens token with
  | none => (.mk none (some (.unknownName token)) [], s)
  | some t => atDesk s noResult fun d => d.resetSession t

/-- What keeps a variable of the environment from being set, if anything does. -/
def variableFault? (name value : Text) : Option Failure :=
  let holdsZero (t : Text) : Bool := t.any fun c => decide (c.val = 0)
  match (Utf8.strayRun? name).or (Utf8.strayRun? value) with
  | some run => some (.unencodable run)
  | none =>
    if holdsZero name || holdsZero value then some .zeroInVariable
    else if name.contains (CodePoint.ofChar '=') then some .variableName
    else if name.isEmpty then some .noVariableName
    else none

/-- The value that a variable of the environment is set to, if it is not unset. -/
def variableValue (name : Text) (value : Value) : Outcome (Option Text) :=
  match value with
  | .none => .ok none
  | .string t =>
    match variableFault? name t with
    | some failure => .error failure
    | none => .ok (some t)
  | other => .error (.variableKind other.kindName)

/-- A value in a colour; without colours it stays what it is. -/
def colorizeValue (c : Console) (v : Value) (color : Console.Color) : Outcome (Option Result) :=
  match v with
  | .string t => .ok (some (.words (c.colorize t color)))
  | v =>
    if c.isColored then v.written.map fun t => some (.words (c.colorize t color))
    else match v with
      | .none => .ok none
      | v => .ok (some (.value v))

/-- Runs a step that has no steps of its own. -/
def runSimple (s : Stage) : Step → Answer × Stage
  | .create name kind title =>
    let session := kind.create title
    let (number, d) := s.desk.openSession session
    (.ofResult (.flag session.isComplete), { s with desk := d }.nameSession name number)
  | .set session token => setStep s session token
  | .reset token => resetStep s token
  | .current => (.ofResult (.session s.current), s)
  | .notify session w => onSession s session noResult (Session.notifyWarning s.desk.directory w)
  | .register session times => onSession s session noResult (registerTimes times)
  | .count session => onSession s session (fun n => some (.number n)) (observe Session.count)
  | .describe session => onSession s session (fun t => some (.words t)) (observe describeSession)
  | .drain session => onSession s session (fun ws => some (.warnings ws)) drainSession
  | .drainLines session => onSession s session (fun ts => some (.lines ts)) fun m =>
    let (outcome, m) := drainSession m
    (outcome.bind fun ws => ws.mapM fun w => w.render s.desk.directory, m)
  | .seen session => onSession s session (fun ws => some (.warnings ws)) (observe seenBySession)
  | .sent session => onSession s session (fun ps => some (.publications ps)) sentBySession
  | .diagnosticsFor session file => onSession s session (fun ds => some (.diagnostics ds))
    (withEditor (text "diagnostics_for") fun e => (e.diagnosticsFor s.desk.directory file, e))
  | .clear session file => onSession s session noResult
    (withEditor (text "clear") fun e => e.clear s.desk.directory file)
  | .report session line file lead token =>
    match parseError line file lead token with
    | .raised error => onSession s session noResult
      (withEditor (text "report_error") fun e => e.reportError s.desk.directory error.diagnostic)
    | failure => (.mk none (some failure) [], s)
  | .warn line file t => atDesk s noResult fun d => d.warn line file t
  | .warnMessage t => atDesk s noResult fun d => d.warnValue t
  | .formWarn metadata file formatter description => atDesk s noResult fun d =>
    d.formWarn metadata file formatter description
  | .parseError line file lead token =>
    (.mk none (some (Faultline.parseError line file lead token)) [], s)
  | .compileError metadata file message arguments =>
    (.mk none (some (Faultline.compileError metadata file message arguments)) [], s)
  | .pin colored => atConsole s none fun c => c.pin colored
  | .setVariable name value =>
    match variableValue name value with
    | .error failure => (.mk none (some failure) [], s)
    | .ok setting => atConsole s none fun c => c.setVariable name setting
  | .redirect stream => atConsole s none fun c => c.redirect stream
  | .isColored => atConsole s (some (.flag s.desk.console.isColored)) Console.settle
  | .warningMark => atConsole s (some (.words s.desk.console.warningMark)) Console.settle
  | .colorize v color =>
    atDesk s id fun d =>
      (colorizeValue d.console v color, { d with console := d.console.settle })
  | .enter directory =>
    (.mk none none [], { s with desk := { s.desk with directory := directory } })
  | .block _ _ | .thread _ | .copiedContext _ => (.mk none none [], s)

/-! ## Runs -/

mutual

/-- Runs a step. -/
def run (s : Stage) (step : Step) : Answer × Stage :=
  match step with
  | .block name steps =>
    match s.session? name with
    | none => (.ofResult (.block [] (.error (.unknownName name)) s.current), s)
    | some number =>
      let ((restored, answers, after), desk) := s.desk.block number fun d =>
        let (answers, after) := runUntilFailure { s with desk := d } steps
        ((answers, after), after.desk)
      let ending := match restored, lastFailure? answers with
        | .error failure, _ | .ok (), some failure => .error failure
        | .ok (), none => .ok (after.session? name == some number)
      let left := { after with desk := desk }
      (.ofResult (.block answers ending left.current), left)
  | .thread steps =>
    let (answers, after) := runAll { s with desk := s.desk.enterContext none } steps
    (.ofResult (.answers answers), { after with desk := after.desk.leaveContext s.desk.context })
  | .copiedContext steps =>
    let (answers, after) := runAll { s with desk := s.desk.enterContext s.desk.current } steps
    (.ofResult (.answers answers), { after with desk := after.desk.leaveContext s.desk.context })
  | step => runSimple s step
termination_by structural step

/-- Runs steps one after the other. -/
def runAll (s : Stage) (steps : List Step) : List Answer × Stage :=
  match steps with
  | [] => ([], s)
  | step :: rest =>
    let (answer, s) := run s step
    let (answers, s) := runAll s rest
    (answer :: answers, s)
termination_by structural steps

/-- Runs steps one after the other, up to the first that fails. -/
def runUntilFailure (s : Stage) (steps : List Step) : List Answer × Stage :=
  match steps with
  | [] => ([], s)
  | step :: rest =>
    let (answer, s) := run s step
    match answer.failure? with
    | some _ => ([answer], s)
    | none =>
      let (answers, s) := runUntilFailure s rest
      (answer :: answers, s)
termination_by structural steps

end

end Faultline.Script
