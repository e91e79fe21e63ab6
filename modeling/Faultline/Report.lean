import Faultline.Console
import Faultline.Path.Shown
import Faultline.Raise
import Faultline.Session

/-!
# Reporting warnings

A warning is written to the console and handed to the session that is registered in the running
context. Whether the session takes it makes no difference to the console: what goes wrong there is
dropped.

A desk is where reporting happens: the console and what was written to it, the sessions, and which
session is registered in which context. Sessions are told apart by numbers, which are given out in
the order in which they are opened. A context is a thread of execution or a copy of one; it sees its
own registration only. Registering gives a token that brings the earlier registration back, once and
in the same context.
-/

namespace Faultline

/-- A token that brings an earlier registration back. -/
structure ResetToken where
  /-- Tokens are numbered in the order in which they are made. -/
  number : Nat
  /-- The context in which it was made. -/
  context : Nat
  /-- The session that was registered before. -/
  earlier : Option Nat
deriving DecidableEq

/-- Where reporting happens. -/
structure Desk where
  /-- The current directory, if there is one. -/
  directory : Option Text
  console : Console
  /-- What was written to the console since it was last cleared, one text for each write. -/
  writes : List Text
  /-- The sessions by number. -/
  sessions : Nat → Session
  /-- Sessions from this number on have not been opened. -/
  freshSession : Nat
  /-- The running context. -/
  context : Nat
  /-- Contexts from this number on have not been used. -/
  freshContext : Nat
  /-- The session that is registered in each context. -/
  registered : Nat → Option Nat
  /-- Tokens from this number on have not been made. -/
  freshToken : Nat
  /-- The tokens that were used. -/
  isUsed : Nat → Bool

namespace Desk

/-- A desk in a directory, with a console and nothing else. -/
def initial (directory : Option Text) (console : Console) : Desk where
  directory := directory
  console := console
  writes := []
  sessions := fun _ => .inert
  freshSession := 0
  context := 0
  freshContext := 1
  registered := fun _ => none
  freshToken := 0
  isUsed := fun _ => false

/-- What was written to the console since it was last cleared. -/
def written (d : Desk) : Text := d.writes.flatten

/-! ## Sessions and contexts -/

/-- The session that is registered in the running context. -/
def current (d : Desk) : Option Nat := d.registered d.context

/-- Registers a session, or none, in the running context. -/
def register (d : Desk) (session : Option Nat) : Desk :=
  { d with registered := fun c => if c = d.context then session else d.registered c }

/-- Puts a session under a number. -/
def putSession (d : Desk) (number : Nat) (s : Session) : Desk :=
  { d with sessions := fun n => if n = number then s else d.sessions n }

/-- Opens a session and gives its number. -/
def openSession (d : Desk) (s : Session) : Nat × Desk :=
  (d.freshSession, { d with freshSession := d.freshSession + 1 }.putSession d.freshSession s)

/-- Registers a session, or none, and gives a token for what was registered before. -/
def setSession (d : Desk) (session : Option Nat) : ResetToken × Desk :=
  (⟨d.freshToken, d.context, d.current⟩, { d with freshToken := d.freshToken + 1 }.register session)

/-- Brings back what was registered before a token was made. -/
def resetSession (d : Desk) (t : ResetToken) : Outcome Unit × Desk :=
  if d.isUsed t.number then (.error .usedToken, d)
  else if t.context ≠ d.context then (.error .foreignToken, d)
  else
    (.ok (), { d with isUsed := fun n => decide (n = t.number) || d.isUsed n }.register t.earlier)

/-- Runs a body with a session registered, and brings the earlier registration back however the body
    ended. Gives whether it could be brought back, and what the body gives. -/
def block {α : Type} (d : Desk) (session : Nat) (body : Desk → α × Desk) :
    (Outcome Unit × α) × Desk :=
  let (t, entered) := d.setSession (some session)
  let (a, ended) := body entered
  let (restored, left) := ended.resetSession t
  ((restored, a), left)

/-- Enters a context that was not used before, with a session registered or none. -/
def enterContext (d : Desk) (session : Option Nat) : Desk :=
  { d with context := d.freshContext, freshContext := d.freshContext + 1 }.register session

/-- Goes back to a context. -/
def leaveContext (d : Desk) (context : Nat) : Desk := { d with context := context }

/-- Applies an operation to a session. -/
def withSession {α : Type} (d : Desk) (number : Nat)
    (operation : Session → Outcome α × Session) : Outcome α × Desk :=
  let (outcome, s) := operation (d.sessions number)
  (outcome, d.putSession number s)

/-- Applies an operation to the registered session, if there is one, and drops what goes wrong. -/
def tellSession (d : Desk) (operation : Session → Outcome Unit × Session) : Desk :=
  match d.current with
  | none => d
  | some number => (d.withSession number operation).2

/-! ## Warnings -/

/-- Writes a warning to the console, in one write. -/
def writeWarning (d : Desk) (t : Text) : Desk :=
  { d with
    console := d.console.settle
    writes := d.writes ++ [d.console.warningMark ++ t ++ text "\n"] }

/-- Reports a warning without a place: the session registers it, and it is written. -/
def warnMessage (d : Desk) (t : Text) : Desk :=
  (d.tellSession Session.registerWarning).writeWarning t

/-- Reports a warning without a place whose text is any value. One that cannot be written fails once
    the session has registered the warning and the mark has been asked for. -/
def warnValue (d : Desk) (v : Value) : Outcome Unit × Desk :=
  match v.written with
  | .ok t => (.ok (), d.warnMessage t)
  | .error failure =>
    let d := d.tellSession Session.registerWarning
    (.error failure, { d with console := d.console.settle })

/-- What is written of a warning about a place: its text, and its place on the line below. -/
def placedText (directory : Option Text) (line file t : Value) : Outcome Text := do
  let body ← t.written
  let place ← shownPlace directory line file
  let p ← place.written
  return body ++ text "\n  " ++ p

/-- Reports a warning about a place. The line is coerced first; then the session is notified, and
    then the warning is reported with its place. A warning that cannot be written fails once the
    session has been notified. -/
def warn (d : Desk) (line file t : Value) : Outcome Unit × Desk :=
  match coerceLine line with
  | .error failure => (.error failure, d)
  | .ok n =>
    let d := d.tellSession (Session.notifyWarning d.directory ⟨file, .int n, t⟩)
    match placedText d.directory (.int n) file t with
    | .error failure => (.error failure, d)
    | .ok body => (.ok (), d.warnMessage body)

/-- Reports a warning about a node that a formatter words. The place is resolved before the warning
    is worded. -/
def formWarn (d : Desk) (metadata file : Value) (formatter : Formatter) (description : Value) :
    Outcome Unit × Desk :=
  match resolveLocation metadata file with
  | .error failure => (.error failure, d)
  | .ok (file, line) =>
    match formatter.apply description with
    | .error failure => (.error failure, d)
    | .ok t => d.warn line file t

end Desk

end Faultline
