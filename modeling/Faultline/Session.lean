import Faultline.Editor

/-!
# Compilation sessions

A session collects the warnings of a compilation: it is notified of each located warning, and each
warning is registered. A mailbox session keeps the warnings until they are drained. Other sessions
are editor sessions, sessions that refuse every report, sessions that offer only part of the
operations, and collaborators, which answer as they like.
-/

namespace Faultline

/-- A session that keeps warnings until they are drained. -/
structure Mailbox where
  title : Value
  /-- The warnings that were not drained, oldest first. -/
  pending : List Warning
  /-- How many warnings were registered. -/
  count : Nat

namespace Mailbox

/-- An empty mailbox. -/
def initial (title : Value) : Mailbox := ⟨title, [], 0⟩

/-- Keeps a warning. -/
def notifyWarning (m : Mailbox) (w : Warning) : Mailbox := { m with pending := m.pending ++ [w] }

/-- Counts a warning. -/
def registerWarning (m : Mailbox) : Mailbox := { m with count := m.count + 1 }

/-- Takes every pending warning, oldest first. -/
def drain (m : Mailbox) : List Warning × Mailbox := (m.pending, { m with pending := [] })

/-- A mailbox in one line. -/
def display (m : Mailbox) : Text :=
  text "CompilationSession(" ++ m.title.display ++ text ", warnings=" ++
    Numeral.ofNat m.count ++ text ")"

end Mailbox

/-- What a session is asked to do while a warning is reported. -/
inductive Request where
  /-- To take notice of a located warning. -/
  | notify (w : Warning)
  /-- To count a warning. -/
  | register

/-- A session of which nothing is known but what it was asked to do. -/
structure Collaborator where
  /-- The name of its kind. -/
  kindName : Text
  /-- How it answers a request, given what it was asked before. -/
  answer : List Request → Request → Outcome Unit
  /-- What it was asked to do, oldest first. -/
  asked : List Request

namespace Collaborator

/-- Asks a collaborator to do something. -/
def ask (c : Collaborator) (r : Request) : Outcome Unit × Collaborator :=
  (c.answer c.asked r, { c with asked := c.asked ++ [r] })

end Collaborator

/-- A session. -/
inductive Session where
  | mailbox (m : Mailbox)
  | editor (e : EditorSession)
  /-- Refuses every report. -/
  | refusing
  /-- Can be notified of located warnings and keeps them; cannot register warnings. -/
  | notifyOnly (seen : List Warning)
  /-- Offers no operation. -/
  | inert
  /-- Answers as it likes. -/
  | collaborator (c : Collaborator)

namespace Session

/-- The name of a session's kind, as error messages give it. -/
def kindName : Session → Text
  | .mailbox _ => text "CompilationSession"
  | .editor _ => text "LanguageServerSession"
  | .refusing => text "RefusingSession"
  | .notifyOnly _ => text "NotifyOnlySession"
  | .inert => text "InertSession"
  | .collaborator c => c.kindName

/-- The failure of asking a session for an operation that it does not offer. -/
def lacks (s : Session) (operation : Text) : Failure := .noOperation s.kindName operation

/-- Whether a session offers both operations that reporting uses. -/
def isComplete : Session → Bool
  | .mailbox _ | .editor _ | .refusing | .collaborator _ => true
  | .notifyOnly _ | .inert => false

/-- Notifies a session of a located warning. -/
def notifyWarning (directory : Option Text) (w : Warning) : Session → Outcome Unit × Session
  | .mailbox m => (.ok (), .mailbox (m.notifyWarning w))
  | .editor e =>
    let (outcome, e) := e.notifyWarning directory w
    (outcome, .editor e)
  | .refusing => (.error .sessionGone, .refusing)
  | .notifyOnly seen => (.ok (), .notifyOnly (seen ++ [w]))
  | .inert => (.error (lacks .inert (text "notify_warning")), .inert)
  | .collaborator c =>
    let (outcome, c) := c.ask (.notify w)
    (outcome, .collaborator c)

/-- Registers a warning with a session. -/
def registerWarning : Session → Outcome Unit × Session
  | .mailbox m => (.ok (), .mailbox m.registerWarning)
  | .editor e => (.ok (), .editor e.registerWarning)
  | .refusing => (.error .sessionGone, .refusing)
  | .notifyOnly seen =>
    (.error (lacks (.notifyOnly seen) (text "register_warning")), .notifyOnly seen)
  | .inert => (.error (lacks .inert (text "register_warning")), .inert)
  | .collaborator c =>
    let (outcome, c) := c.ask .register
    (outcome, .collaborator c)

/-- How many warnings a session registered. -/
def count : Session → Outcome Nat
  | .mailbox m => .ok m.count
  | .editor e => .ok e.count
  | s => .error (s.lacks (text "warning_count"))

end Session

end Faultline
