import Faultline.Value

/-!
# Diagnostics and warnings

A diagnostic says that a compilation failed: what kind of failure, the message, and where. A warning
says where something is odd and lets the compilation go on. Both name a place by a file and a line;
line zero stands for the file as a whole.

Places and messages are loosely typed here, because a diagnostic may be built before its parts are
checked.

A diagnostic is raised as an error, which holds the parts of the diagnostic but not its kind: the
kind goes with the class of the error, and there is one class for each kind. The text of the error
is made once, when the error is built; how it is made, and when it cannot be made, is said where
places are written.
-/

namespace Faultline

/-- The kinds of fatal diagnostics. -/
inductive Kind where
  /-- A failure at compile time in general. -/
  | compile
  /-- The input ended too early. -/
  | missingToken
  /-- A malformed sequence of tokens. -/
  | malformed
deriving DecidableEq, Inhabited

namespace Kind

/-- The name of a kind. -/
def name : Kind → Text
  | .compile => text "CompileError"
  | .missingToken => text "TokenMissingError"
  | .malformed => text "SyntaxError"

/-- A short description of a kind. -/
def description : Kind → Text
  | .compile => text "compile-time failure"
  | .missingToken => text "input ended before the construct was complete"
  | .malformed => text "malformed token sequence"

/-- All kinds. -/
def all : List Kind := [.compile, .missingToken, .malformed]

/-- The kind with a name. -/
def ofName? (t : Text) : Option Kind := all.find? fun k => k.name == t

@[simp] theorem ofName?_name (k : Kind) : ofName? k.name = some k := by
  cases k <;> rfl

end Kind

/-- The classes of the errors that diagnostics are raised as. -/
inductive ErrorClass where
  | compileError
  | tokenMissingError
  | syntaxError
deriving DecidableEq

/-- The kind that goes with a class. -/
def ErrorClass.kind : ErrorClass → Kind
  | .compileError => .compile
  | .tokenMissingError => .missingToken
  | .syntaxError => .malformed

/-- The class of the errors that diagnostics of a kind are raised as. -/
def Kind.errorClass : Kind → ErrorClass
  | .compile => .compileError
  | .missingToken => .tokenMissingError
  | .malformed => .syntaxError

@[simp] theorem Kind.kind_errorClass (k : Kind) : k.errorClass.kind = k := by
  cases k <;> rfl

/-- A fatal diagnostic. -/
structure Diagnostic where
  kind : Kind
  message : Value
  file : Value
  line : Value

/-- The error that a diagnostic is raised as. -/
structure DiagnosticError where
  errorClass : ErrorClass
  message : Value
  file : Value
  line : Value
  /-- The text that was made of the place and the message. -/
  text : Text

namespace DiagnosticError

/-- The kind of the diagnostic that an error carries. -/
def kind (e : DiagnosticError) : Kind := e.errorClass.kind

/-- The diagnostic that an error carries. -/
def diagnostic (e : DiagnosticError) : Diagnostic := ⟨e.kind, e.message, e.file, e.line⟩

end DiagnosticError

/-- A warning about a place. -/
structure Warning where
  file : Value
  line : Value
  text : Value

end Faultline
