import Faultline.Place
import Faultline.Proofs.Number.Numeral

/-!
# When a place can be written

A place in a file is written with the line in decimal, so there is no text of it if the line has more
digits than may be written. What is written with a place has no text then either: a diagnostic is not
shown and its error cannot be built.

Results:
* `placeLabel_of_lt`, `placeLabel_of_le`: what is written of a place in a file, and when nothing is.
* `Diagnostic.display_eq`, `Diagnostic.diagnostic_of_toError`: the error of a diagnostic has its text
  and carries it.
* `Diagnostic.toError_of_lt`, `Diagnostic.toError_of_le`: which diagnostics have an error.
* `DiagnosticError.headline_of_lt`, `DiagnosticError.headlineWithEmptyTrace_of_headline`: how an error
  is announced.
-/

namespace Faultline

/-! ## Places -/

namespace Value

theorem isZero_int (n : Nat) : (Value.int n).isZero = decide (n = 0) := by
  cases n with
  | zero => rfl
  | succ n => rfl

theorem written_int_of_lt {n : Nat} (hn : n < 10 ^ Numeral.decimalLimit) :
    (Value.int n).written = .ok (Numeral.ofNat n) := by
  have hshort : ¬ (Value.int n).isTooLong = true := by
    rw [isTooLong, Numeral.isTooLong_iff, Int.natAbs_natCast]
    exact Nat.not_le.mpr hn
  rw [written, if_neg hshort]
  rfl

theorem written_int_of_le {n : Nat} (hn : 10 ^ Numeral.decimalLimit ≤ n) :
    (Value.int n).written = .error .longInteger := by
  have hlong : (Value.int n).isTooLong = true := by
    rw [isTooLong, Numeral.isTooLong_iff, Int.natAbs_natCast]
    exact hn
  rw [written, if_pos hlong]

end Value

/-- A place in a file: the file alone for line zero, else the file, a colon and the line. -/
def placeText (file : Text) (n : Nat) : Text :=
  if n = 0 then file else file ++ text ":" ++ Numeral.ofNat n

section

variable {n : Nat}

theorem placeLabel_of_lt (hn : n < 10 ^ Numeral.decimalLimit) (file : Text) :
    placeLabel (.int n) (.string file) = .ok (.string (placeText file n)) := by
  rw [placeLabel, Value.isZero_int, placeText]
  by_cases hzero : n = 0
  · simp only [hzero, decide_true, if_true]
  · simp only [hzero, decide_false, if_false, Value.written_int_of_lt hn]
    rfl

/-- A line with too many digits is not zero, so that it would have to be written. -/
theorem placeLabel_of_le (hn : 10 ^ Numeral.decimalLimit ≤ n) (file : Text) :
    placeLabel (.int n) (.string file) = .error .longInteger := by
  have hzero : ¬ n = 0 := by
    have hpos : 0 < 10 ^ Numeral.decimalLimit := Nat.pow_pos (by decide)
    omega
  rw [placeLabel, Value.isZero_int]
  simp only [hzero, decide_false, Value.written_int_of_le hn]
  rfl

end

/-! ## Diagnostics and their errors -/

namespace Diagnostic

/-- The text of the error of a diagnostic is the text of the diagnostic, and there is the one exactly
    if there is the other. -/
theorem display_eq (d : Diagnostic) : d.display = d.toError.map DiagnosticError.text := by
  rw [display, toError, DiagnosticError.build, location]
  cases placeLabel d.line d.file with
  | error failure => rfl
  | ok place =>
    show (place.written >>= _) = Except.map _ (place.written >>= _)
    cases place.written with
    | error failure => rfl
    | ok p =>
      show (d.message.written >>= _) = Except.map _ (d.message.written >>= _)
      cases d.message.written with
      | error failure => rfl
      | ok m => rfl

/-- The error of a diagnostic has the class for its kind and carries the diagnostic. -/
theorem diagnostic_of_toError {d : Diagnostic} {e : DiagnosticError} (h : d.toError = .ok e) :
    e.errorClass = d.kind.errorClass ∧ e.diagnostic = d := by
  simp only [toError, DiagnosticError.build, Outcome.bind_eq_ok_iff] at h
  obtain ⟨place, -, p, -, m, -, h⟩ := h
  obtain rfl := Except.ok.inj h
  refine ⟨rfl, ?_⟩
  show (⟨d.kind.errorClass.kind, d.message, d.file, d.line⟩ : Diagnostic) = d
  rw [Kind.kind_errorClass]

section

variable {n : Nat} (k : Kind) (message file : Text)

theorem toError_of_lt (hn : n < 10 ^ Numeral.decimalLimit) :
    toError ⟨k, .string message, .string file, .int n⟩ =
      .ok ⟨k.errorClass, .string message, .string file, .int n,
        placeText file n ++ text ": " ++ message⟩ := by
  rw [toError, DiagnosticError.build, placeLabel_of_lt hn]
  rfl

theorem toError_of_le (hn : 10 ^ Numeral.decimalLimit ≤ n) :
    toError ⟨k, .string message, .string file, .int n⟩ = .error .longInteger := by
  rw [toError, DiagnosticError.build, placeLabel_of_le hn]
  rfl

end

end Diagnostic

/-- How an error is announced: the kind, the place and the message. -/
def announcement (k : Kind) (place message : Text) : Text :=
  text "** (" ++ k.name ++ text ") " ++ place ++ text ": " ++ message

namespace DiagnosticError

theorem headline_of_lt {n : Nat} (hn : n < 10 ^ Numeral.decimalLimit) (c : ErrorClass)
    (message file t : Text) :
    headline ⟨c, .string message, .string file, .int n, t⟩ =
      .ok (announcement c.kind (placeText file n) message) := by
  rw [headline, location, placeLabel_of_lt hn]
  rfl

/-- A trace without frames leaves the end of a line behind the announcement. -/
theorem headlineWithEmptyTrace_of_headline {e : DiagnosticError} {t : Text}
    (h : e.headline = .ok t) :
    e.headlineWithEmptyTrace = .ok (t ++ Faultline.text "\n") := by
  rw [headlineWithEmptyTrace, h]
  rfl

end DiagnosticError

end Faultline
