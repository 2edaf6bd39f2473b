import Schemata.Failure
import Schemata.Model.Fault

/-!
# The log of a validation

A log keeps every finding in the order in which it was reported: errors with their codes, and
warnings.

* `toResult_eq_ok` - a log passes exactly when it has no error;
* `merge_empty`, `merge_assoc` - logs merge like lists.
-/

namespace Schemata

/-- An error of a log. -/
structure Finding where
  code : FaultCode
  message : String
  deriving DecidableEq, Repr

/-- The line of an error. -/
def Finding.line (f : Finding) : String :=
  let number := f.code.number
  let message := f.message
  s!"[E{number}] {message}"

/-- The findings of a validation. -/
structure Log where
  errors : List Finding := []
  warnings : List String := []
  deriving DecidableEq, Repr

namespace Log

/-- The log with one more error. -/
def error (log : Log) (code : FaultCode) (message : String) : Log :=
  { log with errors := log.errors ++ [⟨code, message⟩] }

/-- The log with one more warning. -/
def warn (log : Log) (message : String) : Log :=
  { log with warnings := log.warnings ++ [message] }

/-- The log with faults reported as errors. -/
def report (log : Log) (faults : List Fault) : Log :=
  { log with errors := log.errors ++ faults.map fun f => ⟨f.code, f.message⟩ }

/-- The findings of both logs, in order. -/
def merge (a b : Log) : Log :=
  { errors := a.errors ++ b.errors, warnings := a.warnings ++ b.warnings }

/-- The numbers of the errors. -/
def codes (log : Log) : List Nat := log.errors.map (·.code.number)

/-- An error with this number was reported. -/
def hasCode (log : Log) (number : Nat) : Bool := log.codes.contains number

/-- An error was reported. -/
def hasErrors (log : Log) : Bool := !log.errors.isEmpty

/-- A warning was reported. -/
def hasWarnings (log : Log) : Bool := !log.warnings.isEmpty

/-- Nothing was reported. -/
def isEmpty (log : Log) : Bool := log.errors.isEmpty && log.warnings.isEmpty

/-- The line of a warning. -/
def warningLine (message : String) : String := s!"[W] {message}"

/-- The lines of a log: errors first. -/
def lines (log : Log) : List String :=
  log.errors.map (·.line) ++ log.warnings.map warningLine

/-- The log as a text, each line ended by a line feed. -/
def text (log : Log) : String :=
  String.join (log.lines.map (· ++ "\n"))

/-- The log as a verdict: its errors fail. -/
def toResult (log : Log) : Except Failure Unit :=
  if log.errors.isEmpty then .ok ()
  else .error (.validation (String.intercalate "; " (log.errors.map (·.line))))

/-- **A log passes exactly when it has no error.** -/
theorem toResult_eq_ok (log : Log) : log.toResult = .ok () ↔ log.hasErrors = false := by
  unfold toResult hasErrors
  cases log.errors <;> simp

/-- Merging with nothing changes nothing. -/
theorem merge_empty (log : Log) : log.merge {} = log := by
  simp [merge]

/-- Merging is associative. -/
theorem merge_assoc (a b c : Log) : (a.merge b).merge c = a.merge (b.merge c) := by
  simp [merge]

end Log

end Schemata
