/-!
# Reports

What a part of the terminal has to say about input that it ignores, mends or acts on: a severity,
a message and named values. A report is read by people only; no behaviour depends on it.
-/

namespace Teletype

/-- How much a report matters. -/
inductive Severity where
  | error | warning | info | debug | trace
  deriving DecidableEq

/-- The word that stands before a report. -/
def Severity.word : Severity → String
  | .error => "ERROR"
  | .warning => "WARN"
  | .info => "INFO"
  | .debug => "DEBUG"
  | .trace => "TRACE"

/-- A report: its message may be empty, and its values are already written out. -/
structure Report where
  severity : Severity
  message : String
  fields : List (String × String) := []
  deriving DecidableEq

/-- The line of a report: the severity, the message if there is one, then each `name=value`. -/
def Report.line (r : Report) : String :=
  let message := if r.message.isEmpty then [] else [r.message]
  " ".intercalate
    (r.severity.word :: message ++ r.fields.map fun (name, value) => name ++ "=" ++ value)

/-- An operation's result with what it has to report. -/
structure Reported (α : Type) where
  value : α
  reports : List Report := []

end Teletype
