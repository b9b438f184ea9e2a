/-!
# Log levels

How much is logged, and whether in colour, as chosen on a command line.
-/

namespace Teletype

/-- How much is logged. -/
inductive LogLevel where
  | none | error | warning | info | debug | trace
  deriving DecidableEq

namespace LogLevel

/-- The level with the given name. -/
def ofName? : String → Option LogLevel
  | "none" => some .none
  | "error" => some .error
  | "warning" => some .warning
  | "info" => some .info
  | "debug" => some .debug
  | "trace" => some .trace
  | _ => Option.none

/-- The word for the level in a filter. -/
def directive : LogLevel → String
  | .none => "off"
  | .error => "error"
  | .warning => "warn"
  | .info => "info"
  | .debug => "debug"
  | .trace => "trace"

/-- The parts of the program that log, the longest name first and the later one of equal length. -/
def parts : List String :=
  ["ferroterm_server", "ferroterm_client", "ferroterm_core", "ferroterm"]

/-- The filter that sets the level of every part of the program. -/
def filter (level : LogLevel) : String :=
  ",".intercalate (parts.map fun part => part ++ "=" ++ level.directive)

end LogLevel

/-- Whether to log in colour. -/
inductive Colorize where
  | never | always
  /-- If a person reads the log. -/
  | auto
  deriving DecidableEq

namespace Colorize

/-- The choice with the given name. -/
def ofName? : String → Option Colorize
  | "never" => some .never
  | "always" => some .always
  | "auto" => some .auto
  | _ => none

/-- Whether colours are used, given whether the log goes to a person's screen. -/
def isOn (choice : Colorize) (onScreen : Bool) : Bool :=
  match choice with
  | .never => false
  | .always => true
  | .auto => onScreen

end Colorize

end Teletype
