/-!
# Requests

What a client asks a server for: a terminal that runs a command.
-/

namespace Teletype

/-- A request for a terminal. -/
structure Request where
  /-- The terminal stays open after the command ended. -/
  hold : Bool := false
  /-- The client does not wait for the command to end. -/
  noWait : Bool := false
  /-- Where the command runs. -/
  directory : String := ""
  /-- Settings of the terminal, each as `key=value`. -/
  overrides : List String := []
  /-- The command with its arguments; without one, a shell. -/
  command : List String := []
  deriving DecidableEq

/-- What is wrong with the bytes of a request. -/
inductive FrameFault where
  /-- They are fewer than the header has. -/
  | tooShort
  /-- The texts need the first number of bytes, and there is the second. -/
  | lengthMismatch (declared actual : Nat)
  /-- A text does not end in a zero byte. -/
  | missingNul
  /-- A text is not UTF-8. -/
  | invalidUtf8
  /-- The request, or a text in it, is longer than its length field or the server allows. -/
  | tooLarge
  deriving DecidableEq

/-- How a fault is shown to people. -/
def FrameFault.message : FrameFault → String
  | .tooShort => "request shorter than its header"
  | .lengthMismatch declared actual => s!"request declares {declared} bytes but carries {actual}"
  | .missingNul => "request string is not NUL-terminated"
  | .invalidUtf8 => "request string is not valid UTF-8"
  | .tooLarge => "request too large"

end Teletype
