/-!
# Faults

Why a read or a write fails for good.
-/

namespace Teletype

/-- Why a read or a write fails. -/
inductive Fault where
  /-- Nobody reads at the other end. -/
  | brokenPipe
  /-- The input ended inside something. -/
  | endOfInput
  /-- Nothing is there. -/
  | notFound
  | other (text : String)
  deriving DecidableEq

/-- How a fault is shown to people. -/
def Fault.message : Fault → String
  | .brokenPipe => "broken pipe"
  | .endOfInput => "unexpected end of file"
  | .notFound => "entity not found"
  | .other text => text

end Teletype
