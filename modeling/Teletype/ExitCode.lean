import Teletype.Fault
import Teletype.Request.Frame

/-!
# Exit codes

How a command ended, as a server tells its client: a signed number of four bytes, the lowest first.
-/

namespace Teletype

/-- An exit code. -/
abbrev ExitCode := Int32

namespace ExitCode

/-- What a client is told whose command could not be started. -/
def launchFailed : ExitCode := -27

/-- What a client ends with that cannot reach its server. -/
def unreachable : ExitCode := -36

/-- What a client is told whose command ended in a way that cannot be found out. -/
def unknown : ExitCode := -1

/-- The code of a command's status, or the greatest code if the status is above it. -/
def ofStatus (status : Nat) : ExitCode := Int32.ofNat (min status 0x7fffffff)

/-- The bytes of a code. -/
def encode (code : ExitCode) : List UInt8 := Request.putNumber 4 code.toUInt32.toNat

/-- Reads a code from the front of a stream. -/
def read (stream : List UInt8) : Except Fault ExitCode :=
  let bytes := stream.take 4
  if bytes.length < 4 then .error .endOfInput
  else .ok (UInt32.ofNat (Request.number bytes)).toInt32

end ExitCode

end Teletype
