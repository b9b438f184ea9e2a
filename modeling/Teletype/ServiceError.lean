import Teletype.Fault
import Teletype.Request.Basic

/-!
# Errors of the service

Why a server does not start, or a request is not served.
-/

namespace Teletype

/-- Why something failed. -/
inductive ServiceError where
  | io (fault : Fault)
  | frame (fault : FrameFault)
  /-- The command could not be started. -/
  | launch (reason : String)
  /-- Another server listens at the path. -/
  | socketInUse (path : String)
  deriving DecidableEq

namespace ServiceError

/-- How an error is shown to people. -/
def message : ServiceError → String
  | .io fault => "I/O error: " ++ fault.message
  | .frame fault => "invalid client request: " ++ fault.message
  | .launch reason => "failed to spawn child: " ++ reason
  | .socketInUse path => path ++ ": socket already in use by a running server"

/-- What caused the error, if it has a cause of its own. -/
def cause? : ServiceError → Option String
  | .io fault => some fault.message
  | .frame fault => some fault.message
  | .launch _ | .socketInUse _ => none

end ServiceError

end Teletype
