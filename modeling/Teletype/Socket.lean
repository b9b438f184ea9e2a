import Teletype.Report
import Teletype.ServiceError

/-!
# The server's socket

Where a server listens, and how it takes hold of the place.
-/

namespace Teletype.Socket

/-- The name that the socket's file begins with. -/
def baseName : String := "ferroterm"

/-- The path of a file in a directory. -/
def join (directory file : String) : String :=
  if directory.endsWith "/" then directory ++ file else directory ++ "/" ++ file

/-- The path of the socket, from the environment: in the runtime directory, with the name of the
display in the file's name if there is one. An empty variable counts as missing. -/
def path (lookup : String → Option String) : String :=
  let given (name : String) := (lookup name).filter (· ≠ "")
  match given "RUNTIME_DIR" with
  | none => "/tmp/" ++ baseName ++ ".sock"
  | some directory =>
    join directory <| match given "DISPLAY" with
      | none => baseName ++ ".sock"
      | some display =>
        baseName ++ "-" ++ display.map (fun c => if c = '/' then '_' else c) ++ ".sock"

/-- What is found at a path. -/
inductive Place where
  | nothing
  /-- A file that is not a socket. -/
  | file
  /-- A socket, at which a server listens or not. -/
  | socket (alive : Bool)
  deriving DecidableEq

namespace Place

/-- Takes hold of a path. A socket at which a server listens is left alone; anything else is
replaced. -/
def bind (place : Place) (path : String) : Reported (Except ServiceError Place) :=
  match place with
  | .nothing => ⟨.ok (.socket true), []⟩
  | .socket true => ⟨.error (.socketInUse path), []⟩
  | .socket false | .file =>
    ⟨.ok (.socket true), [⟨.info, "removing stale socket", [("path", path)]⟩]⟩

/-- The server ends; its socket stays. -/
def close : Place → Place
  | .socket _ => .socket false
  | place => place

/-- Whether anything is found. -/
def isTaken : Place → Bool
  | .nothing => false
  | _ => true

/-- Writes a file to the path, which a socket does not let happen. -/
def write? : Place → Option Place
  | .socket _ => none
  | _ => some .file

end Place

end Teletype.Socket
