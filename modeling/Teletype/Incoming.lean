import Teletype.ExitCode
import Teletype.Request.Frame

/-!
# What comes in

The things that a server learns from its clients and children, one after the other, and how they
follow from what is read of a connection or of a child's output.
-/

namespace Teletype

/-- Something that a server learns. -/
inductive Incoming where
  /-- A client asks for a terminal. -/
  | request (connection : Nat) (request : Request)
  /-- A child wrote something. -/
  | output (id : Nat) (bytes : List UInt8)
  /-- A child ended. -/
  | closed (id : Nat) (code : ExitCode)
  /-- A client left. -/
  | hangup (connection : Nat)
  /-- The server is told to end. -/
  | shutdown
  deriving DecidableEq

/-- What a read gives. -/
inductive ReadResult where
  /-- Bytes; none at the end of the input. -/
  | bytes (data : List UInt8)
  /-- Nothing, for the read was disturbed. -/
  | interrupted
  | failed (fault : Fault)
  deriving DecidableEq

namespace Incoming

/-- Most bytes of output that are read at a time. -/
def readSize : Nat := 0x10000

/-- The pieces of at most `size + 1` bytes that bytes are read in. -/
def pieces (size : Nat) (bytes : List UInt8) : List (List UInt8) :=
  match _rest : bytes.drop (size + 1) with
  | [] => [bytes]
  | b :: rest => bytes.take (size + 1) :: pieces size (b :: rest)
termination_by bytes.length
decreasing_by
  have length := congrArg List.length _rest
  simp only [List.length_drop, List.length_cons] at length ⊢
  omega

/-- The output that reads give before the end of the input or a fault. -/
def outputs (id : Nat) : List ReadResult → List Incoming
  | [] | .bytes [] :: _ | .failed _ :: _ => []
  | .interrupted :: rest => outputs id rest
  | .bytes data :: rest => (pieces (readSize - 1) data).map (.output id) ++ outputs id rest

/-- The code of a child with the given status, if it could be found out. -/
def exitCode (status : Option Nat) : ExitCode := (status.map ExitCode.ofStatus).getD .unknown

/-- What a child does, from the reads of its output and from its status: it writes, and ends. -/
def ofChild (id : Nat) (reads : List ReadResult) (status : Option Nat) : List Incoming :=
  outputs id reads ++ [.closed id (exitCode status)]

/-- What a new client asks for. One that sends no request is dropped. -/
def ofClient? (connection : Nat) (stream : List UInt8) : Option Incoming :=
  match (Request.read stream).1 with
  | .ok r => some (.request connection r)
  | .error _ => none

/-- What a client does after its request, whatever it still sends: it leaves. -/
def ofWaiting (connection : Nat) (_sent : List UInt8) : Incoming := .hangup connection

end Incoming

end Teletype
