import Teletype.Child
import Teletype.Config.Override
import Teletype.Incoming
import Teletype.Multiplexer

/-!
# The server

One terminal for each request. A client that waits is told how its command ended, after which the
terminal is closed unless it is held. When a client leaves, its terminal is closed with it. Starting
commands is left to the caller, and so is what has to be sent to clients.
-/

namespace Teletype

/-- What has to be done to a client's connection. -/
inductive ClientAction where
  /-- Send the exit code, after which the client is done with. -/
  | tell (connection : Nat) (code : ExitCode)
  /-- Close it without a word. -/
  | drop (connection : Nat)
  deriving DecidableEq

/-- A server. -/
structure Server (ω : Type) where
  /-- What every terminal starts from. -/
  config : Config := {}
  /-- Every terminal is held. -/
  hold : Bool := false
  /-- What the environments of the children are made from. -/
  environment : List (String × String) := []
  sessions : Multiplexer ω := {}
  /-- The connections that wait for an exit code, with their terminals. -/
  waiting : List (Nat × Nat) := []

namespace Server

/-- A server after something was done, with what has to be done to clients. -/
structure Outcome (ω : Type) where
  server : Server ω
  actions : List ClientAction := []
  reports : List Report := []

variable {ω : Type} [Sink ω]

/-- The connection does not wait any more. -/
def forget (s : Server ω) (connection : Nat) : Server ω :=
  { s with waiting := s.waiting.filter fun w => w.1 ≠ connection }

/-- The server with its sessions changed. -/
def withSessions (s : Server ω) (sessions : Multiplexer ω) : Server ω := { s with sessions }

/-- The terminal that a request asks for. -/
def configFor (s : Server ω) (r : Request) : Reported Config := s.config.overrideAll r.overrides

/-- The child that a request asks for, in a terminal of the given configuration. -/
def childFor (config : Config) (r : Request) : Child :=
  { command := r.command
    directory := if r.directory = "" then none else some r.directory
    term := config.term
    terminfoDir := config.terminfoDir
    size := config.size.atLeastOne }

/-- Serves a request: starts the child and attaches a terminal to it. If that fails, the client is
told so; a client that does not wait is told at once that all is well. -/
def accept (s : Server ω) (connection : Nat) (r : Request)
    (launch : Child → List String → Except ServiceError ω) : Outcome ω :=
  let config := s.configFor r
  let child := childFor config.value r
  let command := child.commandIn (child.environment s.environment)
  match launch child command with
  | .error e =>
    ⟨s, [.tell connection .launchFailed],
      config.reports ++ [⟨.warning, "spawn failed",
        [("conn", toString connection), ("err", e.message)]⟩]⟩
  | .ok sink =>
    let (sessions, id) := s.sessions.takeId
    let session : Session ω :=
      { terminal := .new config.value
        sink
        client := if r.noWait then none else some connection
        hold := r.hold || s.hold }
    ⟨{ s with
        sessions := sessions.insert id session
        waiting := if r.noWait then s.waiting else (connection, id) :: s.waiting },
      if r.noWait then [.tell connection 0] else [],
      config.reports ++ [⟨.info, "terminal created",
        [("id", toString id), ("conn", toString connection),
          ("hold", toString session.hold)]⟩]⟩

/-- A child ended: its client is told, and its terminal is closed unless it is held. -/
def childEnded (s : Server ω) (id : Nat) (code : ExitCode) : Outcome ω :=
  match s.sessions.find? id with
  | none => ⟨s, [], []⟩
  | some session =>
    let actions := session.client.toList.map (.tell · code)
    let s := session.client.toList.foldl forget s
    if session.hold then
      let kept := { session with exitCode := some code, client := none }
      ⟨s.withSessions (s.sessions.insert id kept), actions,
        [⟨.info, "child exited; holding terminal",
          [("id", toString id), ("code", toString code.toInt)]⟩]⟩
    else ⟨s.withSessions (s.sessions.erase id), actions, []⟩

/-- Closes a terminal, if there is one with the number. -/
def close? (s : Server ω) (id : Nat) : Option (Outcome ω) :=
  (s.sessions.find? id).map fun session =>
    let s := session.client.toList.foldl forget s
    ⟨s.withSessions (s.sessions.erase id), session.client.toList.map .drop, []⟩

/-- A client left: the terminal that it waits for is closed. -/
def clientLeft (s : Server ω) (connection : Nat) : Outcome ω :=
  match List.lookup connection s.waiting with
  | none => ⟨s, [], []⟩
  | some id =>
    let s := s.forget connection
    let closed := (s.close? id).getD ⟨s, [], []⟩
    { closed with reports := ⟨.info, "client hung up; closing terminal",
        [("id", toString id), ("conn", toString connection)]⟩ :: closed.reports }

/-- Closes every terminal. -/
def shutdown (s : Server ω) : Outcome ω :=
  ⟨{ s with sessions := s.sessions.clear, waiting := [] },
    s.sessions.sessions.flatMap fun entry => entry.2.client.toList.map .drop,
    [⟨.info, "server shut down", [("terminals", toString s.sessions.sessions.length)]⟩]⟩

/-- Does what something that came in asks for. The answer is whether to go on. -/
def handle (s : Server ω) (now : Instant)
    (launch : Child → List String → Except ServiceError ω) : Incoming → Outcome ω × Bool
  | .request connection r => (s.accept connection r launch, true)
  | .output id bytes =>
    let fed := s.sessions.feed id bytes now
    (⟨s.withSessions fed.value.1, [], fed.reports⟩, true)
  | .closed id code => (s.childEnded id code, true)
  | .hangup connection => (s.clientLeft connection, true)
  | .shutdown => (⟨s, [], []⟩, false)

end Server

end Teletype
