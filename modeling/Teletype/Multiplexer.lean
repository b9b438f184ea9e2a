import Teletype.Frame
import Teletype.Session

/-!
# The multiplexer

Every session by the number of its terminal. Output is fed to one of them; from time to time all are
served: replies that wait are offered again, and terminals whose frame is due are drawn. The
multiplexer tells how long it can be left alone.
-/

namespace Teletype

/-- The sessions, in the order of their terminals' numbers. -/
structure Multiplexer (ω : Type) where
  sessions : List (Nat × Session ω) := []
  /-- The number of the next terminal. -/
  nextId : Nat := 1
  /-- How many frames were drawn. -/
  frames : Nat := 0

namespace Multiplexer

variable {ω : Type} [Sink ω]

/-- The longest time between two visits, in nanoseconds. -/
def idleWait : Nat := 1000000000

/-- The longest time between two visits while replies wait, in nanoseconds. -/
def armedWait : Nat := 10000000

/-- The session with the given number. -/
def find? (m : Multiplexer ω) (id : Nat) : Option (Session ω) := List.lookup id m.sessions

/-- Puts a session at its place among others, instead of one with its number. -/
def place (id : Nat) (s : Session ω) : List (Nat × Session ω) → List (Nat × Session ω)
  | [] => [(id, s)]
  | (k, other) :: rest =>
    if id < k then (id, s) :: (k, other) :: rest
    else if id = k then (id, s) :: rest
    else (k, other) :: place id s rest

/-- Adds a session, instead of one with its number. -/
def insert (m : Multiplexer ω) (id : Nat) (s : Session ω) : Multiplexer ω :=
  { m with sessions := place id s m.sessions }

/-- Removes a session. -/
def erase (m : Multiplexer ω) (id : Nat) : Multiplexer ω :=
  { m with sessions := m.sessions.filter fun entry => entry.1 ≠ id }

/-- Removes every session. -/
def clear (m : Multiplexer ω) : Multiplexer ω := { m with sessions := [] }

/-- Gives out the number of a terminal. -/
def takeId (m : Multiplexer ω) : Multiplexer ω × Nat :=
  ({ m with nextId := m.nextId + 1 }, m.nextId)

/-- Does something to a session, if there is one with the number. -/
def update? (m : Multiplexer ω) (id : Nat) (f : Session ω → Reported (Session ω)) :
    Option (Reported (Multiplexer ω)) :=
  (m.find? id).map fun s => ⟨m.insert id (f s).value, (f s).reports⟩

/-- Feeds output to a session. The answer is what the host should know of it, or nothing if there
is no session with the number. -/
def feed (m : Multiplexer ω) (id : Nat) (bytes : List UInt8) (now : Instant) :
    Reported (Multiplexer ω × Option (List Event)) :=
  match m.find? id with
  | none =>
    ⟨(m, none), [⟨.debug, "output for unknown terminal",
      [("id", toString id), ("len", toString bytes.length)]⟩]⟩
  | some session =>
    let fed := session.feed bytes now
    let (session, events) := fed.value.takeEvents
    ⟨(m.insert id session, some events),
      fed.reports ++ events.map fun event =>
        ⟨.debug, "terminal event", [("id", toString id), ("event", event.describe)]⟩⟩

end Multiplexer

namespace Session

variable {ω : Type} [Sink ω]

/-- Serves a session: offers waiting replies again, and captures a frame if one is due. -/
def serve (s : Session ω) (id : Nat) (now : Instant) : Reported (Session ω × Option Frame) :=
  let flushed := if s.armed then s.flush else ⟨s, []⟩
  let t := flushed.value.terminal
  let polled := t.schedule.poll now
  let t := { t with schedule := polled.value.1 }
  let reports := flushed.reports ++ polled.reports
  if polled.value.2 then
    ⟨({ flushed.value with terminal := t.modifyGrid Grid.clearDirty }, some (.capture id t)),
      reports⟩
  else ⟨({ flushed.value with terminal := t }, none), reports⟩

/-- How long a session can be left alone, at most `longest`. -/
def wait (now : Instant) (longest : Nat) (s : Session ω) : Nat :=
  let untilDue := match s.terminal.schedule.deadline with
    | .none => longest
    | .now => 0
    | .at instant => min longest (instant - now).toNat
  if s.armed then min untilDue Multiplexer.armedWait else untilDue

end Session

namespace Multiplexer

variable {ω : Type} [Sink ω]

/-- Serves sessions after `frames` frames were drawn. -/
def serveAll (now : Instant) (frames : Nat) :
    List (Nat × Session ω) → Reported (List (Nat × Session ω) × List Frame)
  | [] => ⟨([], []), []⟩
  | (id, s) :: rest =>
    let served := s.serve id now
    let drawn := served.value.2.toList
    let more := serveAll now (frames + drawn.length) rest
    ⟨((id, served.value.1) :: more.value.1, drawn ++ more.value.2),
      served.reports ++ drawn.map (·.report (frames + 1)) ++ more.reports⟩

/-- Serves every session. The answer holds the frames that are to be drawn. -/
def serve (m : Multiplexer ω) (now : Instant) : Reported (Multiplexer ω × List Frame) :=
  let served := serveAll now m.frames m.sessions
  let (sessions, drawn) := served.value
  ⟨({ m with sessions, frames := m.frames + drawn.length }, drawn), served.reports⟩

/-- How long the sessions can be left alone, in nanoseconds. -/
def wait (m : Multiplexer ω) (now : Instant) : Nat :=
  m.sessions.foldl (fun longest entry => entry.2.wait now longest) idleWait

end Multiplexer

end Teletype
