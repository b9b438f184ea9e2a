import Teletype.ExitCode
import Teletype.Sink.Basic
import Teletype.Terminal.Run
import Teletype.Terminal.Screen

/-!
# Sessions

A terminal and the sink that its replies go to. Replies that the sink does not take stay queued in
order; meanwhile the session is armed, so that they are offered again soon. Replies to a broken sink
are dropped.
-/

namespace Teletype

/-- A terminal with its sink. -/
structure Session (ω : Type) where
  terminal : Terminal
  sink : ω
  /-- The connection of the client that waits for the exit code. -/
  client : Option Nat := none
  /-- The terminal stays open after its command ended. -/
  hold : Bool := false
  exitCode : Option ExitCode := none
  /-- Replies are waiting for the sink. -/
  armed : Bool := false

namespace Session

variable {ω : Type} [Sink ω]

/-- The session with another terminal, whose reports are taken from it. -/
def withTerminal (s : Session ω) (t : Terminal) : Reported (Session ω) :=
  let (terminal, reports) := t.takeReports
  ⟨{ s with terminal }, reports⟩

/-- Offers the queued replies to the sink. -/
def flush (s : Session ω) : Reported (Session ω) :=
  if s.terminal.replies.isEmpty then ⟨{ s with armed := false }, []⟩
  else
    let d := Sink.drain s.sink s.terminal.replies.toList
    let next (rest : List UInt8) (armed : Bool) : Session ω :=
      { s with
        terminal := { s.terminal with replies := rest.toArray }
        sink := d.sink
        armed }
    match d.ending with
    | .done => ⟨next d.rest false, []⟩
    | .pending =>
      ⟨next d.rest true,
        if s.armed then []
        else [⟨.debug, "short write to child", [("queued", toString d.rest.length)]⟩]⟩
    | .failed fault =>
      ⟨next [] false,
        [⟨.warning, "failed to write to child; dropping queued replies",
          [("err", fault.message)]⟩]⟩

/-- Reads output of the child, and offers the replies to it. -/
def feed (s : Session ω) (bytes : List UInt8) (now : Instant) : Reported (Session ω) :=
  let fed := s.withTerminal (s.terminal.feed bytes now)
  let flushed := fed.value.flush
  ⟨flushed.value, fed.reports ++ flushed.reports⟩

/-- Takes the terminal's events. -/
def takeEvents (s : Session ω) : Session ω × List Event :=
  let (terminal, events) := s.terminal.takeEvents
  ({ s with terminal }, events)

/-- Gives the terminal another size. -/
def resize (s : Session ω) (cols rows : Nat) : Reported (Session ω) :=
  s.withTerminal (s.terminal.resize cols rows)

/-- How reports write a session. -/
def describe (s : Session ω) : String :=
  let option {α : Type} (f : α → String) (value : Option α) := Text.Quoted.option (value.map f)
  "Session \x7b client: " ++ option toString s.client ++ ", hold: " ++ toString s.hold
    ++ ", exit_code: " ++ option (fun c => toString c.toInt) s.exitCode
    ++ ", write_armed: " ++ toString s.armed ++ ", .. \x7d"

end Session

end Teletype
