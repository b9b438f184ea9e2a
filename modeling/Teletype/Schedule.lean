import Teletype.Report

/-!
# When to draw

Output is not drawn at once. Each batch of output sets a short deadline anew, and the first one
after a frame also sets a longer deadline that only a frame clears; whichever passes first makes a
frame due. While an application has a synchronized update open, nothing is drawn until it closes
the update or the update's own deadline passes. Instants are nanoseconds.
-/

namespace Teletype

/-- An instant, in nanoseconds from an arbitrary one. -/
abbrev Instant := Int

/-- When the next thing is due. -/
inductive Deadline where
  | none
  /-- At once. -/
  | now
  | at (instant : Instant)
  deriving DecidableEq

/-- The deadlines of one terminal. -/
structure Schedule where
  /-- How long output has to pause for a frame. -/
  lowerDelay : Nat
  /-- How long a frame can be put off by output. -/
  upperDelay : Nat
  /-- How long a synchronized update can last. -/
  syncTimeout : Nat
  lower : Option Instant := none
  upper : Option Instant := none
  /-- When the open synchronized update times out, if one is open. -/
  sync : Option Instant := none
  /-- A frame is due whatever the deadlines. -/
  immediate : Bool := false
  deriving DecidableEq

namespace Schedule

/-- Whether a synchronized update is open. -/
def isSyncing (s : Schedule) : Bool := s.sync.isSome

/-- Takes note of output. Without a delay, a frame is due at once. -/
def onOutput (s : Schedule) (now : Instant) : Schedule :=
  if s.isSyncing then s
  else if s.lowerDelay = 0 || s.upperDelay = 0 then { s with immediate := true }
  else { s with
    lower := some (now + s.lowerDelay)
    upper := some (s.upper.getD (now + s.upperDelay)) }

/-- Asks for a frame, unless a synchronized update is open. -/
def requestImmediate (s : Schedule) : Schedule :=
  if s.isSyncing then s else { s with immediate := true }

/-- Opens a synchronized update; what was due is put off. -/
def beginSync (s : Schedule) (now : Instant) : Schedule :=
  { s with sync := some (now + s.syncTimeout), lower := none, upper := none, immediate := false }

/-- Closes the synchronized update, if one is open; then a frame is due. -/
def endSync (s : Schedule) : Schedule :=
  if s.isSyncing then { s with sync := none, immediate := true } else s

/-- The earlier of two instants that may be missing. -/
def earlier : Option Instant → Option Instant → Option Instant
  | none, b => b
  | a, none => a
  | some a, some b => some (min a b)

/-- The earliest deadline. -/
def deadline (s : Schedule) : Deadline :=
  if s.immediate && !s.isSyncing then .now
  else match earlier s.lower (earlier s.upper s.sync) with
    | none => .none
    | some instant => .at instant

/-- Whether a deadline has passed. -/
def expired (now : Instant) : Option Instant → Bool
  | none => false
  | some deadline => deadline ≤ now

/-- Clears what a frame clears. -/
def frameRendered (s : Schedule) : Schedule :=
  { s with lower := none, upper := none, immediate := false }

/-- Comes to an instant. The answer is whether a frame is due. -/
def poll (s : Schedule) (now : Instant) : Reported (Schedule × Bool) :=
  match s.sync with
  | some timeout =>
    if now < timeout then ⟨(s, false), []⟩
    else ⟨(s.endSync.frameRendered, true), [⟨.debug, "synchronized update timed out", []⟩]⟩
  | none =>
    if s.immediate || expired now s.lower || expired now s.upper then
      ⟨(s.frameRendered, true), []⟩
    else ⟨(s, false), []⟩

end Schedule

end Teletype
