import Teletype.Sink.Basic

/-!
# Relays

A relay stands between a session and a sink that may keep its writer waiting. It takes chunks into a
short queue and never waits; a worker of its own writes them on, one after the other. When the
sink takes no more of a chunk, the worker ends, and what it did not write is lost.
-/

namespace Teletype

/-- A relay. -/
structure Relay (ω : Type) where
  /-- The chunks that the worker did not start on. -/
  queue : List (List UInt8) := []
  /-- What is left of the chunk that the worker writes. -/
  current : List UInt8 := []
  /-- The worker has not ended. -/
  alive : Bool := true
  sink : ω

namespace Relay

variable {ω : Type}

/-- Most bytes of a chunk. -/
def chunkSize : Nat := 4096

/-- Most chunks in the queue. -/
def depth : Nat := 16

/-- Offers bytes to the relay, which takes a chunk if there is room for it. -/
def offer (r : Relay ω) (bytes : List UInt8) : Offer × Relay ω :=
  if !r.alive then (.failed .brokenPipe, r)
  else if depth ≤ r.queue.length then (.wouldBlock, r)
  else
    let chunk := bytes.take chunkSize
    (.accepted chunk.length, { r with queue := r.queue ++ [chunk] })

theorem offer_ne_interrupted (r : Relay ω) (bytes : List UInt8) :
    (r.offer bytes).1 ≠ .interrupted := by
  by_cases ha : r.alive <;> by_cases hq : depth ≤ r.queue.length <;> simp [offer, ha, hq]

theorem offer_accepted_le {r : Relay ω} {bytes : List UInt8} {n : Nat}
    (h : (r.offer bytes).1 = .accepted n) : n ≤ bytes.length := by
  by_cases ha : r.alive <;> by_cases hq : depth ≤ r.queue.length <;> simp [offer, ha, hq] at h
  omega

instance : Sink (Relay ω) where
  offer := offer
  patience _ := 0
  patience_lt h := absurd h (offer_ne_interrupted _ _)
  accepted_le := offer_accepted_le

variable [Sink ω]

/-- The worker ends; nothing that waits is written. -/
def stop (r : Relay ω) : Relay ω := { r with queue := [], current := [], alive := false }

/-- The worker starts on the next chunk, if it has written the last one. -/
def receive (r : Relay ω) : Relay ω :=
  match r.current, r.queue with
  | [], chunk :: rest => { r with current := chunk, queue := rest }
  | _, _ => r

/-- The worker writes what is left of its chunk, and has it passed on. -/
def write (r : Relay ω) : Relay ω :=
  let d := Sink.drain r.sink r.current
  let r := { r with sink := d.sink }
  match d.ending with
  | .done => { r with current := [] }
  | .pending | .failed _ => r.stop

/-- The worker writes a chunk. -/
def writeChunk (r : Relay ω) (chunk : List UInt8) : Relay ω :=
  if r.alive then { r with current := chunk }.write else r

/-- The worker writes everything that waits. -/
def run (r : Relay ω) : Relay ω :=
  let idle := { r with queue := [] }
  r.queue.foldl writeChunk (if r.current.isEmpty then idle else idle.write)

end Relay

end Teletype
