import Teletype.Sink.Basic

/-!
# Pipes

A sink in memory with room for so many bytes in all and so many at a time.
-/

namespace Teletype

/-- A pipe. -/
structure Pipe where
  /-- Most bytes taken at a time. -/
  limit : Nat
  /-- How many bytes there is still room for. -/
  room : Nat
  /-- Nobody reads at the other end. -/
  broken : Bool := false
  /-- How many of the next offers are disturbed. -/
  disturbances : Nat := 0
  /-- What was taken. -/
  taken : Array UInt8 := #[]

namespace Pipe

/-- Offers bytes to the pipe. A full pipe takes none for now. -/
def offer (pipe : Pipe) (bytes : List UInt8) : Offer × Pipe :=
  if pipe.broken then (.failed .brokenPipe, pipe)
  else if pipe.disturbances ≠ 0 then
    (.interrupted, { pipe with disturbances := pipe.disturbances - 1 })
  else if pipe.room = 0 then (.wouldBlock, pipe)
  else
    let part := bytes.take (min pipe.limit pipe.room)
    (.accepted part.length,
      { pipe with room := pipe.room - part.length, taken := pipe.taken ++ part })

theorem disturbances_lt {pipe : Pipe} {bytes : List UInt8}
    (h : (pipe.offer bytes).1 = .interrupted) :
    (pipe.offer bytes).2.disturbances < pipe.disturbances := by
  by_cases hb : pipe.broken
  · simp [offer, hb] at h
  · by_cases hd : pipe.disturbances = 0
    · by_cases hr : pipe.room = 0 <;> simp [offer, hb, hd, hr] at h
    · simp [offer, hb, hd]
      omega

theorem accepted_le {pipe : Pipe} {bytes : List UInt8} {n : Nat}
    (h : (pipe.offer bytes).1 = .accepted n) : n ≤ bytes.length := by
  by_cases hb : pipe.broken
  · simp [offer, hb] at h
  · by_cases hd : pipe.disturbances = 0
    · by_cases hr : pipe.room = 0
      · simp [offer, hb, hd, hr] at h
      · simp [offer, hb, hd, hr] at h
        omega
    · simp [offer, hb, hd] at h

instance : Sink Pipe where
  offer := offer
  patience := disturbances
  patience_lt := disturbances_lt
  accepted_le := accepted_le

end Pipe

end Teletype
