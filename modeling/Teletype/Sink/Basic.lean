import Teletype.Fault

/-!
# Sinks

A sink takes bytes as far as it can: all that it is offered, the first few, or none for now. What
it did not take stays queued. A sink may be disturbed, after which the offer is repeated at once;
it is disturbed finitely often in a row, so that draining a queue comes to an end.
-/

namespace Teletype

/-- What a sink does with the bytes that it is offered. -/
inductive Offer where
  /-- It takes the first `n` of them. -/
  | accepted (n : Nat)
  /-- It cannot take any for now. -/
  | wouldBlock
  /-- It was disturbed. -/
  | interrupted
  | failed (fault : Fault)
  deriving DecidableEq

/-- Something that takes bytes. -/
class Sink (ω : Type) where
  /-- Offers bytes. -/
  offer : ω → List UInt8 → Offer × ω
  /-- Has what was taken passed on. The answer is the fault if that fails. -/
  flush : ω → Option Fault × ω := fun sink => (none, sink)
  /-- How often the sink can be disturbed before it does anything else. -/
  patience : ω → Nat
  patience_lt : ∀ {sink bytes},
    (offer sink bytes).1 = .interrupted → patience (offer sink bytes).2 < patience sink
  accepted_le : ∀ {sink bytes n}, (offer sink bytes).1 = .accepted n → n ≤ bytes.length

namespace Sink

/-- How draining a queue ends. -/
inductive Ending where
  /-- The queue is empty and the sink flushed. -/
  | done
  /-- The sink takes no more for now. -/
  | pending
  | failed (fault : Fault)
  deriving DecidableEq

/-- The state after draining a queue. -/
structure Drained (ω : Type) where
  ending : Ending
  /-- The bytes that stay queued. -/
  rest : List UInt8
  sink : ω

variable {ω : Type} [Sink ω]

/-- Ends the draining of a queue of which nothing is left. -/
def finish (sink : ω) : Drained ω :=
  match flush sink with
  | (none, next) => ⟨.done, [], next⟩
  | (some fault, next) => ⟨.failed fault, [], next⟩

/-- Writes as much of the queue as the sink takes. Once all of it is written the sink is flushed. -/
def drain (sink : ω) (queue : List UInt8) : Drained ω :=
  if _nonempty : queue = [] then finish sink
  else
    match _answer : offer sink queue with
    | (.accepted 0, next) => ⟨.pending, queue, next⟩
    | (.accepted (n + 1), next) => drain next (queue.drop (n + 1))
    | (.wouldBlock, next) => ⟨.pending, queue, next⟩
    | (.interrupted, next) => drain next queue
    | (.failed fault, next) => ⟨.failed fault, queue, next⟩
termination_by (queue.length, patience sink)
decreasing_by
  · refine Prod.Lex.left _ _ ?_
    have := List.length_pos_iff.mpr _nonempty
    simp only [List.length_drop]
    omega
  · refine Prod.Lex.right _ ?_
    have lt : patience (offer sink queue).2 < patience sink := patience_lt (by rw [_answer])
    rwa [_answer] at lt

end Sink

end Teletype
