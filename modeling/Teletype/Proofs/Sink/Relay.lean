import Mathlib.Tactic.Common
import Teletype.Sink.Relay

/-!
# Relays under every schedule

The loop that fills a relay and the worker that empties it go on side by side: between any two steps
of the one, the other one can take any number of steps. A step is what neither can be seen in the
middle of: an offer to the relay, acting on its answer, taking a chunk from the queue, one call of
the sink.

As long as the worker lives no byte is lost, doubled or moved. The loop is never kept waiting, and
what a dead worker leaves behind is missing at the end only.
-/

namespace Teletype.Relay

/-- Where the worker of a relay is. -/
inductive Stage where
  /-- It waits for a chunk. -/
  | receiving
  /-- It writes a chunk, or has it passed on if nothing is left of it. -/
  | writing
  /-- A call of the sink failed, and it is about to end. -/
  | leaving
  | gone
  deriving DecidableEq

/-- The replies of a session on their way through a relay. -/
structure Line (ω : Type) where
  /-- The replies that wait in the session. -/
  waiting : List UInt8 := []
  /-- The answer to the loop's last offer, until the loop acts on it. -/
  answer : Option Offer := none
  /-- The session is gone, and nothing more is offered. -/
  closed : Bool := false
  relay : Relay ω
  stage : Stage := .receiving
  /-- What the sink took. -/
  reached : List UInt8 := []

/-- One step of the loop, of the worker or of what is behind the sink. -/
inductive Move (ω : Type) where
  /-- The loop reads output, which generates replies. -/
  | generate (bytes : List UInt8)
  /-- The loop offers the first bytes of the queue, one more than `more`. -/
  | offer (more : Nat)
  /-- The loop acts on the answer. -/
  | settle
  /-- The loop drops the session. -/
  | close
  /-- The worker takes a chunk, or finds that there will be none. -/
  | receive
  /-- The worker calls the sink. -/
  | call
  /-- The worker ends after a call that failed. -/
  | leave
  /-- The sink changes of itself. -/
  | change (sink : ω)

namespace Move

variable {ω : Type}

/-- The replies that a move generates. -/
def generated : Move ω → List UInt8
  | .generate bytes => bytes
  | _ => []

/-- The loop's part in draining the queue. -/
def ofLoop : Move ω → Bool
  | .offer _ | .settle => true
  | _ => false

/-- A move of the worker or of what is behind it. -/
def ofWorker : Move ω → Bool
  | .receive | .call | .leave | .change _ => true
  | _ => false

end Move

namespace Line

variable {ω : Type}

/-- Nothing has happened yet. -/
def new (sink : ω) : Line ω := { relay := { sink } }

/-- What is still to be offered. -/
def left (l : Line ω) : List UInt8 :=
  match l.answer with
  | some (.accepted n) => l.waiting.drop n
  | _ => l.waiting

/-- The loop offers the first bytes of the queue, one more than `more`, if it has acted on the last
answer. -/
def offer (l : Line ω) (more : Nat) : Line ω :=
  if l.closed || l.answer.isSome || l.waiting.isEmpty then l
  else
    let (answer, relay) := l.relay.offer (l.waiting.take (more + 1))
    { l with answer := some answer, relay }

/-- The loop acts on the answer: what was taken leaves the queue, and if the worker is gone all of
it does. -/
def settle (l : Line ω) : Line ω :=
  match l.answer with
  | some (.failed _) => { l with answer := none, waiting := [] }
  | _ => { l with answer := none, waiting := l.left }

/-- The worker ends. -/
def finish (l : Line ω) : Line ω := { l with relay := l.relay.stop, stage := .gone }

/-- The worker takes a chunk. It ends if the session is gone and there is none. -/
def receive (l : Line ω) : Line ω :=
  if l.stage ≠ .receiving then l
  else if l.relay.queue.isEmpty then if l.closed then l.finish else l
  else { l with relay := l.relay.receive, stage := .writing }

/-- The worker ends if a call failed. -/
def leave (l : Line ω) : Line ω := if l.stage = .leaving then l.finish else l

/-- The sink has answered an offer of the worker. -/
def answered (l : Line ω) (sink : ω) : Offer → Line ω
  | .accepted (n + 1) =>
    { l with
      relay := { l.relay with sink, current := l.relay.current.drop (n + 1) }
      reached := l.reached ++ l.relay.current.take (n + 1) }
  | .interrupted => { l with relay := { l.relay with sink } }
  | .accepted 0 | .wouldBlock | .failed _ =>
    { l with relay := { l.relay with sink }, stage := .leaving }

/-- The sink has passed on what it took, or failed to. -/
def passed (l : Line ω) (sink : ω) : Option Fault → Line ω
  | none => { l with relay := { l.relay with sink }, stage := .receiving }
  | some _ => { l with relay := { l.relay with sink }, stage := .leaving }

section Steps

variable [Sink ω]

/-- The worker calls the sink: it offers what is left of its chunk, and once nothing is left it has
the chunk passed on. -/
def call (l : Line ω) : Line ω :=
  if l.stage ≠ .writing then l
  else if l.relay.current.isEmpty then
    let (fault, sink) := Sink.flush l.relay.sink
    l.passed sink fault
  else
    let (answer, sink) := Sink.offer l.relay.sink l.relay.current
    l.answered sink answer

/-- What a move does. -/
def apply (l : Line ω) : Move ω → Line ω
  | .generate bytes => { l with waiting := l.waiting ++ bytes }
  | .offer more => l.offer more
  | .settle => l.settle
  | .close => { l with closed := true }
  | .receive => l.receive
  | .call => l.call
  | .leave => l.leave
  | .change sink => { l with relay := { l.relay with sink } }

/-- What moves do, one after the other. -/
def run (l : Line ω) (moves : List (Move ω)) : Line ω := moves.foldl apply l

theorem run_append (l : Line ω) (moves moves' : List (Move ω)) :
    l.run (moves ++ moves') = (l.run moves).run moves' :=
  List.foldl_append

end Steps

/-! ## What each step does -/

variable {l : Line ω}

/-- An offer is answered at once. Unless it is taken, nothing changes. -/
theorem offer_cases (hclosed : l.closed = false) (hanswer : l.answer = none)
    (hwaiting : l.waiting ≠ []) (more : Nat) :
    (l.relay.alive = false ∧ l.offer more = { l with answer := some (.failed .brokenPipe) }) ∨
      (l.relay.alive = true ∧ depth ≤ l.relay.queue.length ∧
        l.offer more = { l with answer := some .wouldBlock }) ∨
      ∃ chunk, l.relay.alive = true ∧ l.relay.queue.length < depth ∧ chunk ≠ [] ∧
      chunk <+: l.waiting ∧
        chunk.length ≤ chunkSize ∧
        l.offer more =
          { l with
            answer := some (.accepted chunk.length)
            relay := { l.relay with queue := l.relay.queue ++ [chunk] } } := by
  have opened : (l.closed || l.answer.isSome || l.waiting.isEmpty) = false := by
    simp [hclosed, hanswer, hwaiting]
  unfold offer
  rw [opened]
  cases halive : l.relay.alive with
  | false =>
    left
    simp [Relay.offer, halive]
  | true =>
    right
    by_cases hfull : depth ≤ l.relay.queue.length
    · left
      simp [Relay.offer, halive, hfull]
    · right
      refine ⟨(l.waiting.take (more + 1)).take chunkSize, rfl, Nat.lt_of_not_le hfull, ?_, ?_,
        List.length_take_le _ _, ?_⟩
      · cases hbytes : l.waiting with
        | nil => exact absurd hbytes hwaiting
        | cons byte rest => exact List.cons_ne_nil _ _
      · exact (List.take_prefix _ _).trans (List.take_prefix _ _)
      · simp [Relay.offer, halive, hfull]

theorem offer_of_not_ready
    (h : ¬(l.closed = false ∧ l.answer = none ∧ l.waiting ≠ [])) (more : Nat) :
    l.offer more = l := by
  have busy : (l.closed || l.answer.isSome || l.waiting.isEmpty) = true := by
    by_contra hready
    simp only [Bool.not_eq_true, Bool.or_eq_false_iff, Option.isSome_eq_false_iff,
      Option.isNone_iff_eq_none, List.isEmpty_eq_false_iff] at hready
    exact h ⟨hready.1.1, hready.1.2, hready.2⟩
  rw [offer, if_pos busy]

theorem offer_answered (hclosed : l.closed = false) (hanswer : l.answer = none)
    (hwaiting : l.waiting ≠ []) (more : Nat) : (l.offer more).answer ≠ none := by
  rcases offer_cases hclosed hanswer hwaiting more with
    ⟨-, heq⟩ | ⟨-, -, heq⟩ | ⟨chunk, -, -, -, -, -, heq⟩
  · simp [heq]
  · simp [heq]
  · simp [heq]

/-- What the loop offers with success leaves its queue. -/
theorem offer_taken {more n : Nat} (hanswer : l.answer = none)
    (h : (l.offer more).answer = some (.accepted n)) :
    0 < n ∧ n ≤ l.waiting.length ∧ (l.offer more).waiting = l.waiting := by
  by_cases ready : l.closed = false ∧ l.answer = none ∧ l.waiting ≠ []
  · obtain ⟨hclosed, hanswer, hwaiting⟩ := ready
    rcases offer_cases hclosed hanswer hwaiting more with
      ⟨-, heq⟩ | ⟨-, -, heq⟩ | ⟨chunk, -, -, hchunk, hprefix, -, heq⟩
    · rw [heq] at h
      cases h
    · rw [heq] at h
      cases h
    · rw [heq] at h ⊢
      obtain rfl : chunk.length = n := Offer.accepted.inj (Option.some.inj h)
      exact ⟨List.length_pos_iff.2 hchunk, hprefix.length_le, rfl⟩
  · rw [offer_of_not_ready ready, hanswer] at h
    cases h

theorem settle_of_accepted {n : Nat} (h : l.answer = some (.accepted n)) :
    l.settle.waiting = l.waiting.drop n ∧ l.settle.answer = none := by
  simp [Line.settle, Line.left, h]

theorem receive_cases (l : Line ω) :
    l.receive = l ∨
      (l.stage = .receiving ∧ l.closed = true ∧ l.receive = l.finish) ∨
      ∃ chunk rest, l.stage = .receiving ∧ l.relay.queue = chunk :: rest ∧
        l.receive = { l with relay := l.relay.receive, stage := .writing } := by
  unfold receive
  by_cases hstage : l.stage = .receiving
  · rw [if_neg (not_not_intro hstage)]
    cases hqueue : l.relay.queue with
    | nil =>
      cases hclosed : l.closed with
      | false => exact .inl rfl
      | true => exact .inr (.inl ⟨hstage, rfl, rfl⟩)
    | cons chunk rest => exact .inr (.inr ⟨chunk, rest, hstage, rfl, rfl⟩)
  · rw [if_pos hstage]
    exact .inl rfl

/-! ## What every step keeps -/

/-- What holds of a line at all times, when the given replies were generated. -/
structure Sound (l : Line ω) (generated : List UInt8) : Prop where
  conserved : l.stage ≠ .gone →
    l.reached ++ (l.relay.current ++ (l.relay.queue.flatten ++ l.left)) = generated
  delivered : l.reached <+: generated
  alive_iff : l.relay.alive = true ↔ l.stage ≠ .gone
  idle : l.stage = .receiving → l.relay.current = []
  current_le : l.relay.current.length ≤ chunkSize
  chunk_le : ∀ chunk ∈ l.relay.queue, chunk.length ≤ chunkSize
  queue_le : l.relay.queue.length ≤ depth
  accepted_le : ∀ n, l.answer = some (.accepted n) → n ≤ l.waiting.length
  failed : ∀ fault, l.answer = some (.failed fault) → l.stage = .gone

variable {generated : List UInt8}

theorem sound_new (sink : ω) : (new sink).Sound [] where
  conserved _ := rfl
  delivered := List.prefix_refl []
  alive_iff := ⟨fun _ h => (nomatch h), fun _ => rfl⟩
  idle _ := rfl
  current_le := Nat.zero_le _
  chunk_le _ h := absurd h List.not_mem_nil
  queue_le := Nat.zero_le _
  accepted_le _ h := nomatch h
  failed _ h := nomatch h

theorem Sound.generate (h : l.Sound generated) (bytes : List UInt8) :
    ({ l with waiting := l.waiting ++ bytes } : Line ω).Sound (generated ++ bytes) := by
  have left : ({ l with waiting := l.waiting ++ bytes } : Line ω).left = l.left ++ bytes := by
    unfold Line.left
    split
    · rename_i n hanswer
      have hanswer : l.answer = some (.accepted n) := hanswer
      rw [hanswer]
      exact List.drop_append_of_le_length (h.accepted_le n hanswer)
    · rfl
  refine { h with
    conserved := fun hstage => ?_
    delivered := ?_
    accepted_le := fun n hanswer => ?_ }
  · rw [left, ← h.conserved hstage]
    simp only [List.append_assoc]
  · exact h.delivered.trans (List.prefix_append _ _)
  · rw [List.length_append]
    exact Nat.le_trans (h.accepted_le n hanswer) (Nat.le_add_right _ _)

theorem Sound.offer (h : l.Sound generated) (more : Nat) : (l.offer more).Sound generated := by
  by_cases ready : l.closed = false ∧ l.answer = none ∧ l.waiting ≠ []
  · obtain ⟨hclosed, hanswer, hwaiting⟩ := ready
    have left : l.left = l.waiting := by
      unfold Line.left
      rw [hanswer]
    have conserved := h.conserved
    rw [left] at conserved
    rcases offer_cases hclosed hanswer hwaiting more with
      ⟨halive, heq⟩ | ⟨-, -, heq⟩ | ⟨chunk, -, hroom, -, hprefix, hle, heq⟩
    · have gone : l.stage = .gone := by
        by_contra hstage
        exact absurd (h.alive_iff.2 hstage) (by simp [halive])
      rw [heq]
      exact { h with
        conserved := conserved, accepted_le := fun _ hn => (nomatch hn), failed := fun _ _ => gone }
    · rw [heq]
      exact { h with
        conserved := conserved, accepted_le := fun _ hn => (nomatch hn),
          failed := fun _ hf => (nomatch hf) }
    · rw [heq]
      refine { h with
        conserved := fun hstage => ?_, chunk_le := ?_, queue_le := ?_,
          accepted_le := fun n hn => ?_,
        failed := fun _ hf => (nomatch hf) }
      · show l.reached ++ (l.relay.current ++
          ((l.relay.queue ++ [chunk]).flatten ++ l.waiting.drop chunk.length)) = generated
        have whole : chunk ++ l.waiting.drop chunk.length = l.waiting :=
          List.prefix_iff_eq_append.1 hprefix
        rw [List.flatten_concat, List.append_assoc l.relay.queue.flatten, whole]
        exact conserved hstage
      · intro other hother
        rcases List.mem_append.1 hother with hqueue | hchunk
        · exact h.chunk_le other hqueue
        · rwa [List.mem_singleton.1 hchunk]
      · rw [List.length_append]
        exact hroom
      · rw [← Offer.accepted.inj (Option.some.inj hn)]
        exact hprefix.length_le
  · rwa [offer_of_not_ready ready]

/-- A relay that is full takes nothing, and nothing is lost. -/
theorem Sound.offer_full (h : l.Sound generated) (hstage : l.stage ≠ .gone)
    (hfull : depth ≤ l.relay.queue.length) (more : Nat) :
    (l.offer more).relay = l.relay ∧ (l.offer more).left = l.left := by
  by_cases ready : l.closed = false ∧ l.answer = none ∧ l.waiting ≠ []
  · obtain ⟨hclosed, hanswer, hwaiting⟩ := ready
    rcases offer_cases hclosed hanswer hwaiting more with
      ⟨halive, -⟩ | ⟨-, -, heq⟩ | ⟨chunk, -, hroom, -⟩
    · exact absurd (h.alive_iff.2 hstage) (by simp [halive])
    · rw [heq]
      refine ⟨rfl, ?_⟩
      simp [Line.left, hanswer]
    · exact absurd hfull (Nat.not_le.2 hroom)
  · rw [offer_of_not_ready ready]
    exact ⟨rfl, rfl⟩

theorem Sound.settle (h : l.Sound generated) : l.settle.Sound generated := by
  unfold Line.settle
  split
  · rename_i fault hanswer
    have gone := h.failed fault hanswer
    exact { h with
      conserved := fun hstage => absurd gone hstage, accepted_le := fun _ hn => (nomatch hn)
      failed := fun _ hf => (nomatch hf) }
  · exact { h with
      conserved := h.conserved, accepted_le := fun _ hn => (nomatch hn),
        failed := fun _ hf => (nomatch hf) }

/-- When the worker ends, what the sink took is what it took. -/
theorem Sound.finish (h : l.Sound generated) : l.finish.Sound generated where
  conserved hstage := absurd rfl hstage
  delivered := h.delivered
  alive_iff := ⟨fun h => (nomatch h), fun hstage => absurd rfl hstage⟩
  idle _ := rfl
  current_le := Nat.zero_le _
  chunk_le _ h := absurd h List.not_mem_nil
  queue_le := Nat.zero_le _
  accepted_le := h.accepted_le
  failed _ _ := rfl

theorem Sound.receive (h : l.Sound generated) : l.receive.Sound generated := by
  rcases receive_cases l with heq | ⟨-, -, heq⟩ | ⟨chunk, rest, hstage, hqueue, heq⟩
  · rwa [heq]
  · rw [heq]
    exact h.finish
  · have taken : l.relay.receive = { l.relay with current := chunk, queue := rest } := by
      simp [Relay.receive, h.idle hstage, hqueue]
    have alive : l.stage ≠ .gone := by simp [hstage]
    have conserved := h.conserved alive
    rw [h.idle hstage, hqueue, List.flatten_cons, List.nil_append, List.append_assoc] at conserved
    rw [heq, taken]
    exact { h with
      conserved := fun _ => conserved
      alive_iff := iff_of_true (h.alive_iff.2 alive) (by simp)
      idle := fun hidle => (nomatch hidle)
      current_le := h.chunk_le chunk (hqueue ▸ List.mem_cons_self)
      chunk_le := fun other hother => h.chunk_le other (hqueue ▸ List.mem_cons_of_mem _ hother)
      queue_le := Nat.le_trans (Nat.le_succ _) (by simpa [hqueue] using h.queue_le)
      failed := fun fault hf => absurd (h.failed fault hf) alive }

variable [Sink ω]

theorem call_of_offer (hstage : l.stage = .writing) (hcurrent : l.relay.current ≠ [])
    {answer : Offer} {next : ω} (h : Sink.offer l.relay.sink l.relay.current = (answer, next)) :
    l.call = l.answered next answer := by
  simp [call, hstage, hcurrent, h]

theorem call_of_flush (hstage : l.stage = .writing) (hcurrent : l.relay.current = [])
    {fault : Option Fault} {next : ω} (h : Sink.flush l.relay.sink = (fault, next)) :
    l.call = l.passed next fault := by
  simp [call, hstage, hcurrent, h]

/-- A call of the sink changes the sink, and it may take bytes of the chunk or tell the worker where
to go on. -/
theorem call_cases (l : Line ω) :
    l.call = l ∨
      ∃ sink, l.stage = .writing ∧
        ((l.relay.current = [] ∧
          l.call = { l with relay := { l.relay with sink }, stage := .receiving }) ∨
            l.call = { l with relay := { l.relay with sink }, stage := .leaving } ∨
          ∃ n, l.call =
            { l with
              relay := { l.relay with sink, current := l.relay.current.drop n }
              reached := l.reached ++ l.relay.current.take n }) := by
  by_cases hstage : l.stage = .writing
  · right
    by_cases hcurrent : l.relay.current = []
    · rcases hflush : Sink.flush l.relay.sink with ⟨fault, sink⟩
      refine ⟨sink, hstage, ?_⟩
      rw [call_of_flush hstage hcurrent hflush]
      cases fault with
      | none => exact .inl ⟨hcurrent, rfl⟩
      | some fault => exact .inr (.inl rfl)
    · rcases hoffer : Sink.offer l.relay.sink l.relay.current with ⟨answer, sink⟩
      refine ⟨sink, hstage, .inr ?_⟩
      rw [call_of_offer hstage hcurrent hoffer]
      cases answer with
      | accepted n =>
        cases n with
        | zero => exact .inl rfl
        | succ n => exact .inr ⟨n + 1, rfl⟩
      | wouldBlock => exact .inl rfl
      | interrupted => exact .inr ⟨0, by simp [answered]⟩
      | failed fault => exact .inl rfl
  · left
    rw [call, if_pos hstage]

theorem Sound.call (h : l.Sound generated) : l.call.Sound generated := by
  rcases call_cases l with heq | ⟨sink, hstage, cases⟩
  · rwa [heq]
  · have alive : l.stage ≠ .gone := by simp [hstage]
    have failed : ∀ fault, l.answer ≠ some (.failed fault) :=
      fun fault hf => alive (h.failed fault hf)
    rcases cases with ⟨hcurrent, heq⟩ | heq | ⟨n, heq⟩
    · rw [heq]
      exact { h with
        conserved := fun _ => h.conserved alive
        alive_iff := iff_of_true (h.alive_iff.2 alive) (by simp)
        idle := fun _ => hcurrent
        failed := fun fault hf => absurd hf (failed fault) }
    · rw [heq]
      exact { h with
        conserved := fun _ => h.conserved alive
        alive_iff := iff_of_true (h.alive_iff.2 alive) (by simp)
        idle := fun hidle => (nomatch hidle)
        failed := fun fault hf => absurd hf (failed fault) }
    · have conserved : l.reached ++ l.relay.current.take n ++
          (l.relay.current.drop n ++ (l.relay.queue.flatten ++ l.left)) = generated := by
        rw [List.append_assoc, ← List.append_assoc (l.relay.current.take n), List.take_append_drop]
        exact h.conserved alive
      rw [heq]
      exact { h with
        conserved := fun _ => conserved
        delivered := ⟨_, conserved⟩
        idle := fun hidle => absurd (hstage.symm.trans hidle) (by simp)
        current_le := by
          rw [List.length_drop]
          exact Nat.le_trans (Nat.sub_le _ _) h.current_le }

/-- Each move keeps what holds, and adds what it generates. -/
theorem Sound.apply (h : l.Sound generated) (move : Move ω) :
    (l.apply move).Sound (generated ++ move.generated) := by
  have quiet {l' : Line ω} (h' : l'.Sound generated) : l'.Sound (generated ++ []) := by
    rwa [List.append_nil]
  cases move with
  | generate bytes => exact h.generate bytes
  | offer more => exact quiet (h.offer more)
  | settle => exact quiet h.settle
  | close => exact quiet { h with }
  | receive => exact quiet h.receive
  | call => exact quiet h.call
  | leave =>
    apply quiet
    show l.leave.Sound generated
    unfold Line.leave
    split
    · exact h.finish
    · exact h
  | change sink => exact quiet { h with }

theorem Sound.run (h : l.Sound generated) (moves : List (Move ω)) :
    (l.run moves).Sound (generated ++ moves.flatMap Move.generated) := by
  induction moves generalizing l generated with
  | nil => simpa [Line.run] using h
  | cons move moves ih =>
    rw [List.flatMap_cons, ← List.append_assoc]
    exact ih (h.apply move)

end Line

end Teletype.Relay
