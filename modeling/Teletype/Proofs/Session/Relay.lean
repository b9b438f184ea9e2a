import Teletype.Proofs.Session.Delivery
import Teletype.Proofs.Sink.Relay

/-!
# Sessions on relays

The replies of a session that writes to a relay come to the sink behind it in order, whatever steps
are taken on both sides. The loop is never kept waiting: each offer is answered at once, and the
queue is drained in so many offers. What the program does in one go, draining a queue and writing a
chunk, consists of such steps.
-/

namespace Teletype.Relay

variable {ω : Type}

/-- The relay when its worker's chunk was offered to the sink until the draining ended. -/
def written (r : Relay ω) (d : Sink.Drained ω) : Relay ω :=
  match d.ending with
  | .done => { r with sink := d.sink, current := [] }
  | .pending | .failed _ => ({ r with sink := d.sink } : Relay ω).stop

/-- How writing a chunk ends does not depend on what was left of the chunk before, nor on the sink
then. -/
theorem written_answered (l : Line ω) (next : ω) {answer : Offer}
    (h : answer = .interrupted ∨ ∃ n, answer = .accepted (n + 1)) (d : Sink.Drained ω) :
    written (l.answered next answer).relay d = written l.relay d := by
  rcases h with rfl | ⟨n, rfl⟩
  · rfl
  · cases hending : d.ending <;> simp [written, hending, Line.answered, stop]

variable [Sink ω]

theorem write_eq (r : Relay ω) : r.write = written r (Sink.drain r.sink r.current) := rfl

/-- A relay that has died stays as it is. -/
theorem foldl_writeChunk_of_dead {r : Relay ω} (h : r.alive = false) (chunks : List (List UInt8)) :
    chunks.foldl writeChunk r = r := by
  induction chunks with
  | nil => rfl
  | cons chunk chunks ih =>
    rw [List.foldl_cons, writeChunk, h]
    exact ih

/-- Whether a chunk is written does not depend on the queue. -/
theorem write_without_queue (r : Relay ω) :
    ({ r with queue := [] } : Relay ω).write = { r.write with queue := [] } := by
  rw [write_eq, write_eq]
  show written { r with queue := [] } (Sink.drain r.sink r.current) = _
  cases hending : (Sink.drain r.sink r.current).ending <;> simp [written, hending, stop]

/-- A chunk is written as a whole, or the worker ends. -/
theorem write_cases (r : Relay ω) :
    ∃ sink, r.write = { r with sink, current := [] } ∨
      r.write = ({ r with sink } : Relay ω).stop := by
  rw [write_eq]
  refine ⟨(Sink.drain r.sink r.current).sink, ?_⟩
  unfold written
  split
  · exact .inl rfl
  · exact .inr rfl
  · exact .inr rfl

namespace Line

variable {l : Line ω} {generated : List UInt8}

/-! ## The loop is never kept waiting -/

/-- The queue and the answer are the loop's own. -/
theorem apply_ofWorker {move : Move ω} (h : move.ofWorker = true) :
    (l.apply move).waiting = l.waiting ∧ (l.apply move).answer = l.answer := by
  cases move with
  | receive =>
    rcases receive_cases l with heq | ⟨-, -, heq⟩ | ⟨chunk, rest, -, -, heq⟩
    all_goals
      rw [Line.apply, heq]
      exact ⟨rfl, rfl⟩
  | call =>
    rcases call_cases l with heq | ⟨sink, -, ⟨-, heq⟩ | heq | ⟨n, heq⟩⟩
    all_goals
      rw [Line.apply, heq]
      exact ⟨rfl, rfl⟩
  | leave =>
    show l.leave.waiting = l.waiting ∧ l.leave.answer = l.answer
    unfold Line.leave
    split
    · exact ⟨rfl, rfl⟩
    · exact ⟨rfl, rfl⟩
  | change sink => exact ⟨rfl, rfl⟩
  | generate bytes => cases h
  | offer more => cases h
  | settle => cases h
  | close => cases h

theorem run_ofWorker {moves : List (Move ω)} (h : ∀ move ∈ moves, move.ofWorker = true) :
    (l.run moves).waiting = l.waiting ∧ (l.run moves).answer = l.answer := by
  induction moves generalizing l with
  | nil => exact ⟨rfl, rfl⟩
  | cons move moves ih =>
    obtain ⟨hmove, hmoves⟩ := List.forall_mem_cons.1 h
    obtain ⟨waiting, answer⟩ := ih (l := l.apply move) hmoves
    have first := apply_ofWorker (l := l) hmove
    exact ⟨waiting.trans first.1, answer.trans first.2⟩

/-- One offer of the loop, with what the worker does before and until the loop acts on the
answer. -/
structure Round (ω : Type) where
  before : List (Move ω)
  more : Nat
  after : List (Move ω)
  before_ofWorker : ∀ move ∈ before, move.ofWorker = true
  after_ofWorker : ∀ move ∈ after, move.ofWorker = true

/-- The loop has offered. -/
def asked (l : Line ω) (r : Round ω) : Line ω := (l.run r.before).offer r.more

/-- The loop has acted on the answer. -/
def round (l : Line ω) (r : Round ω) : Line ω := ((l.asked r).run r.after).settle

/-- Each offer is taken at least in part, so that the loop goes on. -/
def GoesOn (l : Line ω) : List (Round ω) → Prop
  | [] => True
  | r :: rounds => (∃ n, (l.asked r).answer = some (.accepted n)) ∧ (l.round r).GoesOn rounds

theorem round_of_accepted {r : Round ω} {n : Nat} (hanswer : l.answer = none)
    (h : (l.asked r).answer = some (.accepted n)) :
    (l.round r).waiting.length < l.waiting.length ∧ (l.round r).answer = none := by
  obtain ⟨waiting, answer⟩ := run_ofWorker (l := l) r.before_ofWorker
  obtain ⟨hpos, hle, hasked⟩ := offer_taken (answer.trans hanswer) h
  obtain ⟨later, still⟩ := run_ofWorker (l := l.asked r) r.after_ofWorker
  obtain ⟨dropped, settled⟩ := settle_of_accepted (still.trans h)
  refine ⟨?_, settled⟩
  show ((l.asked r).run r.after).settle.waiting.length < l.waiting.length
  rw [waiting] at hle hasked
  rw [dropped, later, asked, hasked, List.length_drop]
  exact Nat.sub_lt (Nat.lt_of_lt_of_le hpos hle) hpos

/-- Draining comes to an end whatever the worker does meanwhile. -/
theorem length_rounds_le (hanswer : l.answer = none) {rounds : List (Round ω)}
    (h : l.GoesOn rounds) : rounds.length ≤ l.waiting.length := by
  induction rounds generalizing l with
  | nil => exact Nat.zero_le _
  | cons r rounds ih =>
    obtain ⟨⟨n, hn⟩, hrest⟩ := h
    obtain ⟨hless, settled⟩ := round_of_accepted hanswer hn
    exact Nat.lt_of_le_of_lt (ih settled hrest) hless

/-! ## The program's own steps -/

/-- What a session keeps of its queue after draining it. -/
def kept (d : Sink.Drained (Relay ω)) : List UInt8 :=
  match d.ending with
  | .done | .pending => d.rest
  | .failed _ => []

/-- Offering the whole queue and acting on the answer. -/
theorem run_offer (hclosed : l.closed = false) (hanswer : l.answer = none)
    (hwaiting : l.waiting ≠ []) {answer : Offer} {next : Relay ω}
    (h : Sink.offer l.relay l.waiting = (answer, next)) :
    l.run [.offer (l.waiting.length - 1), .settle] =
      ({ l with answer := some answer, relay := next } : Line ω).settle := by
  have whole : l.waiting.take (l.waiting.length - 1 + 1) = l.waiting := by
    rw [Nat.sub_add_cancel (List.length_pos_iff.2 hwaiting), List.take_length]
  have offered : l.relay.offer l.waiting = (answer, next) := h
  show (l.offer (l.waiting.length - 1)).settle = _
  unfold Line.offer
  rw [whole, offered]
  simp [hclosed, hanswer, hwaiting]

/-- Draining the queue consists of steps of the loop. -/
theorem run_drain (hclosed : l.closed = false) (hanswer : l.answer = none) :
    ∃ moves : List (Move ω), (∀ move ∈ moves, move.ofLoop = true) ∧
      l.run moves =
        { l with
          waiting := kept (Sink.drain l.relay l.waiting),
            relay := (Sink.drain l.relay l.waiting).sink } := by
  have loop (more : Nat) : ∀ move ∈ [Move.offer (ω := ω) more, .settle], move.ofLoop = true := by
    simp [Move.ofLoop]
  generalize hrelay : l.relay = relay
  generalize hqueue : l.waiting = queue
  fun_induction Sink.drain relay queue generalizing l with
  | case1 relay =>
    subst hrelay
    refine ⟨[], List.forall_mem_nil _, ?_⟩
    show l = { l with waiting := [], relay := l.relay }
    rw [← hqueue]
  | case2 relay queue hne next hoffer =>
    subst hrelay hqueue
    refine ⟨_, loop _, (run_offer hclosed hanswer hne hoffer).trans ?_⟩
    simp [Line.settle, Line.left, kept, hanswer]
  | case3 relay queue hne n next hoffer ih =>
    subst hrelay hqueue
    obtain ⟨moves, hmoves, hrun⟩ := @ih
      { l with waiting := l.waiting.drop (n + 1), relay := next } hclosed hanswer rfl rfl
    refine ⟨[.offer (l.waiting.length - 1), .settle] ++ moves,
      List.forall_mem_append.2 ⟨loop _, hmoves⟩, ?_⟩
    rw [run_append, run_offer hclosed hanswer hne hoffer]
    simpa [Line.settle, Line.left, hanswer] using hrun
  | case4 relay queue hne next hoffer =>
    subst hrelay hqueue
    refine ⟨_, loop _, (run_offer hclosed hanswer hne hoffer).trans ?_⟩
    simp [Line.settle, Line.left, kept, hanswer]
  | case5 relay queue hne next hoffer ih =>
    exact absurd (congrArg Prod.fst hoffer) (Relay.offer_ne_interrupted relay queue)
  | case6 relay queue hne fault next hoffer =>
    subst hrelay hqueue
    refine ⟨_, loop _, (run_offer hclosed hanswer hne hoffer).trans ?_⟩
    simp [Line.settle, kept, hanswer]

/-- A session that offers its replies takes steps of the loop. -/
theorem run_flush {s : Session (Relay ω)} (hqueue : s.queue = l.waiting) (hsink : s.sink = l.relay)
    (hclosed : l.closed = false) (hanswer : l.answer = none) :
    ∃ moves : List (Move ω), (∀ move ∈ moves, move.ofLoop = true) ∧
      l.run moves = { l with waiting := s.flush.value.queue, relay := s.flush.value.sink } := by
  by_cases hempty : s.terminal.replies.isEmpty = true
  · refine ⟨[], List.forall_mem_nil _, ?_⟩
    rw [Session.flush, if_pos hempty]
    show l = { l with waiting := s.queue, relay := s.sink }
    rw [hqueue, hsink]
  · have flushed : s.flush.value.queue = kept (Sink.drain l.relay l.waiting) ∧
        s.flush.value.sink = (Sink.drain l.relay l.waiting).sink := by
      rw [Session.flush, if_neg hempty, ← hqueue, ← hsink]
      show _ = kept (Sink.drain s.sink s.terminal.replies.toList) ∧
        _ = (Sink.drain s.sink s.terminal.replies.toList).sink
      cases hending : (Sink.drain s.sink s.terminal.replies.toList).ending <;>
        simp [kept, hending, Session.queue]
    rw [flushed.1, flushed.2]
    exact run_drain hclosed hanswer

/-- After a call that failed the worker ends. -/
theorem run_call_leave {next : ω}
    (h : l.call = { l with relay := { l.relay with sink := next }, stage := .leaving }) :
    l.run [.call, .leave] =
      { l with relay := ({ l.relay with sink := next } : Relay ω).stop, stage := .gone } := by
  show l.call.leave = _
  rw [h]
  rfl

/-- Writing a chunk consists of steps of the worker. -/
theorem run_write (hstage : l.stage = .writing) :
    ∃ (moves : List (Move ω)) (stage : Stage) (reached : List UInt8),
      (∀ move ∈ moves, move.ofWorker = true) ∧
        l.run moves = { l with relay := l.relay.write, stage, reached } ∧
        (stage = .receiving ∨ l.relay.write.alive = false) := by
  have ends : ∀ move ∈ [Move.call (ω := ω), .leave], move.ofWorker = true := by
    simp [Move.ofWorker]
  rw [write_eq]
  generalize hsink : l.relay.sink = sink
  generalize hcurrent : l.relay.current = current
  fun_induction Sink.drain sink current generalizing l with
  | case1 sink =>
    subst hsink
    rcases hflush : Sink.flush l.relay.sink with ⟨fault, next⟩
    have flushes := call_of_flush hstage hcurrent hflush
    cases fault with
    | none =>
      refine ⟨[.call], .receiving, l.reached, by simp [Move.ofWorker], ?_, .inl rfl⟩
      show l.call = _
      rw [flushes]
      simp [passed, Sink.finish, hflush, written, hcurrent]
    | some fault =>
      refine ⟨_, .gone, l.reached, ends, (run_call_leave flushes).trans ?_, .inr ?_⟩
      · simp [Sink.finish, hflush, written]
      · simp [Sink.finish, hflush, written, stop]
  | case2 sink current hne next hoffer =>
    subst hsink hcurrent
    exact ⟨_, .gone, l.reached, ends, run_call_leave (call_of_offer hstage hne hoffer), .inr rfl⟩
  | case3 sink current hne n next hoffer ih =>
    subst hsink hcurrent
    obtain ⟨moves, stage, reached, hmoves, hrun, hends⟩ :=
      ih (l := l.answered next (.accepted (n + 1))) hstage rfl rfl
    rw [written_answered l next (.inr ⟨n, rfl⟩)] at hrun hends
    refine ⟨.call :: moves, stage, reached, List.forall_mem_cons.2 ⟨rfl, hmoves⟩, ?_, hends⟩
    show l.call.run moves = _
    rw [call_of_offer hstage hne hoffer]
    exact hrun
  | case4 sink current hne next hoffer =>
    subst hsink hcurrent
    exact ⟨_, .gone, l.reached, ends, run_call_leave (call_of_offer hstage hne hoffer), .inr rfl⟩
  | case5 sink current hne next hoffer ih =>
    subst hsink
    obtain ⟨moves, stage, reached, hmoves, hrun, hends⟩ :=
      ih (l := l.answered next .interrupted) hstage rfl hcurrent
    subst hcurrent
    rw [written_answered l next (.inl rfl)] at hrun hends
    refine ⟨.call :: moves, stage, reached, List.forall_mem_cons.2 ⟨rfl, hmoves⟩, ?_, hends⟩
    show l.call.run moves = _
    rw [call_of_offer hstage hne hoffer]
    exact hrun
  | case6 sink current hne fault next hoffer =>
    subst hsink hcurrent
    exact ⟨_, .gone, l.reached, ends, run_call_leave (call_of_offer hstage hne hoffer), .inr rfl⟩

/-- Writing all that waits consists of steps of the worker. -/
theorem run_all (hstage : l.stage = .receiving) (hidle : l.relay.current = [])
    (halive : l.relay.alive = true) :
    ∃ moves : List (Move ω), (∀ move ∈ moves, move.ofWorker = true) ∧
      (l.run moves).relay = l.relay.run := by
  have idle : l.relay.run = l.relay.queue.foldl Relay.writeChunk { l.relay with queue := [] } := by
    simp [Relay.run, hidle]
  rw [idle]
  clear idle
  generalize hqueue : l.relay.queue = queue
  induction queue generalizing l with
  | nil =>
    refine ⟨[], List.forall_mem_nil _, ?_⟩
    show l.relay = { l.relay with queue := [] }
    rw [← hqueue]
  | cons chunk queue ih =>
    let begun : Line ω :=
      { l with relay := { l.relay with current := chunk, queue }, stage := .writing }
    have received : l.receive = begun := by
      simp [Line.receive, Relay.receive, hstage, hidle, hqueue, begun]
    obtain ⟨moves, stage, reached, hmoves, hrun, hends⟩ := run_write (l := begun) rfl
    have first : Relay.writeChunk { l.relay with queue := [] } chunk =
        { begun.relay.write with queue := [] } := by
      rw [← write_without_queue, Relay.writeChunk, if_pos halive]
    have writes :
        l.run (.receive :: moves) = { begun with relay := begun.relay.write, stage, reached } := by
      show l.receive.run moves = _
      rw [received, hrun]
    have ofWorker : ∀ move ∈ Move.receive :: moves, move.ofWorker = true :=
      List.forall_mem_cons.2 ⟨rfl, hmoves⟩
    rw [List.foldl_cons, first]
    obtain ⟨sink, hwhole | hended⟩ := write_cases begun.relay
    · -- the chunk is written, and the worker goes on with the next one
      obtain rfl : stage = .receiving := by
        rcases hends with hstage | hdead
        · exact hstage
        · rw [hwhole] at hdead
          exact absurd (halive.symm.trans hdead) (by simp)
      rw [hwhole] at writes ⊢
      obtain ⟨moves', hmoves', hrest⟩ := ih
        (l := { begun with
          relay := { begun.relay with sink, current := [] }, stage := .receiving, reached })
        rfl rfl halive rfl
      refine ⟨.receive :: moves ++ moves', List.forall_mem_append.2 ⟨ofWorker, hmoves'⟩, ?_⟩
      rw [run_append, writes]
      exact hrest
    · rw [hended] at writes ⊢
      refine ⟨.receive :: moves, ofWorker, ?_⟩
      rw [foldl_writeChunk_of_dead rfl, writes]
      rfl

/-! ## What a relay promises -/

/-- What a relay promises at any time, when the given replies were generated. -/
structure Relayed (l : Line ω) (generated : List UInt8) : Prop where
  /-- While the worker lives, no byte is lost, doubled or moved. -/
  conserved : l.stage ≠ .gone →
    l.reached ++ l.relay.current ++ l.relay.queue.flatten ++ l.left = generated
  /-- The sink takes the first of the replies, whether or not the worker lives. -/
  delivered : l.reached <+: generated
  chunk_le : ∀ chunk ∈ l.relay.current :: l.relay.queue, chunk.length ≤ chunkSize
  queue_le : l.relay.queue.length ≤ depth
  /-- A relay that is full takes nothing, and nothing is lost. -/
  full : l.stage ≠ .gone → l.relay.queue.length = depth →
    ∀ more, (l.offer more).relay = l.relay ∧ (l.offer more).left = l.left
  /-- Each offer is answered at once, whether or not the worker goes on. -/
  answers : l.closed = false → l.answer = none → l.waiting ≠ [] →
    ∀ more, (l.offer more).answer ≠ none
  /-- Whatever the worker does meanwhile, the loop is done with its queue after so many offers. -/
  ends : l.answer = none → ∀ rounds, l.GoesOn rounds → rounds.length ≤ l.waiting.length
  /-- A session that offers its replies takes such steps. -/
  flushes : l.closed = false → l.answer = none →
    ∀ s : Session (Relay ω), s.queue = l.waiting → s.sink = l.relay →
      ∃ moves : List (Move ω), (∀ move ∈ moves, move.ofLoop = true) ∧
        l.run moves = { l with waiting := s.flush.value.queue, relay := s.flush.value.sink }
  /-- A worker that writes everything takes such steps. -/
  writes : l.stage = .receiving →
    ∃ moves : List (Move ω), (∀ move ∈ moves, move.ofWorker = true) ∧
    (l.run moves).relay = l.relay.run

/-- Whatever steps the loop, the worker and the sink take, and in whatever order, the replies are
relayed. -/
theorem relayed_run (sink : ω) (moves : List (Move ω)) :
    ((new sink).run moves).Relayed (moves.flatMap Move.generated) := by
  have sound := (sound_new sink).run moves
  rw [List.nil_append] at sound
  refine ⟨fun hstage => ?_, sound.delivered,
    List.forall_mem_cons.2 ⟨sound.current_le, sound.chunk_le⟩, sound.queue_le,
    fun hstage hfull => sound.offer_full hstage (Nat.le_of_eq hfull.symm), offer_answered,
    fun hanswer rounds => length_rounds_le hanswer,
    fun hclosed hanswer s hqueue hsink => run_flush hqueue hsink hclosed hanswer, fun hstage => ?_⟩
  · rw [List.append_assoc, List.append_assoc]
    exact sound.conserved hstage
  · exact run_all hstage (sound.idle hstage) (sound.alive_iff.2 (by simp [hstage]))

/-- The worker can write a chunk before the loop has acted on the answer, and end in the middle of
the next. -/
example :
    let l := (new (⟨[.accepted 1, .interrupted, .accepted 1, .accepted 1]⟩ : Script)).run
      [.generate [1, 2, 3, 4, 5], .offer 1, .receive, .call, .call, .call, .settle, .call, .offer 2,
        .receive, .call, .call, .generate [6]]
    l.reached = [1, 2, 3] ∧ l.relay.current = [4, 5] ∧ l.left = [6] ∧ l.stage = .leaving := by
  decide

end Line

end Teletype.Relay
