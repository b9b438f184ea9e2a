import Mathlib.Tactic.Common
import Teletype.Multiplexer
import Teletype.Proofs.Sink.Delivery
import Teletype.Proofs.Terminal.Replies

/-!
# Replies are delivered

The replies of a terminal reach its child in the order in which they were generated, none lost or
doubled, whatever the sink takes at a time, until a call of the sink fails; then what waits is
dropped for good. Whenever replies wait the session is armed, and the multiplexer comes back to it
soon.
-/

namespace Teletype

namespace Terminal

/-- The replies that output generates. -/
def generated (t : Terminal) (bytes : List UInt8) (now : Instant) : List UInt8 :=
  (t.feed bytes now).replies.toList.drop t.replies.size

theorem replies_append_generated (t : Terminal) (bytes : List UInt8) (now : Instant) :
    t.replies.toList ++ t.generated bytes now = (t.feed bytes now).replies.toList := by
  obtain ⟨replies, queued, -⟩ := queued_foldl_perform (t := t.reading bytes) now
    (t.decoder.feed bytes).2.toList
  unfold Queued at queued
  rw [← replies_feed] at queued
  unfold generated
  rw [queued]
  exact congrArg (t.replies.toList ++ ·) List.drop_left

end Terminal

namespace Session

variable {ω : Type}

/-- The replies that wait. -/
def queue (s : Session ω) : List UInt8 := s.terminal.replies.toList

/-- The session is armed exactly if replies wait. -/
def Settled (s : Session ω) : Prop := s.armed = true ↔ s.queue ≠ []

instance (s : Session ω) : Decidable s.Settled := inferInstanceAs (Decidable (_ ↔ _))

/-- One session becomes another while this goes on at its sink. -/
structure Delivers (s s' : Session (Recorder ω)) (l : List Delivery) : Prop where
  calls : s'.sink.calls = s.sink.calls ++ l.filter Delivery.isCall
  inOrder : Delivery.InOrder s.queue l
  queue_eq : s'.queue = Delivery.afterAll s.queue l

/-- One session becomes another in one turn. If a call fails in it, no reply is left. -/
structure Turns (s s' : Session (Recorder ω)) (l : List Delivery) :
    Prop extends Delivers s s' l where
  settled : s.Settled → s'.Settled
  failed : (∃ e ∈ l, e.fails = true) → s'.queue = []

variable {s s' s'' : Session (Recorder ω)} {l l' : List Delivery}

theorem Delivers.refl (s : Session (Recorder ω)) : Delivers s s [] :=
  ⟨(List.append_nil _).symm, trivial, rfl⟩

theorem Delivers.trans (h : Delivers s s' l) (h' : Delivers s' s'' l') :
    Delivers s s'' (l ++ l') where
  calls := by rw [h'.calls, h.calls, List.filter_append, List.append_assoc]
  inOrder := Delivery.inOrder_append.2 ⟨h.inOrder, h.queue_eq ▸ h'.inOrder⟩
  queue_eq := by rw [h'.queue_eq, h.queue_eq, Delivery.afterAll_append]

/-- A session that keeps its sink and its queue takes a turn in which nothing goes on. -/
theorem turns_of_eq (hsink : s'.sink = s.sink) (hqueue : s'.queue = s.queue)
    (harmed : s'.armed = s.armed) : Turns s s' [] where
  calls := by rw [hsink]; exact (List.append_nil _).symm
  inOrder := trivial
  queue_eq := hqueue
  settled h := by unfold Settled; rwa [hqueue, harmed]
  failed := fun ⟨_, he, _⟩ => absurd he List.not_mem_nil

/-- The deliveries of turns do not depend on what else changes in the session afterwards. -/
theorem Turns.of_eq {s'' : Session (Recorder ω)} (h : Turns s s' l) (hsink : s''.sink = s'.sink)
    (hqueue : s''.queue = s'.queue) (harmed : s''.armed = s'.armed) : Turns s s'' l where
  calls := hsink ▸ h.calls
  inOrder := h.inOrder
  queue_eq := hqueue ▸ h.queue_eq
  settled hs := by
    have := h.settled hs
    unfold Settled at this ⊢
    rwa [hqueue, harmed]
  failed := hqueue ▸ h.failed

variable [Sink ω]

theorem flush_of_nil {s : Session ω} (h : s.queue = []) :
    s.flush.value = { s with armed := false } := by
  unfold flush
  rw [if_pos (by simpa [queue] using h)]

/-- What draining leaves of the queue, and whether the session is armed then. -/
theorem flush_of_ne_nil {s : Session ω} (h : s.queue ≠ []) :
    s.flush.value.sink = (Sink.drain s.sink s.queue).sink ∧
      match (Sink.drain s.sink s.queue).ending with
      | .done =>
        s.flush.value.queue = (Sink.drain s.sink s.queue).rest ∧ s.flush.value.armed = false
      | .pending =>
        s.flush.value.queue = (Sink.drain s.sink s.queue).rest ∧ s.flush.value.armed = true
      | .failed _ => s.flush.value.queue = [] ∧ s.flush.value.armed = false := by
  have nonempty : ¬s.terminal.replies.isEmpty = true := by simpa [queue] using h
  unfold flush queue
  rw [if_neg nonempty]
  generalize Sink.drain s.sink s.terminal.replies.toList = drained
  obtain ⟨ending, rest, sink⟩ := drained
  cases ending <;> exact ⟨rfl, rfl, rfl⟩

/-- Offering the replies settles the session, however it ends. -/
theorem turns_flush (s : Session (Recorder ω)) :
    ∃ calls, (∀ e ∈ calls, e.isCall = true) ∧ Turns s s.flush.value calls ∧
      s.flush.value.Settled := by
  obtain hnil | hcons := Decidable.em (s.queue = [])
  · have unarmed : s.flush.value.Settled := by
      rw [flush_of_nil hnil]
      exact iff_of_false Bool.false_ne_true (not_not_intro hnil)
    refine ⟨[], List.forall_mem_nil _, ⟨⟨?_, trivial, ?_⟩, fun _ => unarmed, fun _ => ?_⟩, unarmed⟩
    · rw [flush_of_nil hnil]
      exact (List.append_nil _).symm
    · rw [flush_of_nil hnil]
      rfl
    · rw [flush_of_nil hnil]
      exact hnil
  · obtain ⟨calls, h⟩ := Recorder.drains_drain s.sink s.queue
    obtain ⟨hsink, hleft⟩ := flush_of_ne_nil hcons
    have filtered : calls.filter Delivery.isCall = calls := List.filter_eq_self.2 h.isCall
    suffices flushed : s.flush.value.queue = Delivery.afterAll s.queue calls ∧
        s.flush.value.Settled ∧ ((∃ e ∈ calls, e.fails = true) → s.flush.value.queue = []) from
      ⟨calls, h.isCall, ⟨⟨by rw [hsink, h.recorded, filtered], h.inOrder, flushed.1⟩,
        fun _ => flushed.2.1, flushed.2.2⟩, flushed.2.1⟩
    have ends := h.ends
    unfold Recorder.Ends at ends
    unfold Settled
    split at ends <;> rename_i hending <;> rw [hending] at hleft <;> obtain ⟨hqueue, harmed⟩ :=
      hleft <;>
      rw [hqueue, harmed]
    · obtain ⟨hrest, hafter, -⟩ := ends
      rw [hrest, hafter]
      exact ⟨rfl, by simp, fun _ => rfl⟩
    · obtain ⟨hrest, hafter, hnone⟩ := ends
      exact ⟨hafter.symm, by simpa using hrest,
        fun ⟨e, he, hfails⟩ => by simp [hnone e he] at hfails⟩
    · obtain ⟨calls', e, rfl, hfails, -⟩ := ends
      exact ⟨(Delivery.afterAll_of_fails hfails).symm, by simp, fun _ => rfl⟩

/-- The replies that output generates come into the queue before anything is offered. -/
theorem turns_feed (s : Session (Recorder ω)) (bytes : List UInt8) (now : Instant) :
    ∃ calls, (∀ e ∈ calls, e.isCall = true) ∧
      Turns s (s.feed bytes now).value (.queued (s.terminal.generated bytes now) :: calls) := by
  obtain ⟨calls, hcalls, h, hsettled⟩ :=
    turns_flush (s.withTerminal (s.terminal.feed bytes now)).value
  have fed : Delivers s (s.withTerminal (s.terminal.feed bytes now)).value
      [.queued (s.terminal.generated bytes now)] :=
    ⟨(List.append_nil _).symm, ⟨trivial, trivial⟩,
      (s.terminal.replies_append_generated bytes now).symm⟩
  refine ⟨calls, hcalls, fed.trans h.toDelivers, fun _ => hsettled, fun ⟨e, he, hfails⟩ => ?_⟩
  rcases List.mem_cons.1 he with rfl | he
  · exact absurd hfails (by simp [Delivery.fails])
  · exact h.failed ⟨e, he, hfails⟩

theorem turns_serve (s : Session (Recorder ω)) (id : Nat) (now : Instant) :
    ∃ calls, (∀ e ∈ calls, e.isCall = true) ∧ Turns s (s.serve id now).value.1 calls := by
  have offered : ∃ calls, (∀ e ∈ calls, e.isCall = true) ∧
      Turns s (if s.armed then s.flush else ⟨s, []⟩).value calls := by
    split
    · obtain ⟨calls, hcalls, h, -⟩ := s.turns_flush
      exact ⟨calls, hcalls, h⟩
    · exact ⟨[], List.forall_mem_nil _, turns_of_eq rfl rfl rfl⟩
  obtain ⟨calls, hcalls, h⟩ := offered
  refine ⟨calls, hcalls, ?_⟩
  unfold serve
  dsimp only
  generalize (if s.armed then s.flush else ⟨s, []⟩) = flushed at h ⊢
  split
  · refine h.of_eq rfl ?_ rfl
    exact congrArg Array.toList ((Terminal.alters_grid _ _).kept .replies rfl)
  · exact h.of_eq rfl rfl rfl

omit [Sink ω] in
theorem wait_le (now : Instant) (longest : Nat) (s : Session ω) : s.wait now longest ≤ longest := by
  unfold wait
  dsimp only
  split <;> split <;> omega

omit [Sink ω] in
theorem wait_le_armedWait {s : Session ω} (h : s.armed = true) (now : Instant) (longest : Nat) :
    s.wait now longest ≤ Multiplexer.armedWait := by
  unfold wait
  rw [if_pos h]
  exact Nat.min_le_right _ _

end Session

namespace Multiplexer

variable {ω : Type}

theorem lookup_entry (id k : Nat) (s : Session ω) (l : List (Nat × Session ω)) :
    List.lookup id ((k, s) :: l) = if id = k then some s else List.lookup id l := by
  rw [List.lookup_cons]
  split <;> rename_i h
  · rw [if_pos (beq_iff_eq.1 h)]
  · rw [if_neg (beq_eq_false_iff_ne.1 h)]

theorem lookup_place (id : Nat) (s : Session ω) (l : List (Nat × Session ω)) (id' : Nat) :
    List.lookup id' (place id s l) = if id' = id then some s else List.lookup id' l := by
  induction l with
  | nil => exact lookup_entry id' id s []
  | cons entry l ih =>
    obtain ⟨k, other⟩ := entry
    unfold place
    split
    · exact lookup_entry id' id s _
    · split
      · rename_i hk
        rw [lookup_entry, lookup_entry, ← hk]
        split <;> rfl
      · rename_i hk
        rw [lookup_entry, lookup_entry, ih]
        split
        · rename_i hid'
          rw [if_neg (by omega)]
        · rfl

theorem find?_insert (m : Multiplexer ω) (id : Nat) (s : Session ω) (id' : Nat) :
    (m.insert id s).find? id' = if id' = id then some s else m.find? id' :=
  lookup_place id s m.sessions id'

theorem mem_of_find? {m : Multiplexer ω} {id : Nat} {s : Session ω} (h : m.find? id = some s) :
    (id, s) ∈ m.sessions := by
  obtain ⟨before, after, hsessions, -⟩ := List.lookup_eq_some_iff.1 h
  rw [hsessions]
  exact List.mem_append_right _ List.mem_cons_self

/-- No session lengthens the wait, and a limit that one of them sets holds for all. -/
theorem foldl_wait_le (now : Instant) (l : List (Nat × Session ω)) (longest : Nat) :
    l.foldl (fun longest entry => entry.2.wait now longest) longest ≤ longest ∧
      ∀ entry ∈ l, ∀ limit, (∀ longest, entry.2.wait now longest ≤ limit) →
        l.foldl (fun longest entry => entry.2.wait now longest) longest ≤ limit := by
  induction l generalizing longest with
  | nil => exact ⟨Nat.le_refl _, List.forall_mem_nil _⟩
  | cons entry l ih =>
    obtain ⟨hle, hlimit⟩ := ih (entry.2.wait now longest)
    refine ⟨Nat.le_trans hle (Session.wait_le _ _ _), List.forall_mem_cons.2 ⟨?_, hlimit⟩⟩
    intro limit hentry
    exact Nat.le_trans hle (hentry longest)

theorem wait_le_of_mem {m : Multiplexer ω} {entry : Nat × Session ω} (h : entry ∈ m.sessions)
    {now : Instant} {limit : Nat} (hlimit : ∀ longest, entry.2.wait now longest ≤ limit) :
    m.wait now ≤ limit :=
  (foldl_wait_le now m.sessions idleWait).2 entry h limit hlimit

/-- A session that is armed is visited again soon. -/
theorem wait_le_armedWait {m : Multiplexer ω} {id : Nat} {s : Session ω} (h : m.find? id = some s)
    (harmed : s.armed = true) (now : Instant) : m.wait now ≤ armedWait :=
  wait_le_of_mem (mem_of_find? h) fun _ => Session.wait_le_armedWait harmed _ _

/-- What is done with the sessions. -/
inductive Turn where
  /-- Output of a child comes in. -/
  | feed (id : Nat) (bytes : List UInt8) (now : Instant)
  | flush (id : Nat)
  | serve (now : Instant)

/-- The replies that come into the queue of a session in a turn. -/
def queued (m : Multiplexer ω) (id : Nat) : Turn → List Delivery
  | .feed id' bytes now =>
    if id' = id then ((m.find? id).map fun s => .queued (s.terminal.generated bytes now)).toList
      else []
  | _ => []

theorem isCall_queued (m : Multiplexer ω) (id : Nat) (turn : Turn) :
    (m.queued id turn).filter Delivery.isCall = [] := by
  cases turn with
  | feed id' bytes now =>
    dsimp only [queued]
    cases m.find? id <;> split <;> rfl
  | flush id' => rfl
  | serve now => rfl

/-- The calls of a session's sink so far. -/
def calls (m : Multiplexer (Recorder ω)) (id : Nat) : List Delivery :=
  ((m.find? id).map (·.sink.calls)).getD []

variable [Sink ω]

theorem find?_feed (m : Multiplexer ω) (id : Nat) (bytes : List UInt8) (now : Instant) (id' : Nat) :
    (m.feed id bytes now).value.1.find? id' =
      if id' = id then (m.find? id).map fun s => (s.feed bytes now).value.takeEvents.1
      else m.find? id' := by
  unfold feed
  split <;> rename_i hfind
  · split <;> rename_i hid
    · rw [hid, hfind]
      rfl
    · rfl
  · dsimp only
    rw [find?_insert, hfind]
    rfl

/-- The sessions with replies of one of them offered, if there is one with the number. -/
def flush (m : Multiplexer ω) (id : Nat) : Multiplexer ω :=
  ((m.update? id Session.flush).map (·.value)).getD m

theorem find?_flush (m : Multiplexer ω) (id id' : Nat) :
    (m.flush id).find? id' =
      if id' = id then (m.find? id).map (·.flush.value) else m.find? id' := by
  unfold flush update?
  cases hfind : m.find? id with
  | none =>
    split <;> rename_i hid
    · rw [hid]
      exact hfind
    · rfl
  | some s => exact find?_insert m id _ id'

theorem find?_serve (m : Multiplexer ω) (now : Instant) (id : Nat) :
    (m.serve now).value.1.find? id = (m.find? id).map fun s => (s.serve id now).value.1 := by
  unfold serve find?
  dsimp only
  generalize m.frames = frames
  induction m.sessions generalizing frames with
  | nil => rfl
  | cons entry rest ih =>
    obtain ⟨k, s⟩ := entry
    unfold serveAll
    rw [lookup_entry, lookup_entry, ih]
    split
    · rename_i hk
      rw [hk]
      rfl
    · rfl

/-- The sessions after a turn. -/
def act (m : Multiplexer ω) : Turn → Multiplexer ω
  | .feed id bytes now => (m.feed id bytes now).value.1
  | .flush id => m.flush id
  | .serve now => (m.serve now).value.1

/-- The sessions after turns. -/
def run (m : Multiplexer ω) (turns : List Turn) : Multiplexer ω := turns.foldl act m

/-- What goes on at the sink of a session in a turn: its replies come into the queue, then the sink
is called. -/
def deliveries (m : Multiplexer (Recorder ω)) (id : Nat) (turn : Turn) : List Delivery :=
  m.queued id turn ++ ((m.act turn).calls id).drop (m.calls id).length

/-- What goes on at the sink of a session while turns are taken. -/
def history (id : Nat) : Multiplexer (Recorder ω) → List Turn → List Delivery
  | _, [] => []
  | m, turn :: turns => m.deliveries id turn ++ history id (m.act turn) turns

variable {m : Multiplexer (Recorder ω)} {id : Nat} {s : Session (Recorder ω)}

/-- A turn keeps the session. -/
theorem turns_calls (h : m.find? id = some s) (turn : Turn) :
    ∃ s' calls, (∀ e ∈ calls, e.isCall = true) ∧ (m.act turn).find? id = some s' ∧
      s.Turns s' (m.queued id turn ++ calls) := by
  have other : ∃ s' calls, (∀ e ∈ calls, e.isCall = true) ∧ m.find? id = some s' ∧
      s.Turns s' ([] ++ calls) :=
    ⟨s, [], List.forall_mem_nil _, h, Session.turns_of_eq rfl rfl rfl⟩
  cases turn with
  | feed id' bytes now =>
    dsimp only [act, queued]
    rw [find?_feed]
    obtain rfl | hid := Decidable.em (id = id')
    · obtain ⟨calls, hcalls, hturns⟩ := s.turns_feed bytes now
      rw [if_pos rfl, if_pos rfl, h]
      exact ⟨_, calls, hcalls, rfl, hturns.of_eq rfl rfl rfl⟩
    · rw [if_neg hid, if_neg (Ne.symm hid)]
      exact other
  | flush id' =>
    dsimp only [act, queued]
    rw [find?_flush]
    obtain rfl | hid := Decidable.em (id = id')
    · obtain ⟨calls, hcalls, hturns, -⟩ := s.turns_flush
      rw [if_pos rfl, h]
      exact ⟨_, calls, hcalls, rfl, hturns⟩
    · rw [if_neg hid]
      exact other
  | serve now =>
    obtain ⟨calls, hcalls, hturns⟩ := s.turns_serve id now
    exact ⟨_, calls, hcalls, by rw [act, find?_serve, h]; rfl, hturns⟩

/-- The session after a turn, and what went on at its sink. -/
theorem turns_act (h : m.find? id = some s) (turn : Turn) :
    ∃ s', (m.act turn).find? id = some s' ∧ s.Turns s' (m.deliveries id turn) := by
  obtain ⟨s', calls, hcalls, hfind, hturns⟩ := turns_calls h turn
  have recorded : s'.sink.calls = s.sink.calls ++ calls := by
    rw [hturns.calls, List.filter_append, isCall_queued, List.filter_eq_self.2 hcalls,
      List.nil_append]
  have drop : ((m.act turn).calls id).drop (m.calls id).length = calls := by
    unfold Multiplexer.calls
    rw [hfind, h]
    exact (congrArg (List.drop _) recorded).trans List.drop_left
  exact ⟨s', hfind, by rwa [deliveries, drop]⟩

theorem delivers_run (h : m.find? id = some s) (turns : List Turn) :
    ∃ s', (m.run turns).find? id = some s' ∧ s.Delivers s' (history id m turns) ∧
      (s.Settled → s'.Settled) := by
  induction turns generalizing m s with
  | nil => exact ⟨s, h, .refl s, fun hs => hs⟩
  | cons turn turns ih =>
    obtain ⟨s', hfind, hturns⟩ := turns_act h turn
    obtain ⟨s'', hfind', hdelivers, hsettled⟩ := ih hfind
    exact ⟨s'', hfind', hturns.toDelivers.trans hdelivers, hsettled ∘ hturns.settled⟩

/-- The session `s'` after turns is what `s` becomes when its replies are delivered. -/
structure Delivered (m : Multiplexer (Recorder ω)) (id : Nat) (turns : List Turn)
    (s s' : Session (Recorder ω)) : Prop where
  /-- The sink recorded the calls of the history. -/
  recorded : s'.sink.calls = s.sink.calls ++ (history id m turns).filter Delivery.isCall
  /-- Each of them offered the first bytes that were queued at the time. -/
  inOrder : Delivery.InOrder s.queue (history id m turns)
  /-- If none failed, what was accepted and then what is queued is what was queued at first and then
  the replies in the order of their generation. -/
  balance : (∀ e ∈ history id m turns, e.fails = false) →
    (history id m turns).flatMap Delivery.accepted ++ s'.queue =
      s.queue ++ (history id m turns).flatMap Delivery.incoming
  armed : s'.armed = true ↔ s'.queue ≠ []
  wait : s'.armed = true → ∀ now, (m.run turns).wait now ≤ armedWait
  /-- If a call of the last turn failed, nothing is left. -/
  dropped : ∀ earlier turn, turns = earlier ++ [turn] →
    (∃ e ∈ (m.run earlier).deliveries id turn, e.fails = true) → s'.queue = [] ∧ s'.armed = false
  /-- After a call that failed, the queue starts empty again. -/
  afresh : ∀ before e after, history id m turns = before ++ e :: after → e.fails = true →
    Delivery.InOrder [] after ∧ s'.queue = Delivery.afterAll [] after
  /-- What is offered after a call that failed was generated after it, and comes right after what
  was accepted since. -/
  renewed : ∀ before e between bytes answer rest,
    history id m turns = before ++ e :: (between ++ .offered bytes answer :: rest) →
    e.fails = true →
    (∀ d ∈ between, d.fails = false) →
    between.flatMap Delivery.accepted ++ bytes <+: between.flatMap Delivery.incoming

/-- The replies of a session are delivered, whatever is done with the sessions and whatever its sink
answers. -/
theorem delivered_run (h : m.find? id = some s) (hsettled : s.Settled) (turns : List Turn) :
    ∃ s', (m.run turns).find? id = some s' ∧ Delivered m id turns s s' := by
  obtain ⟨s', hfind, hdelivers, hkeeps⟩ := delivers_run h turns
  have settled := hkeeps hsettled
  -- a call that failed leaves the queue empty
  have afresh {before after : List Delivery} {e : Delivery}
      (hhistory : history id m turns = before ++ e :: after) (hfails : e.fails = true) :
      Delivery.InOrder [] after ∧ s'.queue = Delivery.afterAll [] after := by
    have order := hdelivers.inOrder
    have queue := hdelivers.queue_eq
    rw [hhistory, List.append_cons] at order queue
    rw [Delivery.afterAll_append, Delivery.afterAll_of_fails hfails] at queue
    refine ⟨?_, queue⟩
    have rest := (Delivery.inOrder_append.1 order).2
    rwa [Delivery.afterAll_of_fails hfails] at rest
  refine ⟨s', hfind, hdelivers.calls, hdelivers.inOrder, fun hnone => ?_, settled,
    fun harmed now => wait_le_armedWait hfind harmed now, fun earlier turn hturns hfails => ?_,
    fun _ _ _ hhistory hfails => afresh hhistory hfails,
    fun _ _ _ _ _ _ hhistory hfails hnone => ?_⟩
  · rw [hdelivers.queue_eq]
    exact Delivery.accepted_append_afterAll hdelivers.inOrder hnone
  · obtain ⟨s₁, hfind₁, -, hkeeps₁⟩ := delivers_run h earlier
    obtain ⟨s₂, hfind₂, hlast⟩ := turns_act hfind₁ turn
    have last : m.run turns = (m.run earlier).act turn := by
      rw [hturns]
      exact List.foldl_append
    obtain rfl : s₂ = s' := Option.some.inj (hfind₂.symm.trans (last ▸ hfind))
    have queue := hlast.failed hfails
    exact ⟨queue, Bool.eq_false_iff.2 fun harmed => settled.1 harmed queue⟩
  · exact Delivery.offered_prefix (afresh hhistory hfails).1 hnone

/-- A terminal on a sink that is disturbed, takes some bytes, takes none for now, and fails once. -/
def answering : Multiplexer (Recorder Script) where
  sessions := [(1, {
    terminal := Terminal.new { size := ⟨4, 1⟩ }
    sink := {
      sink :=
      ⟨[.interrupted, .accepted 2, .wouldBlock, .accepted 0, .accepted 1, .failed .brokenPipe,
        .accepted 4]⟩
      pieces := fun _ => 3 } })]

/-- The status of the terminal is asked for three times. -/
def askings : List Turn :=
  let asking := .feed 1 [0x1b, 0x5b, 0x35, 0x6e] 0
  [asking, .serve 0, asking, asking, .flush 2]

theorem delivered_run_answering :
    ∃ s s', answering.find? 1 = some s ∧ s.Settled ∧ (answering.run askings).find? 1 = some s' ∧
      Delivered answering 1 askings s s' := by
  have settled : (answering.sessions[0].2).Settled := by decide +kernel
  have find : answering.find? 1 = some (answering.sessions[0].2) := rfl
  obtain ⟨s', hfind, hdelivered⟩ := delivered_run find settled askings
  exact ⟨_, s', rfl, settled, hfind, hdelivered⟩

end Multiplexer

end Teletype
