import Mathlib.Tactic.Common
import Teletype.Sink.Basic

/-!
# Delivery

What goes on at a sink: bytes come into the queue, the first of them are offered, and what is
accepted leaves the queue. When a call fails, all that is queued is dropped. Draining a queue keeps
to this, whatever the sink does.
-/

namespace Teletype

/-- What happens between a queue and its sink. -/
inductive Delivery where
  /-- Bytes come to the end of the queue. -/
  | queued (bytes : List UInt8)
  | offered (bytes : List UInt8) (answer : Offer)
  | flushed (fault : Option Fault)
  deriving DecidableEq

namespace Delivery

/-- A call of the sink. -/
def isCall : Delivery → Bool
  | .queued _ => false
  | _ => true

/-- A call that failed for good. -/
def fails : Delivery → Bool
  | .offered _ (.failed _) => true
  | .flushed (some _) => true
  | _ => false

/-- The bytes that came into the queue. -/
def incoming : Delivery → List UInt8
  | .queued bytes => bytes
  | _ => []

/-- The bytes that the sink accepted. -/
def accepted : Delivery → List UInt8
  | .offered bytes (.accepted n) => bytes.take n
  | _ => []

/-- The queue afterwards. -/
def after (queue : List UInt8) : Delivery → List UInt8
  | .queued bytes => queue ++ bytes
  | .offered _ (.accepted n) => queue.drop n
  | .offered _ (.failed _) => []
  | .flushed (some _) => []
  | _ => queue

/-- Only the first bytes of the queue are offered, at least one, and only an empty queue is
flushed. -/
def Fits (queue : List UInt8) : Delivery → Prop
  | .queued _ => True
  | .offered bytes answer =>
    bytes ≠ [] ∧ bytes <+: queue ∧ ∀ n, answer = .accepted n → n ≤ bytes.length
  | .flushed _ => queue = []

/-- The queue after all of it. -/
def afterAll (queue : List UInt8) (l : List Delivery) : List UInt8 := l.foldl after queue

/-- Every call fits the queue at its time. -/
def InOrder (queue : List UInt8) : List Delivery → Prop
  | [] => True
  | d :: l => d.Fits queue ∧ InOrder (d.after queue) l

variable {queue : List UInt8} {l l' : List Delivery}

theorem afterAll_append : afterAll queue (l ++ l') = afterAll (afterAll queue l) l' :=
  List.foldl_append

theorem inOrder_append :
    InOrder queue (l ++ l') ↔ InOrder queue l ∧ InOrder (afterAll queue l) l' := by
  induction l generalizing queue with
  | nil => simp [InOrder, afterAll]
  | cons d l ih =>
    rw [List.cons_append, InOrder, InOrder, ih, and_assoc]
    rfl

/-- A call that does not fail keeps the balance of what came, what was accepted and what is
queued. -/
theorem accepted_append_after {d : Delivery} (h : d.Fits queue) (hd : d.fails = false) :
    d.accepted ++ d.after queue = queue ++ d.incoming := by
  cases d with
  | queued bytes => rfl
  | offered bytes answer =>
    obtain ⟨-, hprefix, hn⟩ := h
    cases answer with
    | accepted n =>
      obtain ⟨rest, rfl⟩ := hprefix
      have le := hn n rfl
      show bytes.take n ++ (bytes ++ rest).drop n = (bytes ++ rest) ++ []
      rw [List.drop_append_of_le_length le, ← List.append_assoc, List.take_append_drop,
        List.append_nil]
    | wouldBlock => exact (List.append_nil _).symm
    | interrupted => exact (List.append_nil _).symm
    | failed fault => exact absurd hd (by simp [fails])
  | flushed fault =>
    cases fault with
    | none => exact (List.append_nil _).symm
    | some fault => exact absurd hd (by simp [fails])

/-- While nothing fails, no byte is lost, doubled or moved: what was accepted and then what is
queued is what was queued at first and then what came. -/
theorem accepted_append_afterAll (h : InOrder queue l) (hl : ∀ d ∈ l, d.fails = false) :
    l.flatMap accepted ++ afterAll queue l = queue ++ l.flatMap incoming := by
  induction l generalizing queue with
  | nil => exact (List.append_nil queue).symm
  | cons d l ih =>
    have rest := ih h.2 fun e he => hl e (List.mem_cons_of_mem _ he)
    have first := accepted_append_after h.1 (hl d List.mem_cons_self)
    show (d.accepted ++ l.flatMap accepted) ++ afterAll (d.after queue) l =
      queue ++ (d.incoming ++ l.flatMap incoming)
    rw [List.append_assoc, rest, ← List.append_assoc, first, List.append_assoc]

theorem after_of_fails {d : Delivery} (hd : d.fails = true) : d.after queue = [] := by
  cases d with
  | queued bytes => exact absurd hd (by simp [fails])
  | offered bytes answer =>
    cases answer with
    | failed fault => rfl
    | _ => exact absurd hd (by simp [fails])
  | flushed fault =>
    cases fault with
    | none => exact absurd hd (by simp [fails])
    | some fault => rfl

theorem afterAll_of_fails {d : Delivery} (hd : d.fails = true) :
    afterAll queue (l ++ [d]) = [] := by
  rw [afterAll_append]
  exact after_of_fails hd

/-- Whatever is offered while nothing fails comes right after what was accepted, among what was
queued at first and what came. -/
theorem offered_prefix {bytes : List UInt8} {answer : Offer}
    (h : InOrder queue (l ++ .offered bytes answer :: l')) (hl : ∀ d ∈ l, d.fails = false) :
    l.flatMap accepted ++ bytes <+: queue ++ l.flatMap incoming := by
  obtain ⟨before, here, -⟩ := inOrder_append.1 h
  rw [← accepted_append_afterAll before hl]
  exact List.prefix_append_right_inj _ |>.2 here.2.1

end Delivery

/-- A sink that keeps a record of the calls. The queue may be stored in pieces, of which the first
is offered: `pieces` says how long that is at each call. -/
structure Recorder (ω : Type) where
  sink : ω
  pieces : Nat → Nat
  calls : List Delivery := []

namespace Recorder

variable {ω : Type}

/-- What calls leave of a queue, and whether one of them failed, is what the draining ends with. -/
def Ends (queue : List UInt8) (calls : List Delivery) (d : Sink.Drained (Recorder ω)) : Prop :=
  match d.ending with
  | .done => d.rest = [] ∧ Delivery.afterAll queue calls = [] ∧ ∀ e ∈ calls, e.fails = false
  | .pending =>
    d.rest ≠ [] ∧ Delivery.afterAll queue calls = d.rest ∧ ∀ e ∈ calls, e.fails = false
  | .failed _ =>
    ∃ calls' e, calls = calls' ++ [e] ∧ e.fails = true ∧ ∀ x ∈ calls', x.fails = false

theorem Ends.cons {queue : List UInt8} {calls : List Delivery} {d : Sink.Drained (Recorder ω)}
    {e : Delivery} (h : Ends (e.after queue) calls d) (he : e.fails = false) :
    Ends queue (e :: calls) d := by
  have all {l : List Delivery} (hl : ∀ x ∈ l, x.fails = false) : ∀ x ∈ e :: l, x.fails = false :=
    List.forall_mem_cons.2 ⟨he, hl⟩
  unfold Ends at h ⊢
  split at h
  · exact ⟨h.1, h.2.1, all h.2.2⟩
  · exact ⟨h.1, h.2.1, all h.2.2⟩
  · obtain ⟨calls', last, rfl, hlast, hcalls'⟩ := h
    exact ⟨e :: calls', last, rfl, hlast, all hcalls'⟩

/-- Draining a queue makes these calls. -/
structure Drains (r : Recorder ω) (queue : List UInt8) (d : Sink.Drained (Recorder ω))
    (calls : List Delivery) : Prop where
  recorded : d.sink.calls = r.calls ++ calls
  isCall : ∀ e ∈ calls, e.isCall = true
  inOrder : Delivery.InOrder queue calls
  ends : Ends queue calls d

/-- The sink takes no more for now. -/
theorem drains_pending (r : Recorder ω) {queue : List UInt8} (hqueue : queue ≠ []) :
    Drains r queue ⟨.pending, queue, r⟩ [] :=
  ⟨(List.append_nil _).symm, List.forall_mem_nil _, trivial, hqueue, rfl, List.forall_mem_nil _⟩

variable [Sink ω]

/-- Offers the first piece of the bytes. -/
def offer (r : Recorder ω) (bytes : List UInt8) : Offer × Recorder ω :=
  let piece := bytes.take (max (r.pieces r.calls.length) 1)
  let (answer, sink) := Sink.offer r.sink piece
  (answer, { r with sink := sink, calls := r.calls ++ [.offered piece answer] })

def flush (r : Recorder ω) : Option Fault × Recorder ω :=
  let (fault, sink) := Sink.flush r.sink
  (fault, { r with sink := sink, calls := r.calls ++ [.flushed fault] })

instance : Sink (Recorder ω) where
  offer := offer
  flush := flush
  patience r := Sink.patience r.sink
  patience_lt h := Sink.patience_lt h
  accepted_le h := Nat.le_trans (Sink.accepted_le h) (List.length_take_le' _ _)

/-- What is offered fits the queue. -/
theorem offer_fits (r : Recorder ω) {queue : List UInt8} (hqueue : queue ≠ []) :
    ∃ piece, (Sink.offer r queue).2.calls = r.calls ++ [.offered piece (Sink.offer r queue).1] ∧
      (Delivery.offered piece (Sink.offer r queue).1).Fits queue := by
  refine ⟨queue.take (max (r.pieces r.calls.length) 1), rfl, ?_, List.take_prefix _ _,
    fun n hn => @Sink.accepted_le _ _ r.sink _ n hn⟩
  cases queue with
  | nil => exact absurd rfl hqueue
  | cons b queue =>
    obtain ⟨n, hn⟩ : ∃ n, max (r.pieces r.calls.length) 1 = n + 1 :=
      ⟨_, (Nat.sub_add_cancel (by omega)).symm⟩
    rw [hn, List.take_succ_cons]
    exact List.cons_ne_nil _ _

theorem drains_finish (r : Recorder ω) :
    Drains r [] (Sink.finish r) [.flushed (Sink.flush r).1] where
  recorded := by
    have hflush : (Sink.flush r).2.calls = r.calls ++ [.flushed (Sink.flush r).1] := rfl
    rw [← hflush, Sink.finish]
    split <;> rename_i heq <;> rw [heq]
  isCall := List.forall_mem_singleton.2 rfl
  inOrder := ⟨rfl, trivial⟩
  ends := by
    unfold Sink.finish
    split <;> rename_i heq <;> rw [heq]
    · exact ⟨rfl, rfl, List.forall_mem_singleton.2 rfl⟩
    · exact ⟨[], _, rfl, rfl, List.forall_mem_nil _⟩

/-- An offer that does not fail comes before the calls of the rest of the draining. -/
theorem drains_offer {r next : Recorder ω} {queue : List UInt8} {answer : Offer}
    {d : Sink.Drained (Recorder ω)} (hqueue : queue ≠ [])
    (hoffer : Sink.offer r queue = (answer, next))
    (hfails : ∀ bytes, (Delivery.offered bytes answer).fails = false)
    (h : ∀ bytes, ∃ calls, Drains next ((Delivery.offered bytes answer).after queue) d calls) :
    ∃ calls, Drains r queue d calls := by
  obtain ⟨piece, recorded, fits⟩ := offer_fits r hqueue
  rw [hoffer] at recorded fits
  obtain ⟨calls, rest⟩ := h piece
  refine ⟨.offered piece answer :: calls, ?_, List.forall_mem_cons.2 ⟨rfl, rest.isCall⟩,
    ⟨fits, rest.inOrder⟩, rest.ends.cons (hfails piece)⟩
  rw [rest.recorded, recorded, List.append_assoc]
  rfl

/-- Draining makes calls in order, of which only the last can fail. -/
theorem drains_drain (r : Recorder ω) (queue : List UInt8) :
    ∃ calls, Drains r queue (Sink.drain r queue) calls := by
  fun_induction Sink.drain r queue with
  | case1 r => exact ⟨_, drains_finish r⟩
  | case2 r queue hqueue next hoffer =>
    exact drains_offer hqueue hoffer (fun _ => rfl) fun _ => ⟨[], drains_pending next hqueue⟩
  | case3 r queue hqueue n next hoffer ih =>
    exact drains_offer hqueue hoffer (fun _ => rfl) fun _ => ih
  | case4 r queue hqueue next hoffer =>
    exact drains_offer hqueue hoffer (fun _ => rfl) fun _ => ⟨[], drains_pending next hqueue⟩
  | case5 r queue hqueue next hoffer ih =>
    exact drains_offer hqueue hoffer (fun _ => rfl) fun _ => ih
  | case6 r queue hqueue fault next hoffer =>
    obtain ⟨piece, recorded, fits⟩ := offer_fits r hqueue
    rw [hoffer] at recorded fits
    exact ⟨_, recorded, List.forall_mem_singleton.2 rfl, ⟨fits, trivial⟩, [], _, rfl, rfl,
      List.forall_mem_nil _⟩

end Recorder

/-- A sink that gives the answers of a list, and then takes no more. -/
structure Script where
  answers : List Offer

namespace Script

def offer (script : Script) (bytes : List UInt8) : Offer × Script :=
  match script.answers with
  | [] => (.wouldBlock, script)
  | .accepted n :: rest => (.accepted (min n bytes.length), ⟨rest⟩)
  | answer :: rest => (answer, ⟨rest⟩)

instance : Sink Script where
  offer := offer
  patience script := script.answers.length
  patience_lt {script bytes} h := by
    unfold offer at h ⊢
    split at h <;> simp_all
  accepted_le {script bytes n} h := by
    unfold offer at h
    split at h <;> simp_all
    omega

/-- An offer that was disturbed is made again at once, and so is the rest of what was taken in
part. -/
example : Sink.drain (⟨⟨[.interrupted, .accepted 2, .accepted 1, .accepted 0]⟩, fun _ => 3, []⟩ :
    Recorder Script) [0x1b, 0x5b, 0x30, 0x6e] =
      ⟨.pending, [0x6e], ⟨[]⟩, fun _ => 3,
        [.offered [0x1b, 0x5b, 0x30] .interrupted, .offered [0x1b, 0x5b, 0x30] (.accepted 2),
          .offered [0x30, 0x6e] (.accepted 1), .offered [0x6e] (.accepted 0)]⟩ := by
  cbv

end Script

end Teletype
