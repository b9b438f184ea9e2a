import Teletype.Proofs.Control.Feed

/-!
# What the decoder holds is bounded

However long the output is, a sequence has at most sixteen parameters with at most eight
sub-parameters each and at most two intermediate bytes, a number in it is cut off, and an operating
system command has at most 1 MiB.
-/

namespace Teletype.Control

/-- Parameters that are few enough to be kept. -/
def Kept (items : List Param) : Prop :=
  items.length ≤ Params.maxCount ∧ ∀ item ∈ items, item.subs.length ≤ Params.maxSubs

namespace Params.Builder

/-- A builder that keeps no more than it may. -/
structure Bounded (b : Builder) : Prop where
  kept : Kept b.items
  value_le : b.value ≤ maxValue + 1

theorem bounded_empty : ({} : Builder).Bounded where
  kept := ⟨Nat.zero_le _, fun _ h => absurd h List.not_mem_nil⟩
  value_le := Nat.zero_le _

variable {b : Builder}

theorem opened_ne_nil (b : Builder) : b.opened.items ≠ [] := by
  unfold opened
  split
  · exact List.cons_ne_nil _ _
  · rename_i h
    exact fun hnil => h (List.isEmpty_iff.2 hnil)

theorem length_modifyItem (b : Builder) (f : Param → Param) :
    (b.modifyItem f).items.length = b.items.length := by
  unfold modifyItem
  split <;> simp_all

theorem length_commit (b : Builder) : b.commit.items.length = b.items.length := by
  unfold commit
  dsimp only
  split
  · rfl
  · split
    · split
      · rfl
      · exact length_modifyItem _ _
    · exact length_modifyItem _ _

namespace Bounded

theorem opened (h : b.Bounded) : b.opened.Bounded := by
  unfold Builder.opened
  split
  · refine ⟨⟨Nat.succ_le_succ (Nat.zero_le _), fun item hitem => ?_⟩, h.value_le⟩
    rw [List.mem_singleton.1 hitem]
    exact Nat.zero_le _
  · exact h

theorem modifyItem (h : b.Bounded) {f : Param → Param}
    (hf : ∀ item, item.subs.length ≤ maxSubs → (f item).subs.length ≤ maxSubs) :
    (b.modifyItem f).Bounded := by
  obtain ⟨count, subs⟩ := h.kept
  unfold Builder.modifyItem
  split
  · exact h
  · rename_i item rest hitems
    rw [hitems] at count subs
    refine ⟨⟨count, ?_⟩, h.value_le⟩
    exact List.forall_mem_cons.2 ⟨hf item (subs item List.mem_cons_self),
      fun other hother => subs other (List.mem_cons_of_mem _ hother)⟩

theorem commit (h : b.Bounded) : b.commit.Bounded := by
  have read : ({ b with
      value := 0
      hasDigits := false
      overflowed := b.overflowed || maxValue < b.value } : Builder).Bounded :=
        ⟨h.kept, Nat.zero_le _⟩
  unfold Builder.commit
  dsimp only
  split
  · exact read
  · split
    · split
      · exact read
      · refine read.modifyItem fun item hitem => ?_
        simp only [List.length_append, List.length_dropLast, List.length_singleton]
        unfold maxSubs at hitem ⊢
        omega
    · exact read.modifyItem fun _ hitem => hitem

theorem digit (h : b.Bounded) (d : Nat) : (b.digit d).Bounded :=
  ⟨h.opened.kept, Nat.min_le_right _ _⟩

theorem semicolon (h : b.Bounded) : b.semicolon.1.Bounded := by
  have committed := h.opened.commit
  obtain ⟨count, subs⟩ := committed.kept
  unfold Builder.semicolon
  dsimp only
  split
  · exact ⟨committed.kept, committed.value_le⟩
  · split
    · exact ⟨committed.kept, committed.value_le⟩
    · rename_i hfull
      refine ⟨⟨Nat.lt_of_le_of_ne count hfull, ?_⟩, committed.value_le⟩
      exact List.forall_mem_cons.2 ⟨Nat.zero_le _, subs⟩

theorem colon (h : b.Bounded) : b.colon.1.Bounded := by
  have committed := h.opened.commit
  obtain ⟨count, subs⟩ := committed.kept
  unfold Builder.colon
  dsimp only
  split
  · exact ⟨committed.kept, committed.value_le⟩
  · split
    · exact ⟨committed.kept, committed.value_le⟩
    · rename_i item rest hitems
      rw [hitems] at count subs
      obtain ⟨first, others⟩ := List.forall_mem_cons.1 subs
      split
      · exact ⟨committed.kept, committed.value_le⟩
      · rename_i hfull
        refine ⟨⟨count, List.forall_mem_cons.2 ⟨?_, others⟩⟩, committed.value_le⟩
        rw [List.length_append, List.length_singleton]
        exact Nat.lt_of_le_of_ne first hfull

theorem push (h : b.Bounded) (byte : UInt8) : (b.push byte).1.Bounded := by
  unfold Builder.push
  split
  · exact h.digit _
  · split
    · exact h.colon
    · exact h.semicolon

theorem finish (h : b.Bounded) : Kept b.finish.items := by
  have last : (if b.items.isEmpty then b else b.commit).Bounded := by
    split
    · exact h
    · exact h.commit
  refine ⟨Nat.le_trans (Nat.le_of_eq List.length_reverse) last.kept.1, fun item hitem => ?_⟩
  exact last.kept.2 item (List.mem_reverse.1 hitem)

end Bounded

end Params.Builder

/-! ## States and actions -/

/-- A header that holds no more than it may. -/
structure Header.Bounded (h : Header) : Prop where
  params : h.params.Bounded
  intermediates : h.intermediates.length ≤ maxIntermediates

/-- A state that holds no more than it may. The bytes of a character are at most four. -/
def State.Bounded : State → Prop
  | .escapeIntermediate intermediates _ => intermediates.length ≤ maxIntermediates
  | .csiParam header | .csiIntermediate header | .dcsParam header | .dcsIntermediate header =>
    header.Bounded
  | .oscString data _ => data.size ≤ maxCommand
  | .utf8Collect bytes missing => bytes.length + missing ≤ 4 ∧ 1 ≤ missing
  | _ => True

/-- An action that carries no more than a state may hold. -/
def Action.Bounded : Action → Prop
  | .escape s => s.intermediates.length ≤ maxIntermediates
  | .control s => Kept s.params.items ∧ s.intermediates.length ≤ maxIntermediates
  | .command data _ => data.length ≤ maxCommand
  | _ => True

/-- What one byte brings about stays within the bounds. -/
structure Next.Bounded (n : Next) : Prop where
  state : n.state.Bounded
  actions : ∀ action ∈ n.actions, action.Bounded

namespace Next

theorem bounded_ite {p : Prop} [Decidable p] {a b : Next} (ha : p → a.Bounded)
    (hb : ¬p → b.Bounded) : (if p then a else b).Bounded := by
  split
  · exact ha ‹_›
  · exact hb ‹_›

/-- A byte that completes nothing keeps within bounds if the state that it leads to does. -/
theorem bounded_of_state {s : State} {notice : Option DecoderNotice} (h : s.Bounded) :
    Next.Bounded { state := s, notice := notice } :=
  ⟨h, fun _ hmem => absurd hmem List.not_mem_nil⟩

theorem bounded_of_action {s : State} {action : Action} (h : s.Bounded) (ha : action.Bounded) :
    Next.Bounded { state := s, actions := [action] } :=
  ⟨h, fun _ hmem => List.mem_singleton.1 hmem ▸ ha⟩

end Next

open Next

theorem Header.bounded_empty :
    ({} : Header).Bounded := ⟨Params.Builder.bounded_empty, Nat.zero_le _⟩

theorem Header.bounded_marker (b : UInt8) : ({ marker := some b } : Header).Bounded :=
  ⟨Params.Builder.bounded_empty, Nat.zero_le _⟩

variable {header : Header}

theorem bounded_ground (b : UInt8) : (ground b).Bounded := by
  unfold ground
  refine bounded_ite (fun _ => bounded_of_state trivial) fun _ => ?_
  refine bounded_ite (fun _ => bounded_of_action trivial trivial) fun _ => ?_
  refine bounded_ite (fun _ => bounded_of_action trivial trivial) fun _ => ?_
  refine bounded_ite (fun _ => bounded_of_state (show 1 + 1 ≤ 4 ∧ 1 ≤ 1 by decide)) fun _ => ?_
  refine bounded_ite (fun _ => bounded_of_state (show 1 + 2 ≤ 4 ∧ 1 ≤ 2 by decide)) fun _ => ?_
  exact bounded_ite (fun _ => bounded_of_state (show 1 + 3 ≤ 4 ∧ 1 ≤ 3 by decide)) fun _ =>
    bounded_of_state trivial

theorem bounded_collectUtf8 {bytes : List UInt8} {missing : Nat}
    (h : bytes.length + missing ≤ 4 ∧ 1 ≤ missing) (b : UInt8) :
    (collectUtf8 bytes missing b).Bounded := by
  unfold collectUtf8
  refine bounded_ite (fun _ => bounded_ite (fun _ => ?_) fun hmore => bounded_of_state ?_)
    fun _ => bounded_ground b
  · refine ⟨trivial, fun action hmem => ?_⟩
    obtain ⟨c, -, rfl⟩ := Option.map_eq_some_iff.1 (Option.mem_toList.1 hmem)
    trivial
  · show (bytes ++ [b]).length + (missing - 1) ≤ 4 ∧ 1 ≤ missing - 1
    rw [List.length_append, List.length_singleton]
    omega

theorem bounded_collect (h : header.Bounded) (b : UInt8) {next : Header → State} {ignore : State}
    (hnext : ∀ {header}, header.Bounded → (next header).Bounded) (hignore : ignore.Bounded) :
    (collect header b next ignore).Bounded := by
  unfold collect
  refine bounded_ite (fun hroom => bounded_of_state (hnext ⟨h.params, ?_⟩))
    fun _ => bounded_of_state hignore
  rw [List.length_append, List.length_singleton]
  exact hroom

theorem bounded_param (h : header.Bounded) (b : UInt8) {next : Header → State}
    (hnext : ∀ {header}, header.Bounded → (next header).Bounded) : (param header b next).Bounded :=
  bounded_of_state (hnext ⟨h.params.push b, h.intermediates⟩)

theorem bounded_dispatchEscape {intermediates : List UInt8}
    (h : intermediates.length ≤ maxIntermediates) (excess : Bool) (b : UInt8) :
    (dispatchEscape intermediates excess b).Bounded := by
  refine ⟨trivial, fun action hmem => ?_⟩
  simp only [dispatchEscape] at hmem
  split at hmem
  · exact absurd hmem List.not_mem_nil
  · rw [List.mem_singleton.1 hmem]
    exact h

theorem bounded_escape (closing : Bool) (b : UInt8) : (escape closing b).Bounded := by
  unfold escape
  refine bounded_ite (fun _ => bounded_of_state trivial) fun _ => ?_
  refine bounded_ite (fun _ => bounded_of_action trivial trivial) fun _ => ?_
  refine bounded_ite (fun _ => bounded_of_state (show 1 ≤ maxIntermediates by decide)) fun _ => ?_
  refine bounded_ite (fun _ => bounded_of_state trivial) fun _ => ?_
  refine bounded_ite (fun _ => bounded_of_state trivial) fun _ => ?_
  refine bounded_ite (fun _ => bounded_of_state trivial) fun _ => ?_
  refine bounded_ite (fun _ => bounded_of_state (Nat.zero_le _)) fun _ => ?_
  exact bounded_ite (fun _ => bounded_dispatchEscape (Nat.zero_le _) false b) fun _ =>
    bounded_of_state trivial

theorem bounded_escapeIntermediate {intermediates : List UInt8}
    (h : intermediates.length ≤ maxIntermediates) (excess : Bool) (b : UInt8) :
    (escapeIntermediate intermediates excess b).Bounded := by
  unfold escapeIntermediate
  refine bounded_ite (fun _ => bounded_of_action h trivial) fun _ => ?_
  refine bounded_ite (fun _ => bounded_ite (fun hroom => bounded_of_state ?_)
    fun _ => bounded_of_state h) fun _ => ?_
  · show (intermediates ++ [b]).length ≤ maxIntermediates
    rw [List.length_append, List.length_singleton]
    exact hroom
  · exact bounded_ite (fun _ => bounded_dispatchEscape h excess b) fun _ => bounded_of_state h

theorem bounded_dispatchControl (h : header.Bounded) (b : UInt8) :
    (dispatchControl header b).Bounded :=
  bounded_of_action trivial ⟨h.params.finish, h.intermediates⟩

theorem bounded_csiEntry (b : UInt8) : (csiEntry b).Bounded := by
  unfold csiEntry
  refine bounded_ite (fun _ => bounded_of_action trivial trivial) fun _ => ?_
  refine bounded_ite (fun _ => bounded_collect Header.bounded_empty b id trivial) fun _ => ?_
  refine bounded_ite (fun _ => bounded_param Header.bounded_empty b id) fun _ => ?_
  refine bounded_ite (fun _ => bounded_of_state (Header.bounded_marker b)) fun _ => ?_
  exact bounded_ite (fun _ => bounded_dispatchControl Header.bounded_empty b) fun _ =>
    bounded_of_state trivial

theorem bounded_csiParam (h : header.Bounded) (b : UInt8) : (csiParam header b).Bounded := by
  unfold csiParam
  refine bounded_ite (fun _ => bounded_of_action h trivial) fun _ => ?_
  refine bounded_ite (fun _ => bounded_param h b id) fun _ => ?_
  refine bounded_ite (fun _ => bounded_of_state trivial) fun _ => ?_
  refine bounded_ite (fun _ => bounded_collect h b id trivial) fun _ => ?_
  exact bounded_ite (fun _ => bounded_dispatchControl h b) fun _ => bounded_of_state h

theorem bounded_csiIntermediate (h : header.Bounded) (b : UInt8) :
    (csiIntermediate header b).Bounded := by
  unfold csiIntermediate
  refine bounded_ite (fun _ => bounded_of_action h trivial) fun _ => ?_
  refine bounded_ite (fun _ => bounded_collect h b id trivial) fun _ => ?_
  refine bounded_ite (fun _ => bounded_of_state trivial) fun _ => ?_
  exact bounded_ite (fun _ => bounded_dispatchControl h b) fun _ => bounded_of_state h

theorem bounded_csiIgnore (b : UInt8) : (csiIgnore b).Bounded := by
  unfold csiIgnore
  refine bounded_ite (fun _ => bounded_of_action trivial trivial) fun _ => ?_
  exact bounded_ite (fun _ => bounded_of_state trivial) fun _ => bounded_of_state trivial

theorem bounded_hook (sixel : Bool) (header : Header) (b : UInt8) :
    (hook sixel header b).Bounded := by
  unfold hook
  refine bounded_ite (fun _ => bounded_of_action trivial trivial) fun _ => ?_
  refine bounded_ite (fun _ => bounded_of_state trivial) fun _ => ?_
  refine bounded_ite (fun _ => bounded_of_state trivial) fun _ => ?_
  exact bounded_ite (fun _ => bounded_of_state trivial) fun _ => bounded_of_state trivial

theorem bounded_dcsEntry (sixel : Bool) (b : UInt8) : (dcsEntry sixel b).Bounded := by
  unfold dcsEntry
  refine bounded_ite (fun _ => bounded_collect Header.bounded_empty b id trivial) fun _ => ?_
  refine bounded_ite (fun _ => bounded_of_state trivial) fun _ => ?_
  refine bounded_ite (fun _ => bounded_param Header.bounded_empty b id) fun _ => ?_
  refine bounded_ite (fun _ => bounded_of_state (Header.bounded_marker b)) fun _ => ?_
  exact bounded_ite (fun _ => bounded_hook sixel {} b) fun _ => bounded_of_state trivial

theorem bounded_dcsParam (sixel : Bool) (h : header.Bounded) (b : UInt8) :
    (dcsParam sixel header b).Bounded := by
  unfold dcsParam
  refine bounded_ite (fun _ => bounded_of_state trivial) fun _ => ?_
  refine bounded_ite (fun _ => bounded_param h b id) fun _ => ?_
  refine bounded_ite (fun _ => bounded_collect h b id trivial) fun _ => ?_
  exact bounded_ite (fun _ => bounded_hook sixel header b) fun _ => bounded_of_state h

theorem bounded_dcsIntermediate (sixel : Bool) (h : header.Bounded) (b : UInt8) :
    (dcsIntermediate sixel header b).Bounded := by
  unfold dcsIntermediate
  refine bounded_ite (fun _ => bounded_collect h b id trivial) fun _ => ?_
  refine bounded_ite (fun _ => bounded_of_state trivial) fun _ => ?_
  exact bounded_ite (fun _ => bounded_hook sixel header b) fun _ => bounded_of_state h

theorem bounded_handler_finish (handler : Handler) : ∀ action ∈ handler.finish, action.Bounded := by
  unfold Handler.finish
  split
  all_goals try split
  all_goals simp [Action.Bounded]

theorem bounded_put (handler : Handler) (b : UInt8) : (handler.put b).Bounded := by
  unfold Handler.put
  dsimp only
  split
  · exact bounded_of_state trivial
  · exact bounded_of_state trivial
  · exact bounded_of_state trivial
  · exact bounded_of_action trivial trivial
  · exact bounded_ite (fun _ => bounded_of_state trivial) fun _ => bounded_of_state trivial
  · refine bounded_ite (fun _ => bounded_of_state trivial) fun _ => ?_
    exact bounded_ite (fun _ => bounded_of_state trivial) fun _ => bounded_of_state trivial

theorem bounded_dcsPassthrough (handler : Handler) (b : UInt8) :
    (dcsPassthrough handler b).Bounded := by
  unfold dcsPassthrough
  have finish := bounded_handler_finish handler
  refine bounded_ite (fun _ => ⟨trivial, fun action hmem => ?_⟩) fun _ => ?_
  · rcases List.mem_append.1 hmem with hmem | hmem
    · exact finish action hmem
    · rw [List.mem_singleton.1 hmem]
      trivial
  refine bounded_ite (fun _ => ⟨trivial, finish⟩) fun _ => ?_
  refine bounded_ite (fun _ => bounded_put handler b) fun _ => ?_
  exact bounded_ite (fun _ => ⟨trivial, finish⟩) fun _ => bounded_of_state trivial

theorem bounded_finishCommand {data : Buffer} (h : data.size ≤ maxCommand) (excess bell : Bool) :
    ∀ action ∈ finishCommand data excess bell, action.Bounded := by
  unfold finishCommand
  split
  · simp
  · intro action hmem
    rw [List.mem_singleton.1 hmem, Action.Bounded, Buffer.length_toList]
    exact h

theorem bounded_oscString {data : Buffer} (h : data.size ≤ maxCommand) (excess : Bool) (b : UInt8) :
    (oscString data excess b).Bounded := by
  unfold oscString
  have finish := bounded_finishCommand h excess
  refine bounded_ite (fun _ => ⟨trivial, finish true⟩) fun _ => ?_
  refine bounded_ite (fun _ => ⟨trivial, fun action hmem => ?_⟩) fun _ => ?_
  · rcases List.mem_append.1 hmem with hmem | hmem
    · exact finish false action hmem
    · rw [List.mem_singleton.1 hmem]
      trivial
  refine bounded_ite (fun _ => ⟨trivial, finish false⟩) fun _ => ?_
  refine bounded_ite (fun _ => bounded_of_state h) fun _ => ?_
  exact bounded_ite (fun hroom => bounded_of_state hroom) fun _ => bounded_of_state h

theorem bounded_sosPmApcString (b : UInt8) : (sosPmApcString b).Bounded := by
  unfold sosPmApcString
  refine bounded_ite (fun _ => bounded_of_action trivial trivial) fun _ => ?_
  exact bounded_ite (fun _ => bounded_of_state trivial) fun _ => bounded_of_state trivial

theorem bounded_anywhere (closing : Bool) (b : UInt8) {rest : Next} (h : rest.Bounded) :
    (anywhere closing b rest).Bounded := by
  unfold anywhere
  refine bounded_ite (fun _ => bounded_of_action trivial trivial) fun _ => ?_
  refine bounded_ite (fun _ => bounded_of_state trivial) fun _ => ?_
  exact bounded_ite (fun _ => bounded_of_state trivial) fun _ => h

/-- A byte never makes the machine hold more than it may. -/
theorem bounded_transition {s : State} (h : s.Bounded) (sixel : Bool) (b : UInt8) :
    (transition sixel b s).Bounded := by
  cases s with
  | ground => exact bounded_ground b
  | utf8Collect bytes missing => exact bounded_collectUtf8 h b
  | oscString data excess => exact bounded_oscString h excess b
  | sosPmApcString => exact bounded_sosPmApcString b
  | dcsPassthrough handler => exact bounded_dcsPassthrough handler b
  | escape closing => exact bounded_anywhere false b (bounded_escape closing b)
  | escapeIntermediate intermediates excess =>
    exact bounded_anywhere false b (bounded_escapeIntermediate h excess b)
  | csiEntry => exact bounded_anywhere false b (bounded_csiEntry b)
  | csiParam header => exact bounded_anywhere false b (bounded_csiParam h b)
  | csiIntermediate header => exact bounded_anywhere false b (bounded_csiIntermediate h b)
  | csiIgnore => exact bounded_anywhere false b (bounded_csiIgnore b)
  | dcsEntry => exact bounded_anywhere true b (bounded_dcsEntry sixel b)
  | dcsParam header => exact bounded_anywhere true b (bounded_dcsParam sixel h b)
  | dcsIntermediate header => exact bounded_anywhere true b (bounded_dcsIntermediate sixel h b)
  | dcsIgnore => exact bounded_anywhere true b (bounded_of_state trivial)

namespace Decoder

variable {d : Decoder}

theorem bounded_step (h : d.state.Bounded) (b : UInt8) :
    (d.step b).1.state.Bounded ∧ ∀ action ∈ (d.step b).2, action.Bounded := by
  have next := bounded_transition h d.sixel b
  refine ⟨?_, next.actions⟩
  unfold step
  rw [(note_eq _ _).1]
  exact next.state

/-- Output of any length never makes the decoder hold more than it may. -/
theorem bounded_feed (h : d.state.Bounded) (bytes : List UInt8) :
    (d.feed bytes).1.state.Bounded ∧ ∀ action ∈ (d.feed bytes).2.toList, action.Bounded := by
  induction bytes generalizing d with
  | nil => exact ⟨h, fun _ hmem => absurd hmem List.not_mem_nil⟩
  | cons b bytes ih =>
    obtain ⟨hstate, hactions⟩ := bounded_step h b
    obtain ⟨hend, hrest⟩ := ih hstate
    rw [(feed_cons d b bytes).1, (feed_cons d b bytes).2]
    exact ⟨hend, fun action hmem => (List.mem_append.1 hmem).elim (hactions action) (hrest action)⟩

end Decoder

end Teletype.Control
