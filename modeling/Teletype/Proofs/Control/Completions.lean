import Teletype.Proofs.Control.Feed

/-!
# What completes a sequence

The last byte of a character, an escape sequence or a control sequence leaves the decoder between
sequences. The other actions of the decoder can come in the middle of a sequence or from the start
of the next one.
-/

namespace Teletype.Control

variable {b : UInt8} {header : Header}

/-- The action is all that its bytes are for: a character or a sequence. -/
def Action.Whole : Action → Prop
  | .print _ | .escape _ | .control _ => True
  | _ => False

/-- What is whole leaves nothing begun. -/
def Next.Settles (next : Next) : Prop := ∀ action ∈ next.actions, action.Whole →
    next.state = .ground

namespace Next

theorem settles_ite {p : Prop} [Decidable p] {next next' : Next} (h : next.Settles)
    (h' : next'.Settles) : (if p then next else next').Settles := by
  split
  · exact h
  · exact h'

/-- What leads to the ground state settles. -/
theorem settles_of_ground {actions : List Action} {notice : Option DecoderNotice} :
    Next.Settles { state := .ground, actions := actions, notice := notice } := fun _ _ _ => rfl

/-- What completes nothing settles. -/
theorem settles_of_state {s : State} {notice : Option DecoderNotice} :
    Next.Settles { state := s, notice := notice } :=
  fun _ hmem _ => absurd hmem List.not_mem_nil

/-- What completes neither a character nor a sequence settles. -/
theorem settles_of_parts {s : State} {actions : List Action}
    (h : ∀ action ∈ actions, ¬action.Whole) : Next.Settles { state := s, actions := actions } :=
  fun action hmem hwhole => absurd hwhole (h action hmem)

theorem settles_of_part {s : State} {action : Action} (h : ¬action.Whole) :
    Next.Settles { state := s, actions := [action] } :=
  settles_of_parts fun _ hmem => List.mem_singleton.1 hmem ▸ h

end Next

open Next

/-! ## Between sequences -/

theorem settles_ground (b : UInt8) : (ground b).Settles := by
  unfold ground
  refine settles_ite settles_of_state ?_
  refine settles_ite settles_of_ground ?_
  refine settles_ite settles_of_ground ?_
  refine settles_ite settles_of_state ?_
  refine settles_ite settles_of_state ?_
  exact settles_ite settles_of_state settles_of_ground

theorem settles_collectUtf8 (bytes : List UInt8) (missing : Nat) :
    (collectUtf8 bytes missing b).Settles := by
  unfold collectUtf8
  exact settles_ite (settles_ite settles_of_ground settles_of_state) (settles_ground b)

/-! ## In a sequence -/

theorem settles_anywhere {rest : Next} (h : rest.Settles) (closing : Bool) :
    (anywhere closing b rest).Settles := by
  unfold anywhere
  refine settles_ite settles_of_ground ?_
  refine settles_ite settles_of_state ?_
  exact settles_ite settles_of_ground h

theorem settles_escape (closing : Bool) : (escape closing b).Settles := by
  unfold escape
  refine settles_ite settles_of_ground ?_
  refine settles_ite (settles_of_part id) ?_
  refine settles_ite settles_of_state ?_
  refine settles_ite settles_of_state ?_
  refine settles_ite settles_of_state ?_
  refine settles_ite settles_of_state ?_
  refine settles_ite settles_of_state ?_
  exact settles_ite settles_of_ground settles_of_state

theorem settles_escapeIntermediate (intermediates : List UInt8) (excess : Bool) :
    (escapeIntermediate intermediates excess b).Settles := by
  unfold escapeIntermediate
  refine settles_ite (settles_of_part id) ?_
  refine settles_ite (settles_ite settles_of_state settles_of_state) ?_
  exact settles_ite settles_of_ground settles_of_state

theorem settles_collect {next : Header → State} {ignore : State} :
    (collect header b next ignore).Settles := by
  unfold collect
  exact settles_ite settles_of_state settles_of_state

theorem settles_csiEntry : (csiEntry b).Settles := by
  unfold csiEntry
  refine settles_ite (settles_of_part id) ?_
  refine settles_ite settles_collect ?_
  refine settles_ite settles_of_state ?_
  refine settles_ite settles_of_state ?_
  exact settles_ite settles_of_ground settles_of_state

theorem settles_csiParam : (csiParam header b).Settles := by
  unfold csiParam
  refine settles_ite (settles_of_part id) ?_
  refine settles_ite settles_of_state ?_
  refine settles_ite settles_of_state ?_
  refine settles_ite settles_collect ?_
  exact settles_ite settles_of_ground settles_of_state

theorem settles_csiIntermediate : (csiIntermediate header b).Settles := by
  unfold csiIntermediate
  refine settles_ite (settles_of_part id) ?_
  refine settles_ite settles_collect ?_
  refine settles_ite settles_of_state ?_
  exact settles_ite settles_of_ground settles_of_state

theorem settles_csiIgnore : (csiIgnore b).Settles := by
  unfold csiIgnore
  refine settles_ite (settles_of_part id) ?_
  exact settles_ite settles_of_ground settles_of_state

/-! ## In a string -/

theorem settles_hook (sixel : Bool) : (hook sixel header b).Settles := by
  unfold hook
  refine settles_ite (settles_of_part id) ?_
  refine settles_ite settles_of_state ?_
  refine settles_ite settles_of_state ?_
  exact settles_ite settles_of_state settles_of_state

theorem settles_dcsEntry (sixel : Bool) : (dcsEntry sixel b).Settles := by
  unfold dcsEntry
  refine settles_ite settles_collect ?_
  refine settles_ite settles_of_state ?_
  refine settles_ite settles_of_state ?_
  refine settles_ite settles_of_state ?_
  exact settles_ite (settles_hook sixel) settles_of_state

theorem settles_dcsParam (sixel : Bool) : (dcsParam sixel header b).Settles := by
  unfold dcsParam
  refine settles_ite settles_of_state ?_
  refine settles_ite settles_of_state ?_
  refine settles_ite settles_collect ?_
  exact settles_ite (settles_hook sixel) settles_of_state

theorem settles_dcsIntermediate (sixel : Bool) : (dcsIntermediate sixel header b).Settles := by
  unfold dcsIntermediate
  refine settles_ite settles_collect ?_
  refine settles_ite settles_of_state ?_
  exact settles_ite (settles_hook sixel) settles_of_state

theorem not_whole_of_mem_finish {handler : Handler} : ∀ action ∈ handler.finish, ¬action.Whole := by
  intro action hmem
  cases handler with
  | discard => exact absurd hmem List.not_mem_nil
  | setting | beginSync | endSync | image => exact List.mem_singleton.1 hmem ▸ id
  | capabilities names excess =>
    cases excess with
    | true => exact absurd hmem List.not_mem_nil
    | false => exact List.mem_singleton.1 hmem ▸ id

theorem settles_put (handler : Handler) : (handler.put b).Settles := by
  cases handler with
  | discard | beginSync | endSync => exact settles_of_state
  | image => exact settles_of_part id
  | setting name => exact settles_ite settles_of_state settles_of_state
  | capabilities names excess =>
    refine settles_ite settles_of_state ?_
    exact settles_ite settles_of_state settles_of_state

theorem settles_dcsPassthrough (handler : Handler) : (dcsPassthrough handler b).Settles := by
  unfold dcsPassthrough
  refine settles_ite settles_of_ground ?_
  refine settles_ite (settles_of_parts not_whole_of_mem_finish) ?_
  refine settles_ite (settles_put handler) ?_
  exact settles_ite settles_of_ground settles_of_state

theorem not_whole_of_mem_finishCommand {data : Buffer} {excess bell : Bool} :
    ∀ action ∈ finishCommand data excess bell, ¬action.Whole := by
  intro action hmem
  cases excess with
  | true => exact absurd hmem List.not_mem_nil
  | false => exact List.mem_singleton.1 hmem ▸ id

theorem settles_oscString (data : Buffer) (excess : Bool) : (oscString data excess b).Settles := by
  unfold oscString
  refine settles_ite settles_of_ground ?_
  refine settles_ite settles_of_ground ?_
  refine settles_ite (settles_of_parts not_whole_of_mem_finishCommand) ?_
  refine settles_ite settles_of_state ?_
  exact settles_ite settles_of_state settles_of_state

theorem settles_sosPmApcString : (sosPmApcString b).Settles := by
  unfold sosPmApcString
  refine settles_ite settles_of_ground ?_
  exact settles_ite settles_of_state settles_of_state

/-! ## In every state -/

/-- In every state what is whole leaves nothing begun. -/
theorem settles_transition (sixel : Bool) (b : UInt8) (s : State) :
    (transition sixel b s).Settles := by
  cases s with
  | ground => exact settles_ground b
  | utf8Collect bytes missing => exact settles_collectUtf8 bytes missing
  | escape closing => exact settles_anywhere (settles_escape closing) _
  | escapeIntermediate intermediates excess =>
    exact settles_anywhere (settles_escapeIntermediate intermediates excess) _
  | csiEntry => exact settles_anywhere settles_csiEntry _
  | csiParam header => exact settles_anywhere settles_csiParam _
  | csiIntermediate header => exact settles_anywhere settles_csiIntermediate _
  | csiIgnore => exact settles_anywhere settles_csiIgnore _
  | dcsEntry => exact settles_anywhere (settles_dcsEntry sixel) _
  | dcsParam header => exact settles_anywhere (settles_dcsParam sixel) _
  | dcsIntermediate header => exact settles_anywhere (settles_dcsIntermediate sixel) _
  | dcsIgnore => exact settles_anywhere settles_of_state _
  | dcsPassthrough handler => exact settles_dcsPassthrough handler
  | oscString data excess => exact settles_oscString data excess
  | sosPmApcString => exact settles_sosPmApcString

/-- A byte that completes a character or a sequence leaves nothing begun. -/
theorem Decoder.ground_of_whole {d : Decoder} {action : Action} (h : action ∈ (d.step b).2)
    (hwhole : action.Whole) : (d.step b).1.state = .ground :=
  (note_eq _ _).1.trans (settles_transition d.sixel b d.state action h hwhole)

end Teletype.Control
