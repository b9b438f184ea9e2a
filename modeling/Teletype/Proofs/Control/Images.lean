import Teletype.Proofs.Control.Registers

/-!
# Images are sent whole

The image decoder is told where an image starts and ends, and gets the bytes between. Whatever
output is read, and whenever the reading of images is switched, it is never told anything else in
the middle of an image, and it gets no byte outside of one. An image without an end is one that is
still being read.
-/

namespace Teletype.Control

/-- Whether an action is for the image decoder. -/
def Action.ofImage : Action → Bool
  | .imageStart .. | .imageData _ | .imageEnd => true
  | _ => false

/-- Actions with whole images among them: a start, the data and an end, with nothing else
between. -/
inductive Bracketed : List Action → Prop where
  | nil : Bracketed []
  | other {action : Action} {rest : List Action} (h : action.ofImage = false) :
    Bracketed rest → Bracketed (action :: rest)
  | image (p1 p2 p3 : Nat) (data : List UInt8) {rest : List Action} :
    Bracketed rest →
    Bracketed (.imageStart p1 p2 p3 :: (data.map Action.imageData ++ .imageEnd :: rest))

theorem Bracketed.append {l l' : List Action} (h : Bracketed l) (h' : Bracketed l') :
    Bracketed (l ++ l') := by
  induction h with
  | nil => exact h'
  | other hother _ ih => exact .other hother ih
  | image p1 p2 p3 data _ ih =>
    rw [List.cons_append, List.append_assoc, List.cons_append]
    exact .image p1 p2 p3 data ih

theorem bracketed_of_others {l : List Action} (h : ∀ action ∈ l, action.ofImage = false) :
    Bracketed l := by
  induction l with
  | nil => exact .nil
  | cons action l ih =>
    rw [List.forall_mem_cons] at h
    exact .other h.1 (ih h.2)

/-- Whether the bytes of an image are read in a state. -/
def State.readsImage : State → Bool
  | .dcsPassthrough .image => true
  | _ => false

/-- What was completed up to a state: whole images, and the start and the data of one that is being
read. -/
inductive Streamed : State → List Action → Prop where
  | between {s : State} {whole : List Action} (hs : s.readsImage = false) (h : Bracketed whole) :
    Streamed s whole
  | within {whole : List Action} (h : Bracketed whole) (p1 p2 p3 : Nat) (data : List UInt8) :
    Streamed (.dcsPassthrough .image) (whole ++ .imageStart p1 p2 p3 :: data.map Action.imageData)

/-! ## Outside images -/

/-- No part of an image is completed, and none is read after it. -/
structure Next.Plain (n : Next) : Prop where
  state : n.state.readsImage = false
  actions : ∀ action ∈ n.actions, action.ofImage = false

/-- An image starts. -/
structure Next.Starts (n : Next) : Prop where
  state : n.state = .dcsPassthrough .image
  actions : ∃ p1 p2 p3, n.actions = [.imageStart p1 p2 p3]

theorem plain_of_state {s : State} {notice : Option DecoderNotice} (h : s.readsImage = false) :
    (⟨s, [], notice⟩ : Next).Plain := ⟨h, List.forall_mem_nil _⟩

theorem plain_of_action {s : State} {action : Action} {notice : Option DecoderNotice}
    (h : s.readsImage = false) (h' : action.ofImage = false) :
    (⟨s, [action], notice⟩ : Next).Plain :=
  ⟨h, List.forall_mem_singleton.2 h'⟩

theorem plain_ground (b : UInt8) : (ground b).Plain := by
  fun_cases ground b with
  | case2 | case3 => exact plain_of_action rfl rfl
  | _ => exact plain_of_state rfl

theorem plain_collectUtf8 (bytes : List UInt8) (missing : Nat) (b : UInt8) :
    (collectUtf8 bytes missing b).Plain := by
  fun_cases collectUtf8 bytes missing b with
  | case1 =>
    refine ⟨rfl, ?_⟩
    cases Text.Utf8.single? (bytes ++ [b]) with
    | none => exact List.forall_mem_nil _
    | some c => exact List.forall_mem_singleton.2 rfl
  | case2 => exact plain_of_state rfl
  | case3 => exact plain_ground b

theorem plain_collect {next : Header → State} {ignore : State} (header : Header) (b : UInt8)
    (hnext : ∀ header, (next header).readsImage = false) (hignore : ignore.readsImage = false) :
    (collect header b next ignore).Plain := by
  fun_cases collect header b next ignore with
  | case1 => exact plain_of_state (hnext _)
  | case2 => exact plain_of_state hignore

theorem plain_param {next : Header → State} (header : Header) (b : UInt8)
    (hnext : ∀ header, (next header).readsImage = false) : (param header b next).Plain :=
  plain_of_state (hnext _)

theorem plain_dispatchEscape (intermediates : List UInt8) (excess : Bool) (b : UInt8) :
    (dispatchEscape intermediates excess b).Plain := by
  cases excess with
  | true => exact plain_of_state rfl
  | false => exact plain_of_action rfl rfl

theorem plain_escape (closing : Bool) (b : UInt8) : (escape closing b).Plain := by
  fun_cases escape closing b with
  | case2 => exact plain_of_action rfl rfl
  | case8 => exact plain_dispatchEscape [] false b
  | _ => exact plain_of_state rfl

theorem plain_escapeIntermediate (intermediates : List UInt8) (excess : Bool) (b : UInt8) :
    (escapeIntermediate intermediates excess b).Plain := by
  fun_cases escapeIntermediate intermediates excess b with
  | case1 => exact plain_of_action rfl rfl
  | case4 => exact plain_dispatchEscape intermediates excess b
  | _ => exact plain_of_state rfl

theorem plain_dispatchControl (header : Header) (b : UInt8) : (dispatchControl header b).Plain :=
  plain_of_action rfl rfl

theorem plain_csiEntry (b : UInt8) : (csiEntry b).Plain := by
  fun_cases csiEntry b with
  | case1 => exact plain_of_action rfl rfl
  | case2 => exact plain_collect _ b (fun _ => rfl) rfl
  | case3 => exact plain_param _ b fun _ => rfl
  | case5 => exact plain_dispatchControl _ b
  | _ => exact plain_of_state rfl

theorem plain_csiParam (header : Header) (b : UInt8) : (csiParam header b).Plain := by
  fun_cases csiParam header b with
  | case1 => exact plain_of_action rfl rfl
  | case2 => exact plain_param _ b fun _ => rfl
  | case4 => exact plain_collect _ b (fun _ => rfl) rfl
  | case5 => exact plain_dispatchControl _ b
  | _ => exact plain_of_state rfl

theorem plain_csiIntermediate (header : Header) (b : UInt8) : (csiIntermediate header b).Plain := by
  fun_cases csiIntermediate header b with
  | case1 => exact plain_of_action rfl rfl
  | case2 => exact plain_collect _ b (fun _ => rfl) rfl
  | case4 => exact plain_dispatchControl _ b
  | _ => exact plain_of_state rfl

theorem plain_csiIgnore (b : UInt8) : (csiIgnore b).Plain := by
  fun_cases csiIgnore b with
  | case1 => exact plain_of_action rfl rfl
  | _ => exact plain_of_state rfl

theorem plain_oscString (data : Buffer) (excess : Bool) (b : UInt8) :
    (oscString data excess b).Plain := by
  have finished (bell : Bool) :
      ∀ action ∈ finishCommand data excess bell, action.ofImage = false := by
    cases excess with
    | true => exact List.forall_mem_nil _
    | false => exact List.forall_mem_singleton.2 rfl
  fun_cases oscString data excess b with
  | case1 => exact ⟨rfl, finished true⟩
  | case2 => exact ⟨rfl, List.forall_mem_append.2 ⟨finished false, List.forall_mem_singleton.2 rfl⟩⟩
  | case3 => exact ⟨rfl, finished false⟩
  | _ => exact plain_of_state rfl

theorem plain_sosPmApcString (b : UInt8) : (sosPmApcString b).Plain := by
  fun_cases sosPmApcString b with
  | case1 => exact plain_of_action rfl rfl
  | _ => exact plain_of_state rfl

/-- The start of a device control string starts an image, or it has nothing to do with images. -/
theorem plain_or_starts_hook (sixel : Bool) (header : Header) (b : UInt8) :
    (hook sixel header b).Plain ∨ (hook sixel header b).Starts := by
  fun_cases hook sixel header b with
  | case1 => exact .inr ⟨rfl, _, _, _, rfl⟩
  | case4 =>
    refine .inl (plain_of_state ?_)
    split
    · rfl
    · split <;> rfl
  | _ => exact .inl (plain_of_state rfl)

theorem plain_or_starts_dcsEntry (sixel : Bool) (b : UInt8) :
    (dcsEntry sixel b).Plain ∨ (dcsEntry sixel b).Starts := by
  fun_cases dcsEntry sixel b with
  | case1 => exact .inl (plain_collect _ b (fun _ => rfl) rfl)
  | case3 => exact .inl (plain_param _ b fun _ => rfl)
  | case5 => exact plain_or_starts_hook sixel _ b
  | _ => exact .inl (plain_of_state rfl)

theorem plain_or_starts_dcsParam (sixel : Bool) (header : Header) (b : UInt8) :
    (dcsParam sixel header b).Plain ∨ (dcsParam sixel header b).Starts := by
  fun_cases dcsParam sixel header b with
  | case2 => exact .inl (plain_param _ b fun _ => rfl)
  | case3 => exact .inl (plain_collect _ b (fun _ => rfl) rfl)
  | case4 => exact plain_or_starts_hook sixel _ b
  | _ => exact .inl (plain_of_state rfl)

theorem plain_or_starts_dcsIntermediate (sixel : Bool) (header : Header) (b : UInt8) :
    (dcsIntermediate sixel header b).Plain ∨ (dcsIntermediate sixel header b).Starts := by
  fun_cases dcsIntermediate sixel header b with
  | case1 => exact .inl (plain_collect _ b (fun _ => rfl) rfl)
  | case3 => exact plain_or_starts_hook sixel _ b
  | _ => exact .inl (plain_of_state rfl)

/-- A device control string that is no image does not become one. -/
theorem plain_dcsPassthrough {handler : Handler}
    (h : (State.dcsPassthrough handler).readsImage = false) (b : UInt8) :
    (dcsPassthrough handler b).Plain := by
  have finished : ∀ action ∈ handler.finish, action.ofImage = false := by
    cases handler with
    | discard => exact List.forall_mem_nil _
    | setting | beginSync | endSync => exact List.forall_mem_singleton.2 rfl
    | capabilities names excess =>
      cases excess with
      | true => exact List.forall_mem_nil _
      | false => exact List.forall_mem_singleton.2 rfl
    | image => exact absurd h (by decide)
  have put : (handler.put b).Plain := by
    fun_cases Handler.put handler b with
    | case4 => exact absurd h (by decide)
    | _ => exact plain_of_state rfl
  fun_cases dcsPassthrough handler b with
  | case1 => exact ⟨rfl, List.forall_mem_append.2 ⟨finished, List.forall_mem_singleton.2 rfl⟩⟩
  | case2 | case4 => exact ⟨rfl, finished⟩
  | case3 => exact put
  | case5 => exact plain_of_state h

theorem plain_or_starts_anywhere (closing : Bool) (b : UInt8) {rest : Next}
    (h : rest.Plain ∨ rest.Starts) :
    (anywhere closing b rest).Plain ∨ (anywhere closing b rest).Starts := by
  fun_cases anywhere closing b rest with
  | case1 => exact .inl (plain_of_action rfl rfl)
  | case4 => exact h
  | _ => exact .inl (plain_of_state rfl)

/-- Outside of images a byte starts one, or it has nothing to do with images. -/
theorem plain_or_starts_transition {s : State} (h : s.readsImage = false) (sixel : Bool)
    (b : UInt8) : (transition sixel b s).Plain ∨ (transition sixel b s).Starts := by
  cases s with
  | ground => exact .inl (plain_ground b)
  | utf8Collect bytes missing => exact .inl (plain_collectUtf8 bytes missing b)
  | oscString data excess => exact .inl (plain_oscString data excess b)
  | sosPmApcString => exact .inl (plain_sosPmApcString b)
  | dcsPassthrough handler => exact .inl (plain_dcsPassthrough h b)
  | escape closing => exact plain_or_starts_anywhere false b (.inl (plain_escape closing b))
  | escapeIntermediate intermediates excess =>
    exact plain_or_starts_anywhere false b (.inl (plain_escapeIntermediate intermediates excess b))
  | csiEntry => exact plain_or_starts_anywhere false b (.inl (plain_csiEntry b))
  | csiParam header => exact plain_or_starts_anywhere false b (.inl (plain_csiParam header b))
  | csiIntermediate header =>
    exact plain_or_starts_anywhere false b (.inl (plain_csiIntermediate header b))
  | csiIgnore => exact plain_or_starts_anywhere false b (.inl (plain_csiIgnore b))
  | dcsEntry => exact plain_or_starts_anywhere true b (plain_or_starts_dcsEntry sixel b)
  | dcsParam header =>
    exact plain_or_starts_anywhere true b (plain_or_starts_dcsParam sixel header b)
  | dcsIntermediate header =>
    exact plain_or_starts_anywhere true b (plain_or_starts_dcsIntermediate sixel header b)
  | dcsIgnore => exact plain_or_starts_anywhere true b (.inl (plain_of_state rfl))

/-! ## Within an image -/

/-- What a byte does to an image that is being read: it is data or ignored, or it ends the image. -/
inductive Next.Continues (n : Next) : Prop where
  | data (b : UInt8) (state : n.state = .dcsPassthrough .image)
    (actions : n.actions = [.imageData b])
  | ignored (state : n.state = .dcsPassthrough .image) (actions : n.actions = [])
  | ended (others : List Action) (state : n.state.readsImage = false)
    (others_ofImage : ∀ action ∈ others, action.ofImage = false)
    (actions : n.actions = .imageEnd :: others)

theorem continues_transition (sixel : Bool) (b : UInt8) :
    (transition sixel b (.dcsPassthrough .image)).Continues := by
  show (dcsPassthrough .image b).Continues
  fun_cases dcsPassthrough .image b with
  | case1 => exact .ended [.execute b] rfl (List.forall_mem_singleton.2 rfl) rfl
  | case2 | case4 => exact .ended [] rfl (List.forall_mem_nil _) rfl
  | case3 => exact .data b rfl rfl
  | case5 => exact .ignored rfl rfl

/-! ## Every run -/

theorem Streamed.transition {s : State} {done : List Action} (h : Streamed s done) (sixel : Bool)
    (b : UInt8) :
    Streamed (transition sixel b s).state (done ++ (transition sixel b s).actions) := by
  cases h with
  | between hs hdone =>
    rcases plain_or_starts_transition hs sixel b with plain | ⟨state, p1, p2, p3, actions⟩
    · exact .between plain.state (hdone.append (bracketed_of_others plain.actions))
    · rw [state, actions]
      exact .within hdone p1 p2 p3 []
  | @within whole hwhole p1 p2 p3 data =>
    rw [List.append_assoc, List.cons_append]
    cases continues_transition sixel b with
    | data b state actions =>
      rw [state, actions]
      have grown := Streamed.within hwhole p1 p2 p3 (data ++ [b])
      rwa [List.map_append] at grown
    | ignored state actions =>
      rw [state, actions, List.append_nil]
      exact .within hwhole p1 p2 p3 data
    | ended others state hothers actions =>
      rw [actions]
      exact .between state (hwhole.append (.image p1 p2 p3 data (bracketed_of_others hothers)))

theorem Streamed.feed {d : Decoder} {done : List Action} (h : Streamed d.state done)
    (bytes : List UInt8) : Streamed (d.feed bytes).1.state (done ++ (d.feed bytes).2.toList) := by
  induction bytes generalizing d done with
  | nil => exact (List.append_nil done).symm ▸ h
  | cons b bytes ih =>
    have next := h.transition d.sixel b
    have state : (d.step b).1.state = (Control.transition d.sixel b d.state).state :=
      (Decoder.note_eq _ _).1
    rw [← state] at next
    rw [(Decoder.feed_cons d b bytes).1, (Decoder.feed_cons d b bytes).2, ← List.append_assoc]
    exact ih next

/-- What a decoder completes while it reads pieces of output. -/
def Decoder.completes (d : Decoder) : Pieces → List Action
  | [] => []
  | (sixel, bytes) :: pieces =>
    let fed := { d with sixel := sixel }.feed bytes
    fed.2.toList ++ fed.1.completes pieces

/-- A new decoder completes whole images, whatever it reads and whenever the reading of images is
switched. If there is one more image, of which the end is missing, then its bytes are being read. -/
theorem bracketed_completes (pieces : Pieces) :
    let state := (Decoder.afterPieces pieces).state
    ∃ whole rest, ({} : Decoder).completes pieces = whole ++ rest ∧ Bracketed whole ∧
      ((rest = [] ∧ state.readsImage = false) ∨
        (state = .dcsPassthrough .image ∧
          ∃ (p1 p2 p3 : Nat) (data : List UInt8),
            rest = .imageStart p1 p2 p3 :: data.map Action.imageData)) := by
  have run (d : Decoder) (done : List Action) (h : Streamed d.state done) :
      Streamed (pieces.foldl (fun d piece => ({ d with sixel := piece.1 }.feed piece.2).1) d).state
        (done ++ d.completes pieces) := by
    induction pieces generalizing d done with
    | nil => exact (List.append_nil done).symm ▸ h
    | cons piece pieces ih =>
      have fed := Streamed.feed (d := { d with sixel := piece.1 }) h piece.2
      have rest := ih _ _ fed
      rwa [List.append_assoc] at rest
  have streamed := run {} [] (.between rfl .nil)
  rw [List.nil_append] at streamed
  unfold Decoder.afterPieces
  generalize (pieces.foldl _ _ : Decoder).state = state at streamed ⊢
  generalize ({} : Decoder).completes pieces = done at streamed ⊢
  cases streamed with
  | between hs h => exact ⟨done, [], (List.append_nil done).symm, h, .inl ⟨rfl, hs⟩⟩
  | @within whole h p1 p2 p3 data => exact ⟨whole, _, rfl, h, .inr ⟨rfl, p1, p2, p3, data, rfl⟩⟩

/-- An image that is broken off by the start of another one ends first, and switching images off
does not end the second one. -/
example : ({} : Decoder).completes
    [(true, [0x1b, 0x50, 0x71, 0x41, 0x1b, 0x50, 0x71]), (false, [0x42, 0x1b, 0x50, 0x71, 0x43])] =
      [.imageStart 0 0 0, .imageData 0x41, .imageEnd, .imageStart 0 0 0, .imageData 0x42,
        .imageEnd] := by
  decide +kernel

end Teletype.Control
