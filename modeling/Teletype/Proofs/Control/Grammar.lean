import Teletype.Proofs.Control.Parameters

/-!
# The grammar of control sequences

A control sequence is a private marker, which may be missing, parameter bytes, at most two
intermediate bytes and a final byte. The machine gives one for exactly the words of this grammar.
Control characters in between are executed and do not belong to the word, and neither do DEL and the
bytes from 0xa0 on.
-/

namespace Teletype.Control

/-- A word of the grammar. -/
structure Spelling where
  marker : Option UInt8
  part : List UInt8
  intermediates : List UInt8
  final : UInt8
  isMarker : ∀ b ∈ marker, isMarker b = true
  isParam : ∀ b ∈ part, isParam b = true
  isIntermediate : ∀ b ∈ intermediates, isIntermediate b = true
  length_le : intermediates.length ≤ maxIntermediates
  isFinal : isFinal final = true

namespace Spelling

/-- The word itself. -/
def bytes (w : Spelling) : List UInt8 := w.marker.toList ++ w.part ++ w.intermediates ++ [w.final]

/-- The control sequence that the word writes. -/
def sequence (w : Spelling) : ControlSequence where
  params := .ofPart w.part
  intermediates := w.intermediates
  marker := w.marker
  final := w.final

end Spelling

/-- A byte that neither ends nor breaks off a control sequence. -/
structure Inner (b : UInt8) : Prop where
  cancel : isCancel b = false
  escape : b ≠ 0x1b
  c1 : isC1 b = false
  final : isFinal b = false

instance (b : UInt8) : Decidable (Inner b) :=
  decidable_of_iff (isCancel b = false ∧ b ≠ 0x1b ∧ isC1 b = false ∧ isFinal b = false)
    ⟨fun ⟨cancel, escape, c1, final⟩ => ⟨cancel, escape, c1, final⟩,
      fun h => ⟨h.cancel, h.escape, h.c1, h.final⟩⟩

/-- Whether a byte within a control sequence belongs to its word. -/
def isVisible (b : UInt8) : Bool := 0x20 ≤ b && b != 0x7f && b < 0xa0

/-- The control characters among the bytes, to be executed. -/
def executed (bytes : List UInt8) : List Action := (bytes.filter (· < 0x20)).map .execute

/-! ## The rest of a word -/

namespace Header

variable {h : Header} {b : UInt8} {v : List UInt8} {s : ControlSequence}

/-- The control sequence that the final byte completes. -/
def sequence (h : Header) (final : UInt8) : ControlSequence where
  params := h.params.finish
  intermediates := h.intermediates
  marker := h.marker
  final := final

/-- From the intermediate bytes on, the rest of a word of which `h` was collected. -/
def Ends (h : Header) (v : List UInt8) (s : ControlSequence) : Prop :=
  ∃ more final, v = more ++ [final] ∧ (∀ b ∈ more, isIntermediate b = true) ∧ isFinal final = true ∧
    more.length ≤ maxIntermediates - h.intermediates.length ∧
    s = { h with intermediates := h.intermediates ++ more }.sequence final

/-- From the parameter bytes on, the rest of a word of which `h` was collected. -/
def Continues (h : Header) (v : List UInt8) (s : ControlSequence) : Prop :=
  ∃ part rest, v = part ++ rest ∧ (∀ b ∈ part, isParam b = true) ∧
    { h with params := h.params.feed part }.Ends rest s

theorem ends_final (hb : isFinal b = true) : h.Ends [b] s ↔ h.sequence b = s := by
  constructor
  · rintro ⟨more, final, hv, -, -, -, rfl⟩
    obtain ⟨rfl, same⟩ := (List.singleton_eq_append_iff.1 hv).resolve_right (by simp)
    rw [← List.singleton_inj.1 same, List.append_nil]
  · rintro rfl
    refine ⟨[], b, rfl, List.forall_mem_nil _, hb, Nat.zero_le _, ?_⟩
    rw [List.append_nil]

/-- One more intermediate byte belongs to the word if there is room for it. -/
theorem ends_cons (hb : isFinal b = false) :
    h.Ends (b :: v) s ↔ isIntermediate b = true ∧ h.intermediates.length < maxIntermediates ∧
      { h with intermediates := h.intermediates ++ [b] }.Ends v s := by
  constructor
  · rintro ⟨more, final, hv, hmore, hfinal, hroom, rfl⟩
    cases more with
    | nil =>
      obtain ⟨rfl, -⟩ : b = final ∧ v = [] := by simpa using hv
      rw [hb] at hfinal
      exact Bool.noConfusion hfinal
    | cons c more =>
      obtain ⟨rfl, rfl⟩ : b = c ∧ v = more ++ [final] := by simpa using hv
      rw [List.forall_mem_cons] at hmore
      rw [List.length_cons] at hroom
      refine ⟨hmore.1, by omega, more, final, rfl, hmore.2, hfinal, ?_, ?_⟩
      · rw [List.length_append, List.length_singleton]
        omega
      · rw [List.append_assoc]
        rfl
  · rintro ⟨hinter, hroom, more, final, rfl, hmore, hfinal, hlength, rfl⟩
    rw [List.length_append, List.length_singleton] at hlength
    refine ⟨b :: more, final, rfl, List.forall_mem_cons.2 ⟨hinter, hmore⟩, hfinal, ?_, ?_⟩
    · rw [List.length_cons]
      omega
    · rw [List.append_assoc]
      rfl

/-- A parameter byte belongs to the parameters. -/
theorem continues_param (hb : isParam b = true) (hfinal : isFinal b = false)
    (hinter : isIntermediate b = false) :
    h.Continues (b :: v) s ↔ { h with params := (h.params.push b).1 }.Continues v s := by
  constructor
  · rintro ⟨part, rest, hv, hpart, hends⟩
    cases part with
    | nil =>
      rw [List.nil_append] at hv
      rw [← hv, ends_cons hfinal, hinter] at hends
      exact Bool.noConfusion hends.1
    | cons c part =>
      obtain ⟨rfl, rfl⟩ : b = c ∧ v = part ++ rest := by simpa using hv
      exact ⟨part, rest, rfl, (List.forall_mem_cons.1 hpart).2, hends⟩
  · rintro ⟨part, rest, rfl, hpart, hends⟩
    exact ⟨b :: part, rest, rfl, List.forall_mem_cons.2 ⟨hb, hpart⟩, hends⟩

/-- Any other byte begins what follows the parameters. -/
theorem continues_other (hb : isParam b = false) : h.Continues (b :: v) s ↔ h.Ends (b :: v) s := by
  constructor
  · rintro ⟨part, rest, hv, hpart, hends⟩
    cases part with
    | nil =>
      rw [List.nil_append] at hv
      rw [hv]
      exact hends
    | cons c part =>
      obtain ⟨rfl, -⟩ : b = c ∧ v = part ++ rest := by simpa using hv
      rw [(List.forall_mem_cons.1 hpart).1] at hb
      exact Bool.noConfusion hb
  · intro hends
    exact ⟨[], b :: v, rfl, List.forall_mem_nil _, hends⟩

end Header

/-- The bytes `v` are a word, and the control sequence that it writes. -/
def Spells (v : List UInt8) (s : ControlSequence) : Prop :=
  ∃ w : Spelling, w.bytes = v ∧ w.sequence = s

section

variable {b : UInt8} {v : List UInt8} {s : ControlSequence}

/-- A word is what may follow a header in which nothing but a marker was collected. -/
theorem spells_iff : Spells v s ↔ ∃ marker : Option UInt8, ∃ rest, v = marker.toList ++ rest ∧
    (∀ b ∈ marker, isMarker b = true) ∧ ({ marker } : Header).Continues rest s := by
  constructor
  · rintro ⟨w, rfl, rfl⟩
    refine ⟨w.marker, w.part ++ (w.intermediates ++ [w.final]), by simp [Spelling.bytes],
      w.isMarker, w.part, w.intermediates ++ [w.final], rfl, w.isParam, w.intermediates, w.final,
      rfl, w.isIntermediate,
      w.isFinal, w.length_le, ?_⟩
    simp [Spelling.sequence, Header.sequence, Params.Builder.finish_feed_part _ w.isParam]
  · rintro ⟨marker, rest, rfl, hmarker, part, tail, rfl, hpart, more, final, rfl, hmore,
      hfinal, hroom, rfl⟩
    refine ⟨⟨marker, part, more, final, hmarker, hpart, hmore, hroom, hfinal⟩, by
      simp [Spelling.bytes], ?_⟩
    simp [Spelling.sequence, Header.sequence, Params.Builder.finish_feed_part _ hpart]

theorem spells_marker (hb : isMarker b = true) (hparam : isParam b = false)
    (hinter : isIntermediate b = false) (hfinal : isFinal b = false) :
    Spells (b :: v) s ↔ ({ marker := some b } : Header).Continues v s := by
  rw [spells_iff]
  constructor
  · rintro ⟨marker, rest, hv, hmarker, hrest⟩
    cases marker with
    | none =>
      rw [Option.toList_none, List.nil_append] at hv
      rw [← hv, Header.continues_other hparam, Header.ends_cons hfinal, hinter] at hrest
      exact Bool.noConfusion hrest.1
    | some c =>
      obtain ⟨rfl, rfl⟩ : b = c ∧ v = rest := by simpa using hv
      exact hrest
  · intro hrest
    exact ⟨some b, v, rfl, by simpa using hb, hrest⟩

theorem spells_other (hb : isMarker b = false) :
    Spells (b :: v) s ↔ ({} : Header).Continues (b :: v) s := by
  rw [spells_iff]
  constructor
  · rintro ⟨marker, rest, hv, hmarker, hrest⟩
    cases marker with
    | none =>
      rw [Option.toList_none, List.nil_append] at hv
      rw [hv]
      exact hrest
    | some c =>
      obtain ⟨rfl, -⟩ : b = c ∧ v = rest := by simpa using hv
      rw [hmarker b rfl] at hb
      exact Bool.noConfusion hb
  · intro hrest
    exact ⟨none, b :: v, rfl, by simp, hrest⟩

end

/-! ## The machine -/

/-- The states within a control sequence. -/
inductive State.InSequence : State → Prop
  | entry : InSequence .csiEntry
  | param (h : Header) : InSequence (.csiParam h)
  | intermediate (h : Header) : InSequence (.csiIntermediate h)
  | ignore : InSequence .csiIgnore

/-- The words that may still follow in a state, and what they complete. -/
def State.Reads : State → List UInt8 → ControlSequence → Prop
  | .csiEntry => Spells
  | .csiParam h => h.Continues
  | .csiIntermediate h => h.Ends
  | _ => fun _ _ => False

section

variable {b : UInt8} {st : State}

theorem Inner.anywhere (h : Inner b) (closing : Bool) (rest : Next) :
    anywhere closing b rest = rest :=
  anywhere_eq h.cancel h.escape h.c1 closing rest

/-- A byte that does not belong to the word is none of the grammar's bytes. -/
theorem Inner.hidden (h : Inner b) (hb : isVisible b = false) (hlow : ¬b < 0x20) :
    isIntermediate b = false ∧ isParam b = false ∧ isMarker b = false := by
  have final := h.final
  simp [isVisible, isIntermediate, isParam, isMarker, isFinal, UInt8.le_iff_toNat_le,
    UInt8.lt_iff_toNat_lt, ← UInt8.toNat_inj] at hb hlow final ⊢
  omega

/-- A byte that belongs to the word before its end is of one of three kinds. -/
theorem Inner.visible (h : Inner b) (hb : isVisible b = true) : ¬b < 0x20 ∧
    (isIntermediate b = true ∧ isParam b = false ∧ isMarker b = false ∨
      isIntermediate b = false ∧ isParam b = true ∧ isMarker b = false ∨
      isIntermediate b = false ∧ isParam b = false ∧ isMarker b = true) := by
  have final := h.final
  have c1 := h.c1
  simp [isVisible, isIntermediate, isParam, isMarker, isFinal, isC1, UInt8.le_iff_toNat_le,
    UInt8.lt_iff_toNat_lt, ← UInt8.toNat_inj] at hb final c1 ⊢
  omega

/-- A byte that does not belong to the word leaves the state. A control character is executed. -/
theorem transition_hidden (hst : st.InSequence) (hb : Inner b) (hv : isVisible b = false)
    (sixel : Bool) : transition sixel b st = { state := st, actions := executed [b] } := by
  by_cases hlow : b < 0x20
  · have run : executed [b] = [.execute b] := by simp [executed, hlow]
    cases hst <;>
      simp only [transition, hb.anywhere, csiEntry, csiParam, csiIntermediate, csiIgnore,
        if_pos hlow, run]
  · obtain ⟨hinter, hparam, hmarker⟩ := hb.hidden hv hlow
    have run : executed [b] = [] := by simp [executed, hlow]
    cases hst <;>
      simp [transition, hb.anywhere, csiEntry, csiParam, csiIntermediate, csiIgnore, hlow,
        hinter, hparam, hmarker, hb.final, run]

/-- A byte of the word completes nothing, and what `reads` takes after it is what the next state
takes. -/
structure Next.Follows (next : Next) (reads : List UInt8 → ControlSequence → Prop) (b : UInt8) :
    Prop where
  inSequence : next.state.InSequence
  quiet : next.actions = []
  reads : ∀ v s, reads (b :: v) s ↔ next.state.Reads v s

/-- A byte that breaks the grammar leads to a state that completes nothing. -/
theorem follows_ignore {next : Next} (hstate : next.state = .csiIgnore) (quiet : next.actions = [])
    {reads : List UInt8 → ControlSequence → Prop} (h : ∀ v s, ¬reads (b :: v) s) :
    next.Follows reads b where
  inSequence := hstate ▸ .ignore
  quiet := quiet
  reads := fun v s => by
    rw [hstate]
    exact iff_of_false (h v s) id

theorem Next.Follows.congr {next : Next} {reads reads' : List UInt8 → ControlSequence → Prop}
    (h : next.Follows reads b) (same : ∀ v s, reads' (b :: v) s ↔ reads (b :: v) s) :
    next.Follows reads' b where
  inSequence := h.inSequence
  quiet := h.quiet
  reads := fun v s => (same v s).trans (h.reads v s)

variable {h : Header}

theorem collect_follows (hinter : isIntermediate b = true) (hfinal : isFinal b = false) :
    (collect h b .csiIntermediate .csiIgnore).Follows h.Ends b := by
  unfold collect
  split
  · rename_i hroom
    refine ⟨.intermediate _, rfl, fun v s => ?_⟩
    rw [Header.ends_cons hfinal, and_iff_right hinter, and_iff_right hroom]
    rfl
  · rename_i hfull
    refine follows_ignore rfl rfl fun v s hends => ?_
    rw [Header.ends_cons hfinal] at hends
    exact hfull hends.2.1

theorem param_follows (hparam : isParam b = true) (hinter : isIntermediate b = false)
    (hfinal : isFinal b = false) : (param h b .csiParam).Follows h.Continues b where
  inSequence := .param _
  quiet := rfl
  reads := fun _ _ => Header.continues_param hparam hfinal hinter

/-- After the header only its kinds of bytes belong to the word. -/
theorem not_ends (hinter : isIntermediate b = false) (hfinal : isFinal b = false) (v : List UInt8)
    (s : ControlSequence) : ¬h.Ends (b :: v) s := by
  rw [Header.ends_cons hfinal, hinter]
  exact fun hends => Bool.noConfusion hends.1

theorem csiIntermediate_follows (hb : Inner b) (hv : isVisible b = true) :
    (csiIntermediate h b).Follows h.Ends b := by
  obtain ⟨hlow, kinds⟩ := hb.visible hv
  rw [csiIntermediate, if_neg hlow]
  rcases kinds with
    ⟨hinter, hparam, hmarker⟩ | ⟨hinter, hparam, hmarker⟩ | ⟨hinter, hparam, hmarker⟩
  · rw [if_pos hinter]
    exact collect_follows hinter hb.final
  · rw [hinter, hparam]
    exact follows_ignore rfl rfl (not_ends hinter hb.final)
  · rw [hinter, hparam, hmarker]
    exact follows_ignore rfl rfl (not_ends hinter hb.final)

theorem csiParam_follows (hb : Inner b) (hv : isVisible b = true) :
    (csiParam h b).Follows h.Continues b := by
  obtain ⟨hlow, kinds⟩ := hb.visible hv
  rw [csiParam, if_neg hlow]
  rcases kinds with
    ⟨hinter, hparam, hmarker⟩ | ⟨hinter, hparam, hmarker⟩ | ⟨hinter, hparam, hmarker⟩
  · rw [hparam, hmarker, hinter]
    exact (collect_follows hinter hb.final).congr fun v s => Header.continues_other hparam
  · rw [if_pos hparam]
    exact param_follows hparam hinter hb.final
  · rw [hparam, hmarker]
    refine follows_ignore rfl rfl fun v s => ?_
    rw [Header.continues_other hparam]
    exact not_ends hinter hb.final v s

theorem csiEntry_follows (hb : Inner b) (hv : isVisible b = true) :
    (csiEntry b).Follows Spells b := by
  obtain ⟨hlow, kinds⟩ := hb.visible hv
  rw [csiEntry, if_neg hlow]
  rcases kinds with
    ⟨hinter, hparam, hmarker⟩ | ⟨hinter, hparam, hmarker⟩ | ⟨hinter, hparam, hmarker⟩
  · rw [if_pos hinter]
    refine (collect_follows hinter hb.final).congr fun v s => ?_
    rw [spells_other hmarker, Header.continues_other hparam]
  · rw [hinter, hparam]
    exact (param_follows hparam hinter hb.final).congr fun v s => spells_other hmarker
  · rw [hinter, hparam, hmarker]
    exact ⟨.param _, rfl, fun v s => spells_marker hmarker hparam hinter hb.final⟩

theorem csiIgnore_follows (hb : Inner b) (hv : isVisible b = true) :
    (csiIgnore b).Follows (fun _ _ => False) b := by
  rw [csiIgnore, if_neg (hb.visible hv).1, hb.final]
  exact follows_ignore rfl rfl fun _ _ => id

/-- A byte of a word leads from a state within a control sequence to one that reads the rest of the
word. -/
theorem transition_visible (hst : st.InSequence) (hb : Inner b) (hv : isVisible b = true)
    (sixel : Bool) : (transition sixel b st).Follows st.Reads b := by
  cases hst with
  | entry =>
    rw [transition, hb.anywhere]
    exact csiEntry_follows hb hv
  | param h =>
    rw [transition, hb.anywhere]
    exact csiParam_follows hb hv
  | intermediate h =>
    rw [transition, hb.anywhere]
    exact csiIntermediate_follows hb hv
  | ignore =>
    rw [transition, hb.anywhere]
    exact csiIgnore_follows hb hv

theorem isFinal_apart (hb : isFinal b = true) :
    isCancel b = false ∧ b ≠ 0x1b ∧ isC1 b = false ∧ ¬b < 0x20 ∧ isIntermediate b = false ∧
      isParam b = false ∧ isMarker b = false := by
  simp [isIntermediate, isParam, isMarker, isFinal, isC1, isCancel, UInt8.le_iff_toNat_le,
    UInt8.lt_iff_toNat_lt, ← UInt8.toNat_inj] at hb ⊢
  omega

theorem isVisible_of_isFinal (hb : isFinal b = true) : isVisible b = true := by
  simp [isVisible, isFinal, UInt8.le_iff_toNat_le, UInt8.lt_iff_toNat_lt, ← UInt8.toNat_inj] at hb ⊢
  omega

/-- The final byte completes the control sequence, if there is one. -/
theorem transition_final (hst : st.InSequence) (hb : isFinal b = true) (sixel : Bool) :
    (transition sixel b st).state = .ground ∧
      ∃ emitted : Option ControlSequence, (transition sixel b st).actions =
        (emitted.map .control).toList ∧ ∀ s, emitted = some s ↔ st.Reads [b] s := by
  obtain ⟨cancel, escape, c1, hlow, hinter, hparam, hmarker⟩ := isFinal_apart hb
  have through := anywhere_eq cancel escape c1 false
  cases hst with
  | entry =>
    rw [transition, through, csiEntry, if_neg hlow, hinter, hparam, hmarker, hb]
    refine ⟨rfl, some (Header.sequence {} b), rfl, fun s => ?_⟩
    show _ ↔ Spells [b] s
    rw [spells_other hmarker, Header.continues_other hparam, Header.ends_final hb, Option.some_inj]
  | param h =>
    rw [transition, through, csiParam, if_neg hlow, hinter, hparam, hmarker, hb]
    refine ⟨rfl, some (h.sequence b), rfl, fun s => ?_⟩
    show _ ↔ h.Continues [b] s
    rw [Header.continues_other hparam, Header.ends_final hb, Option.some_inj]
  | intermediate h =>
    rw [transition, through, csiIntermediate, if_neg hlow, hinter, hparam, hmarker, hb]
    refine ⟨rfl, some (h.sequence b), rfl, fun s => ?_⟩
    show _ ↔ h.Ends [b] s
    rw [Header.ends_final hb, Option.some_inj]
  | ignore =>
    rw [transition, through, csiIgnore, if_neg hlow, hb]
    exact ⟨rfl, none, rfl, fun s => iff_of_false (Option.some_ne_none s).symm id⟩

end

/-! ## The run -/

namespace Decoder

variable {d : Decoder} {body : List UInt8} {final : UInt8}

/-- A byte before the final one keeps a decoder within the control sequence. -/
theorem step_inner (hd : d.state.InSequence) {b : UInt8} (hb : Inner b) :
    (d.step b).1.state.InSequence ∧ (d.step b).2 = executed [b] ∧
      ∀ v s, d.state.Reads ([b].filter isVisible ++ v) s ↔ (d.step b).1.state.Reads v s := by
  have state : (d.step b).1.state = (transition d.sixel b d.state).state := (note_eq _ _).1
  have actions : (d.step b).2 = (transition d.sixel b d.state).actions := rfl
  rw [state, actions]
  cases hv : isVisible b with
  | false =>
    rw [transition_hidden hd hb hv d.sixel, List.filter_singleton, hv]
    exact ⟨hd, rfl, fun v s => Iff.rfl⟩
  | true =>
    obtain ⟨inside, quiet, reads⟩ := transition_visible hd hb hv d.sixel
    have run : executed [b] = [] := by simp [executed, (hb.visible hv).1]
    rw [List.filter_singleton, hv, run]
    exact ⟨inside, quiet, reads⟩

/-- Before the final byte the control characters are executed, and of the word there is left what
the state reads. -/
theorem feed_inner (hd : d.state.InSequence) (hbody : ∀ b ∈ body, Inner b) :
    (d.feed body).1.state.InSequence ∧ (d.feed body).2.toList = executed body ∧
      ∀ v s, d.state.Reads (body.filter isVisible ++ v) s ↔ (d.feed body).1.state.Reads v s := by
  induction body generalizing d with
  | nil => exact ⟨hd, rfl, fun v s => Iff.rfl⟩
  | cons b body ih =>
    rw [List.forall_mem_cons] at hbody
    obtain ⟨inside, first, reads⟩ := step_inner hd hbody.1
    obtain ⟨last, rest, still⟩ := ih inside hbody.2
    have run : executed (b :: body) = executed [b] ++ executed body := by
      rw [executed, executed, executed, ← List.map_append, ← List.filter_append,
        List.singleton_append]
    rw [(feed_cons d b body).1, (feed_cons d b body).2, first, rest, run]
    refine ⟨last, rfl, fun v s => ?_⟩
    rw [← still, ← reads, ← List.append_assoc, ← List.filter_append, List.singleton_append]

/-- Up to its final byte a control sequence executes the control characters in it and does nothing
else. The final byte returns to the ground state and completes exactly the control sequence that the
other bytes write, if they are a word of the grammar. -/
theorem feed_control (hd : d.state = .ground) (hbody : ∀ b ∈ body, Inner b)
    (hfinal : isFinal final = true) : (d.feed ([0x1b, 0x5b] ++ body)).2.toList = executed body ∧
      (d.feed ([0x1b, 0x5b] ++ body)).1.state.InSequence ∧
      (d.feed ([0x1b, 0x5b] ++ body ++ [final])).1.state = .ground ∧
      ∃ emitted : Option ControlSequence,
        (d.feed ([0x1b, 0x5b] ++ body ++ [final])).2.toList =
          executed body ++ (emitted.map .control).toList ∧
        ∀ s, emitted = some s ↔ ∃ w : Spelling, w.bytes = (body ++ [final]).filter isVisible ∧
          w.sequence = s := by
  obtain ⟨entered, silent⟩ := feed_introducer hd
  have inside : (d.feed [0x1b, 0x5b]).1.state.InSequence := by
    rw [entered]
    exact .entry
  obtain ⟨inside, quiet, reads⟩ := feed_inner inside hbody
  have upTo : (d.feed ([0x1b, 0x5b] ++ body)).2.toList = executed body := by
    rw [feed_append, Array.toList_append, silent, quiet]
    rfl
  have here : (d.feed ([0x1b, 0x5b] ++ body)).1 = ((d.feed [0x1b, 0x5b]).1.feed body).1 := by
    rw [feed_append]
  rw [here]
  generalize hlast : ((d.feed [0x1b, 0x5b]).1.feed body).1 = last at inside here reads
  obtain ⟨ground, emitted, completed, spells⟩ := transition_final inside hfinal last.sixel
  refine ⟨upTo, inside, ?_, emitted, ?_, fun s => ?_⟩
  · rw [feed_append, here, (feed_cons last final []).1]
    exact ((note_eq _ _).1).trans ground
  · rw [feed_append, Array.toList_append, upTo, here, (feed_cons last final []).2]
    exact congrArg _ ((List.append_nil _).trans completed)
  · have shown : isVisible final = true := isVisible_of_isFinal hfinal
    rw [spells, ← reads, entered, List.filter_append, List.filter_singleton, shown]
    rfl

/-- A line feed, a DEL and a byte beyond ASCII within `CSI ? 7 0 0 0 0 ; ; 1 : 2 $ p`. -/
theorem feed_control_interleaved :
    (({} : Decoder).feed
      ([0x1b, 0x5b] ++ [0x3f, 0x37, 0x30, 0x0a, 0x30, 0x30, 0x30, 0x3b, 0x7f, 0x3b, 0x31, 0x3a,
        0x32, 0xe9, 0x24] ++ [0x70])).2.toList =
          [.execute 0x0a, .control ⟨⟨[⟨65535, false, []⟩, ⟨0, true, []⟩, ⟨1, false, [2]⟩], true⟩,
            [0x24], some 0x3f, 0x70⟩] := by
  have inner :
      ∀ b ∈ ([0x3f, 0x37, 0x30, 0x0a, 0x30, 0x30, 0x30, 0x3b, 0x7f, 0x3b, 0x31, 0x3a, 0x32, 0xe9,
        0x24] : List UInt8), Inner b := by
    decide +kernel
  have final : isFinal 0x70 = true := rfl
  obtain ⟨-, -, -, emitted, actions, spells⟩ := feed_control (d := {}) rfl inner final
  have word : emitted =
      some ⟨⟨[⟨65535, false, []⟩, ⟨0, true, []⟩, ⟨1, false, [2]⟩], true⟩, [0x24],
        some 0x3f, 0x70⟩ := by
    rw [spells]
    exact ⟨⟨some 0x3f, [0x37, 0x30, 0x30, 0x30, 0x30, 0x3b, 0x3b, 0x31, 0x3a, 0x32], [0x24], 0x70,
      by decide +kernel, by decide +kernel, by decide +kernel, by decide, rfl⟩, rfl, by decide⟩
  rw [actions, word]
  rfl

end Decoder

end Teletype.Control
