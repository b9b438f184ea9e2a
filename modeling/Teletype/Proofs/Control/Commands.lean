import Teletype.Proofs.Control.Strings

/-!
# Operating system commands one after another

What an operating system command is sent as completes the command and leaves the decoder between
sequences, with no report, so that commands can be sent one after another.
-/

namespace Teletype.Control

/-- Bytes that carry the content of an operating system command: none of them ends it, those below
0x20 are passed over, and there is room for the rest. -/
structure Carries (sent content : List UInt8) : Prop where
  inner : ∀ b ∈ sent, b ∉ [0x07, 0x18, 0x1a, 0x1b]
  kept : sent.filter (0x20 ≤ ·) = content
  room : content.length ≤ maxCommand

/-- An operating system command as it is sent. -/
def operatingCommand (sent : List UInt8) (bell : Bool) : List UInt8 :=
  0x1b :: 0x5d :: (sent ++ terminator bell)

namespace Carries

variable {sent content : List UInt8}

theorem of_printable (h : ∀ b ∈ content, 0x20 ≤ b) (hroom : content.length ≤ maxCommand) :
    Carries content content where
  inner b hb hending := by
    have low : ∀ b ∈ ([0x07, 0x18, 0x1a, 0x1b] : List UInt8), ¬0x20 ≤ b := by decide +kernel
    exact low b hending (h b hb)
  kept := List.filter_eq_self.2 fun b hb => decide_eq_true (h b hb)
  room := hroom

theorem printable (h : Carries sent content) : ∀ b ∈ content, 0x20 ≤ b := by
  intro b hb
  rw [← h.kept, List.mem_filter] at hb
  exact of_decide_eq_true hb.2

end Carries

namespace Decoder

variable {d d' d'' : Decoder} {bytes rest sent content : List UInt8} {actions more : List Action}
    {b : UInt8}

/-- Fed the bytes, the decoder completes the actions and becomes another one. -/
structure Becomes (d : Decoder) (bytes : List UInt8) (actions : List Action) (d' : Decoder) :
    Prop where
  decoder : (d.feed bytes).1 = d'
  actions : (d.feed bytes).2.toList = actions

theorem Becomes.append (h : d.Becomes bytes actions d') (hrest : d'.Becomes rest more d'') :
    d.Becomes (bytes ++ rest) (actions ++ more) d'' := by
  constructor
  · rw [feed_append, h.decoder]
    exact hrest.decoder
  · rw [feed_append, Array.toList_append, h.decoder, h.actions, hrest.actions]

theorem becomes_nil (d : Decoder) : d.Becomes [] [] d := ⟨rfl, rfl⟩

theorem becomes_step (d : Decoder) (b : UInt8) : d.Becomes [b] (d.step b).2 (d.step b).1 := by
  obtain ⟨decoder, actions⟩ := feed_cons d b []
  exact ⟨decoder, actions.trans (List.append_nil _)⟩

/-- A byte that is worth no report. -/
theorem becomes_quiet {next : Next} (h : transition d.sixel b d.state = next)
    (hquiet : next.notice = none) : d.Becomes [b] next.actions { d with state := next.state } := by
  have step : d.step b = ({ d with state := next.state }, next.actions) := by
    rw [Decoder.step, h, hquiet]
    rfl
  have becomes := d.becomes_step b
  rwa [step] at becomes

/-- The bytes of a command are kept while there is room. -/
theorem becomes_held {data : Buffer} (hd : d.state = .oscString data false)
    (hsent : ∀ b ∈ sent, b ∉ [0x07, 0x18, 0x1a, 0x1b])
    (hroom : data.size + (sent.filter (0x20 ≤ ·)).length ≤ maxCommand) :
    ∃ held : Buffer, held.toList = data.toList ++ sent.filter (0x20 ≤ ·) ∧
      d.Becomes sent [] { d with state := .oscString held false } := by
  induction sent generalizing d data with
  | nil => exact ⟨data, (List.append_nil _).symm, hd ▸ d.becomes_nil⟩
  | cons b sent ih =>
    rw [List.forall_mem_cons] at hsent
    obtain ⟨bell, hrest⟩ := List.ne_and_not_mem_of_not_mem_cons hsent.1
    obtain ⟨cancel, esc⟩ := not_ending hrest
    have next : transition d.sixel b d.state =
        if b < 0x20 then { state := .oscString data false }
        else if data.size < maxCommand then { state := .oscString (data.push b) false }
        else { state := .oscString data true, notice := some .longCommand } := by
      rw [hd, transition, oscString, if_neg bell, if_neg cancel, if_neg esc]
    by_cases low : b < 0x20
    · rw [if_pos low] at next
      have skipped : (b :: sent).filter (0x20 ≤ ·) = sent.filter (0x20 ≤ ·) :=
        List.filter_cons_of_neg (by simpa using low)
      rw [skipped] at hroom ⊢
      obtain ⟨held, hheld, becomes⟩ :=
        ih (d := { d with state := .oscString data false }) rfl hsent.2 hroom
      exact ⟨held, hheld, (becomes_quiet next rfl).append becomes⟩
    · have kept : (b :: sent).filter (0x20 ≤ ·) = b :: sent.filter (0x20 ≤ ·) :=
        List.filter_cons_of_pos (by simpa using low)
      rw [kept, List.length_cons] at hroom
      have room : data.size + 1 + (sent.filter (0x20 ≤ ·)).length ≤ maxCommand := by omega
      rw [if_neg low, if_pos (show data.size < maxCommand by omega)] at next
      obtain ⟨held, hheld, becomes⟩ :=
        ih (d := { d with state := .oscString (data.push b) false }) rfl hsent.2 room
      refine ⟨held, ?_, (becomes_quiet next rfl).append becomes⟩
      rw [hheld, Buffer.toList_push, kept, List.append_assoc]
      rfl

theorem becomes_terminator {data : Buffer} (hd : d.state = .oscString data false) (bell : Bool) :
    d.Becomes (terminator bell) [.command data.toList bell] { d with state := .ground } := by
  cases bell with
  | true =>
    have ends : transition d.sixel 0x07 d.state =
        { state := .ground, actions := [.command data.toList true] } := by
      rw [hd]
      rfl
    exact becomes_quiet ends rfl
  | false =>
    have escapes : transition d.sixel 0x1b d.state =
        { state := .escape true, actions := [.command data.toList false] } := by
      rw [hd]
      rfl
    have ends : transition d.sixel 0x5c (.escape true) = { state := .ground } := rfl
    have escaped := becomes_quiet escapes rfl
    exact escaped.append (becomes_quiet (d := { d with state := .escape true }) ends rfl)

/-- After ESC a command is read to its end. -/
theorem becomes_command {closing : Bool} (hd : d.state = .escape closing) (h : Carries sent content)
    (bell : Bool) :
    d.Becomes (0x5d :: (sent ++ terminator bell)) [.command content bell]
      { d with state := .ground } := by
  have opens : transition d.sixel 0x5d d.state = { state := .oscString {} false } := by
    rw [hd]
    cases closing <;> rfl
  have opened : d.Becomes [0x5d] [] { d with state := .oscString {} false } :=
    becomes_quiet opens rfl
  have room : ({} : Buffer).size + (sent.filter (0x20 ≤ ·)).length ≤ maxCommand := by
    rw [h.kept]
    exact Nat.le_trans (Nat.le_of_eq (Nat.zero_add _)) h.room
  obtain ⟨held, hheld, inner⟩ :=
    becomes_held (d := { d with state := .oscString {} false }) rfl h.inner room
  have content_eq : held.toList = content := hheld.trans h.kept
  rw [← content_eq]
  exact opened.append
    (inner.append (becomes_terminator (d := { d with state := .oscString held false }) rfl bell))

/-- Between sequences commands are read one after another. -/
theorem becomes_commands (hd : d.state = .ground) {contents : List (List UInt8)}
    (h : ∀ content ∈ contents, Carries content content) (bell : Bool) :
    d.Becomes (contents.flatMap (operatingCommand · bell)) (contents.map (.command · bell)) d := by
  induction contents with
  | nil => exact d.becomes_nil
  | cons content contents ih =>
    rw [List.forall_mem_cons] at h
    have escapes : transition d.sixel 0x1b d.state = { state := .escape false } := by
      rw [hd]
      rfl
    have escaped : d.Becomes [0x1b] [] { d with state := .escape false } :=
      becomes_quiet escapes rfl
    have read :
        d.Becomes (operatingCommand content bell) [.command content bell]
        { d with state := .ground } :=
      escaped.append (becomes_command (d := { d with state := .escape false }) rfl h.1 bell)
    rw [← hd] at read
    exact read.append (ih h.2)

end Decoder

end Teletype.Control
