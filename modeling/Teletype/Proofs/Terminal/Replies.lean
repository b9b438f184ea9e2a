import Teletype.Proofs.Reply.Framing
import Teletype.Proofs.Terminal.AspectsRun

/-!
# What output makes a terminal answer

Printing, moving and editing queue nothing. Questions queue replies of the right form, except that a
reply about a capability repeats the name as it was sent, whatever bytes it has.
-/

namespace Teletype

/-- What the replies to an action repeat of it. -/
def Control.Action.echo : Control.Action → List UInt8
  | .request (.capabilities names) => names
  | _ => []

namespace Terminal

variable {t : Terminal}

/-! ## Answers of the right form -/

/-- The replies that were queued on the way from one terminal to another. -/
def Queued (t t' : Terminal) (replies : List Reply) : Prop :=
  t'.replies.toList = t.replies.toList ++ replies.flatMap Reply.encode

/-- Only replies of the right form were queued. -/
def Answered (t t' : Terminal) : Prop :=
  ∃ replies, Queued t t' replies ∧ ∀ r ∈ replies, Framed r.encode

theorem queued_nil {t' : Terminal} (h : t'.replies = t.replies) : Queued t t' [] := by
  simp [Queued, h]

theorem queued_reply (t : Terminal) (r : Reply) : Queued t (t.reply r) [r] := by
  simp [Queued, reply]

theorem Queued.trans {t' t'' : Terminal} {l l' : List Reply} (h : Queued t t' l)
    (h' : Queued t' t'' l') : Queued t t'' (l ++ l') := by
  unfold Queued at *
  rw [h', h, List.append_assoc, List.flatMap_append]

theorem Answered.quiet {t' : Terminal} (h : t'.replies = t.replies) : Answered t t' :=
  ⟨[], queued_nil h, by simp⟩

/-- What does not alter the replies queues none. -/
theorem Answered.of_alters {t' : Terminal} {aspects : List Aspect} (h : t.Alters aspects t')
    (hquiet : aspects.contains .replies = false) : Answered t t' := .quiet (h.kept .replies hquiet)

theorem Answered.reply {r : Reply} (h : Framed r.encode) : Answered t (t.reply r) :=
  ⟨[r], queued_reply t r, by simpa using h⟩

theorem Answered.trans {t' t'' : Terminal} (h : Answered t t') (h' : Answered t' t'') :
    Answered t t'' := by
  obtain ⟨l, hl, hf⟩ := h
  obtain ⟨l', hl', hf'⟩ := h'
  exact ⟨l ++ l', hl.trans hl', List.forall_mem_append.2 ⟨hf, hf'⟩⟩

theorem Answered.ite {p : Prop} [Decidable p] {a b : Terminal} (ha : Answered t a)
    (hb : Answered t b) : Answered t (if p then a else b) := by
  split
  · exact ha
  · exact hb

/-- A reply that repeats nothing of the question. -/
theorem Answered.fixed {r : Reply} (h : r.echo = []) : Answered t (t.reply r) :=
  .reply ((Reply.framed_encode_iff r).2 (by simp [h]))

theorem answered_status (what : Nat) : Answered t (t.answerStatus what) := by
  unfold answerStatus
  split
  · exact .fixed rfl
  · exact .fixed rfl
  · exact .quiet rfl

theorem answered_windowOperation (op arg : Nat) : Answered t (t.windowOperation op arg) := by
  have ignored : Answered t (t.ignoreWindowOperation op) := .ite (.quiet rfl) (.quiet rfl)
  unfold windowOperation
  dsimp only
  split
  · exact .fixed rfl
  · exact .ite (.fixed rfl) ignored
  · exact .fixed rfl
  · exact .fixed rfl
  · exact .fixed rfl
  · exact .fixed rfl
  · exact .fixed rfl
  · exact .ite (.quiet rfl) ignored
  · exact .ite (.of_alters t.alters_popTitle rfl) ignored
  · exact ignored

theorem answered_colorCommand (item : ColorItem) (payload : List UInt8) (terminator : Terminator) :
    Answered t (t.colorCommand item payload terminator) := by
  unfold colorCommand
  refine .ite (.fixed rfl) ?_
  split
  · exact .of_alters (t.alters_setColor ..) rfl
  · exact .quiet rfl
  · exact .quiet rfl

theorem answered_paletteCommand (terminator : Terminator) (t : Terminal) :
    ∀ items : List (List UInt8), Answered t (paletteCommand terminator t items)
  | [] => .quiet rfl
  | [_] => .quiet rfl
  | index :: payload :: rest => by
    rw [paletteCommand]
    cases number? index with
    | none => exact .quiet rfl
    | some i =>
      refine .ite (.quiet rfl) ?_
      exact (answered_colorCommand ..).trans (answered_paletteCommand terminator _ rest)

/-- A question about the clipboard is answered with one of the names of clipboards. -/
theorem plain_target (names : List UInt8) :
    Plain ((clipboardTargets names).headD 'c').toString := by
  have known : Plain "cpqs01234567" := by decide
  have targets : ∀ c ∈ clipboardTargets names, 0x20 ≤ c.toNat ∧ c.toNat ≤ 0x7e := by
    unfold clipboardTargets
    dsimp only
    split
    · intro c hc
      rw [List.mem_singleton.1 hc]
      decide
    · intro c hc
      exact known c (by simpa using (List.mem_filter.1 hc).2)
  have target : 0x20 ≤ ((clipboardTargets names).headD 'c').toNat ∧
      ((clipboardTargets names).headD 'c').toNat ≤ 0x7e := by
    cases hnames : clipboardTargets names with
    | nil => decide
    | cons c l => exact targets c (by simp [hnames])
  simpa [Plain] using target

theorem answered_clipboardCommand (payload : List UInt8) (terminator : Terminator) :
    Answered t (t.clipboardCommand payload terminator) := by
  unfold clipboardCommand
  split
  · exact .quiet rfl
  · rename_i names _ _
    refine .ite (.reply ?_) ?_
    · exact (Reply.framed_encode_iff _).2 (plain_target names).printable
    · split
      · exact .quiet rfl
      · exact .quiet rfl

theorem answered_operate (data : List UInt8) (bell : Bool) : Answered t (t.operate data bell) := by
  unfold operate
  generalize (Text.cutAt? 0x3b data).getD (data, []) = parts
  dsimp only
  split
  · exact .quiet rfl
  · split
    · exact .of_alters (t.alters_setTitle _) rfl
    · exact .of_alters (t.alters_setTitle _) rfl
    · exact .quiet rfl
    · exact .quiet rfl
    · exact answered_paletteCommand ..
    · exact .of_alters (t.alters_directoryCommand _) rfl
    · exact .of_alters (t.alters_linkCommand _) rfl
    · exact .quiet rfl
    · exact answered_colorCommand ..
    · exact answered_colorCommand ..
    · exact answered_colorCommand ..
    · exact .quiet rfl
    · exact answered_clipboardCommand ..
    · exact .of_alters (t.alters_partCommand _) rfl
    · exact .of_alters (t.alters_resetPalette _) rfl
    · exact .quiet rfl
    · exact .quiet rfl
    · exact .quiet rfl
    · exact .of_alters (t.alters_promptCommand _) rfl
    · exact .quiet rfl
    · exact .of_alters (t.alters_notifyCommand _) rfl
    · exact .quiet rfl

/-- What a control function asks for is answered in the right form. -/
theorem answered_run (now : Instant) (command : Command) : Answered t (t.run now command) := by
  cases command with
  | windowOperation op arg => exact answered_windowOperation op arg
  | askStatus what => exact answered_status what
  | askPrimaryAttributes | askSecondaryAttributes | askTertiaryAttributes | askVersion
  | askPrivatePosition | askDecMode | askAnsiMode => exact .fixed rfl
  | _ => exact .of_alters (t.alters_run now _) rfl

/-! ## Names of capabilities -/

theorem forall_splitAfter {α : Type} [DecidableEq α] {P : α → Prop} {separator : α}
    (hs : P separator) (done : List (List α)) (part items : List α) :
    (∀ piece ∈ Text.splitAfter separator done part items, ∀ a ∈ piece, P a) ↔
      (∀ piece ∈ done, ∀ a ∈ piece, P a) ∧ (∀ a ∈ part, P a) ∧ ∀ a ∈ items, P a := by
  induction items generalizing done part with
  | nil => simp [Text.splitAfter, or_imp, forall_and, and_comm]
  | cons a rest ih =>
    unfold Text.splitAfter
    split
    · rename_i ha
      rw [ih]
      simp [ha, hs, or_imp, forall_and, and_assoc, and_comm]
    · rw [ih]
      simp [and_assoc, and_comm, and_left_comm]

/-- The parts between separators have the same members as the whole, but for the separators. -/
theorem forall_splitAt {α : Type} [DecidableEq α] {P : α → Prop} (separator : α)
    (hs : P separator) (items : List α) :
    (∀ piece ∈ Text.splitAt separator items, ∀ a ∈ piece, P a) ↔ ∀ a ∈ items, P a := by
  unfold Text.splitAt
  simpa using forall_splitAfter hs [] [] items

theorem queued_give (t : Terminal) (r : Reported Reply) : Queued t (t.give r) [r.value] :=
  queued_reply t r.value

theorem queued_foldl_give (l : List (Reported Reply)) (t : Terminal) :
    Queued t (l.foldl give t) (l.map Reported.value) := by
  induction l generalizing t with
  | nil => exact queued_nil rfl
  | cons r l ih => exact (queued_give t r).trans (ih (t.give r))

theorem echo_capabilityAnswer (terminalName : String) (name : List UInt8) :
    (capabilityAnswer terminalName name).value.echo = name := by
  unfold capabilityAnswer
  split <;> rfl

/-- The replies to a request for capabilities have the right form exactly if the request is
printable. -/
theorem framed_capabilityAnswers_iff (terminalName : String) (names : List UInt8) :
    (∀ r ∈ (capabilityAnswers terminalName names).map Reported.value, Framed r.encode) ↔
      ∀ b ∈ names, Printable b := by
  rw [← forall_splitAt 0x3b (by decide) names]
  simp only [capabilityAnswers, List.map_map, List.forall_mem_map, Function.comp_apply,
    Reply.framed_encode_iff, echo_capabilityAnswer]

/-! ## Runs -/

/-- What one action queues has the right form exactly if what is repeated of it is printable. -/
theorem queued_act (now : Instant) (action : Control.Action) :
    ∃ replies, Queued t (act now t action) replies ∧
      ((∀ r ∈ replies, Framed r.encode) ↔ ∀ b ∈ action.echo, Printable b) := by
  have answered {t' : Terminal} (h : Answered t t') (he : action.echo = []) :
      ∃ replies, Queued t t' replies ∧
        ((∀ r ∈ replies, Framed r.encode) ↔ ∀ b ∈ action.echo, Printable b) := by
    obtain ⟨replies, hq, hf⟩ := h
    exact ⟨replies, hq, iff_of_true hf (by simp [he])⟩
  cases action with
  | print c => exact answered (.quiet rfl) rfl
  | execute byte => exact answered (answered_run now _) rfl
  | escape s => exact answered (answered_run now _) rfl
  | control s => exact answered (answered_run now _) rfl
  | command data bell => exact answered (answered_operate data bell) rfl
  | imageStart | imageData | imageEnd => exact answered (.quiet rfl) rfl
  | request r =>
    cases r with
    | setting name =>
      have fixed : ((t.settings).answer name).value.echo = [] := by
        unfold Settings.answer
        split <;> rfl
      exact answered ((Answered.fixed fixed).trans (.quiet rfl)) rfl
    | capabilities names =>
      exact ⟨_, queued_foldl_give _ t, framed_capabilityAnswers_iff _ names⟩
    | beginSync => exact answered (.quiet rfl) rfl
    | endSync => exact answered (.quiet rfl) rfl

theorem queued_perform (now : Instant) (action : Control.Action) :
    ∃ replies, Queued t (perform now t action) replies ∧
      ((∀ r ∈ replies, Framed r.encode) ↔ ∀ b ∈ action.echo, Printable b) := by
  unfold perform
  split
  · exact ⟨[], queued_nil ((t.alters_print _).kept .replies rfl), by simp [Control.Action.echo]⟩
  · obtain ⟨replies, hq, hf⟩ := queued_act (t := { t with composeAt := none }) now action
    exact ⟨replies, hq, hf⟩

theorem queued_foldl_perform (now : Instant) (actions : List Control.Action) :
    ∃ replies, Queued t (actions.foldl (perform now) t) replies ∧
      ((∀ r ∈ replies, Framed r.encode) ↔ ∀ action ∈ actions, ∀ b ∈ action.echo, Printable b) := by
  induction actions generalizing t with
  | nil => exact ⟨[], queued_nil rfl, by simp⟩
  | cons action actions ih =>
    obtain ⟨first, hq, hf⟩ := queued_perform (t := t) now action
    obtain ⟨rest, hq', hf'⟩ := ih (t := perform now t action)
    refine ⟨first ++ rest, hq.trans hq', ?_⟩
    rw [List.forall_mem_append, List.forall_mem_cons, hf, hf']

theorem replies_feed (t : Terminal) (bytes : List UInt8) (now : Instant) :
    (t.feed bytes now).replies =
      ((t.decoder.feed bytes).2.toList.foldl (perform now) (t.reading bytes)).replies := by
  rw [feed_eq]
  dsimp only
  split <;> rfl

/-- Output queues replies. All of them have the right form exactly if every request for capabilities
that the output completes is printable. -/
theorem feed_framed_iff (t : Terminal) (bytes : List UInt8) (now : Instant) :
    ∃ replies, Queued t (t.feed bytes now) replies ∧
      ((∀ r ∈ replies, Framed r.encode) ↔
        ∀ action ∈ (t.decoder.feed bytes).2, ∀ b ∈ action.echo, Printable b) := by
  obtain ⟨replies, hq, hf⟩ := queued_foldl_perform (t := t.reading bytes) now
    (t.decoder.feed bytes).2.toList
  refine ⟨replies, ?_, hf.trans (by simp)⟩
  unfold Queued at *
  rw [replies_feed, hq]
  rfl

/-- Output that is one request for capabilities queues the answers to it. -/
theorem queued_capabilities {bytes names : List UInt8}
    (h : (t.decoder.feed bytes).2 = #[.request (.capabilities names)]) (now : Instant) :
    Queued t (t.feed bytes now) ((capabilityAnswers t.config.term names).map Reported.value) := by
  have queued := queued_foldl_give (capabilityAnswers t.config.term names)
    { t.reading bytes with composeAt := none }
  unfold Queued at *
  rw [replies_feed, h]
  exact queued

/-- A carriage return in the name of a capability comes back with the reply that the capability is
not known. -/
theorem feed_unframed :
    ((Terminal.new {}).feed [0x1b, 0x50, 0x2b, 0x71, 0x0d, 0x1b, 0x5c] 0).replies.toList =
        [0x1b, 0x50, 0x30, 0x2b, 0x72, 0x0d, 0x1b, 0x5c] ∧
      ¬ Printable 0x0d ∧
      ¬ Framed [0x1b, 0x50, 0x30, 0x2b, 0x72, 0x0d, 0x1b, 0x5c] := by
  have request : (({} : Control.Decoder).feed [0x1b, 0x50, 0x2b, 0x71, 0x0d, 0x1b, 0x5c]).2 =
      #[.request (.capabilities [0x0d])] := by decide
  have answers (name : String) : (capabilityAnswers name [0x0d]).map Reported.value =
      [.capability [0x0d] none name] := rfl
  have encoded (name : String) : (Reply.capability [0x0d] none name).encode =
      [0x1b, 0x50, 0x30, 0x2b, 0x72, 0x0d, 0x1b, 0x5c] := by
    rfl
  refine ⟨?_, by decide, fun h => ?_⟩
  · have queued := queued_capabilities (t := Terminal.new {}) request 0
    unfold Queued at queued
    rw [answers, List.flatMap_singleton, encoded] at queued
    exact queued
  · have inner := (framed_device_iff [0x30, 0x2b, 0x72, 0x0d]).1 h
    exact absurd (inner 0x0d (by decide)) (by decide)

end Terminal

end Teletype
