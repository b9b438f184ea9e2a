import Teletype.Proofs.Control.Feed

/-!
# Strings are taken whole

What an operating system command, a device control request or a string that nothing reads holds
never shows on the screen. Its bytes are kept, passed over or counted as too many, and what is made
of them, if anything, is made when the string ends.
-/

namespace Teletype.Control

/-- The first bytes of those that came are in the buffer, as many as there is room for, and it is
known whether there were more. -/
structure Gathered (limit : Nat) (came : List UInt8) (data : Buffer) (excess : Bool) : Prop where
  data : data.toList = came.take limit
  excess : excess = decide (limit < came.length)

namespace Gathered

variable {limit : Nat} {came : List UInt8} {data : Buffer} {excess : Bool}

theorem empty (limit : Nat) : Gathered limit [] {} false := ⟨List.take_nil.symm, by simp⟩

theorem size (h : Gathered limit came data excess) : data.size = min limit came.length := by
  rw [← Buffer.length_toList, h.data, List.length_take]

theorem push (h : Gathered limit came data excess) (hroom : data.size < limit) (b : UInt8) :
    Gathered limit (came ++ [b]) (data.push b) excess := by
  have size := h.size
  have short : came.length < limit := by omega
  constructor
  · rw [Buffer.toList_push, h.data, List.take_of_length_le (Nat.le_of_lt short),
      List.take_of_length_le]
    rw [List.length_append, List.length_singleton]
    omega
  · rw [h.excess, List.length_append, List.length_singleton, decide_eq_decide]
    omega

theorem full (h : Gathered limit came data excess) (hroom : ¬data.size < limit) (b : UInt8) :
    Gathered limit (came ++ [b]) data true := by
  have size := h.size
  have long : limit ≤ came.length := by omega
  constructor
  · rw [h.data, List.take_append_of_le_length long]
  · rw [List.length_append, List.length_singleton, eq_comm, decide_eq_true_eq]
    omega

theorem not_room (h : Gathered limit came data excess) (hexcess : excess = true) :
    ¬data.size < limit := by
  have size := h.size
  have long : limit < came.length := of_decide_eq_true (h.excess.symm.trans hexcess)
  omega

/-- What was gathered is taken if nothing is missing. -/
theorem finish {α : Type} (h : Gathered limit came data excess) (f : List UInt8 → List α) :
    (if excess then [] else f data.toList) = if came.length ≤ limit then f came else [] := by
  rw [h.excess, h.data]
  by_cases hle : came.length ≤ limit
  · rw [decide_eq_false (Nat.not_lt.2 hle), if_neg Bool.false_ne_true, if_pos hle,
      List.take_of_length_le hle]
  · rw [decide_eq_true (Nat.not_le.1 hle), if_pos rfl, if_neg hle]

end Gathered

namespace Decoder

/-- Fed the bytes, the decoder completes the actions and comes to the state. -/
structure Runs (d : Decoder) (bytes : List UInt8) (actions : List Action) (state : State) :
    Prop where
  actions : (d.feed bytes).2.toList = actions
  state : (d.feed bytes).1.state = state

/-- Fed the bytes, the decoder completes the actions, is back in text, and holds nothing of a
request. -/
structure Takes (d : Decoder) (bytes : List UInt8) (actions : List Action) : Prop extends
    d.Runs bytes actions .ground where
  request : (d.feed bytes).1.state.requestSize = 0

variable {d : Decoder} {bytes rest : List UInt8} {actions more : List Action} {state state' : State}

theorem Runs.takes (h : d.Runs bytes actions .ground) :
    d.Takes bytes actions := ⟨h, by rw [h.state]; rfl⟩

theorem Runs.append (h : d.Runs bytes actions state)
    (hrest : (d.feed bytes).1.Runs rest more state') :
    d.Runs (bytes ++ rest) (actions ++ more) state' := by
  constructor
  · rw [feed_append, Array.toList_append, h.actions, hrest.actions]
  · rw [feed_append]
    exact hrest.state

theorem runs_byte {b : UInt8} {next : Next} (h : transition d.sixel b d.state = next) :
    d.Runs [b] next.actions next.state := by
  constructor
  · rw [(feed_cons d b []).2, step, h]
    exact List.append_nil _
  · rw [(feed_cons d b []).1, step, h]
    exact (note_eq _ _).1

/-- Only the state matters, and whether images are read. -/
theorem runs_of_state (hstate : d.state = state)
    (h : ({ state, sixel := d.sixel } : Decoder).Runs bytes actions state') :
    d.Runs bytes actions state' := by
  have same : d.state = ({ state, sixel := d.sixel } : Decoder).state := hstate
  obtain ⟨hactions, hstate'⟩ := feed_congr same rfl bytes
  exact ⟨hactions.trans h.actions, hstate'.trans h.state⟩

/-- Bytes that are read without an action, where the state holds those read so far. -/
theorem runs_held (holds : List UInt8 → State → Prop) {p read : List UInt8}
    (hstep : ∀ sixel read state, holds read state →
      ∀ b ∈ p, (transition sixel b state).actions = [] ∧
        holds (read ++ [b]) (transition sixel b state).state)
    (hd : holds read d.state) : ∃ state, d.Runs p [] state ∧ holds (read ++ p) state := by
  -- The decoder and the bytes read before are general: the rest is read from where the first byte
  -- led.
  induction p generalizing d read with
  | nil =>
    rw [List.append_nil]
    exact ⟨d.state, ⟨rfl, rfl⟩, hd⟩
  | cons b p ih =>
    obtain ⟨quiet, held⟩ := hstep d.sixel read d.state hd b List.mem_cons_self
    have first := runs_byte (d := d) (b := b) rfl
    rw [quiet] at first
    rw [← first.state] at held
    obtain ⟨last, later, all⟩ := ih (fun sixel read state h b hb => hstep sixel read state h b
      (List.mem_cons_of_mem _ hb)) held
    rw [List.append_assoc] at all
    exact ⟨last, first.append later, all⟩

end Decoder

/-! ## Within a string -/

theorem filter_concat_pos {p : UInt8 → Bool} {b : UInt8} (h : p b = true) (read : List UInt8) :
    (read ++ [b]).filter p = read.filter p ++ [b] := by
  rw [List.filter_append, List.filter_cons_of_pos h, List.filter_nil]

theorem filter_concat_neg {p : UInt8 → Bool} {b : UInt8} (h : ¬p b = true) (read : List UInt8) :
    (read ++ [b]).filter p = read.filter p := by
  rw [List.filter_append, List.filter_cons_of_neg h, List.filter_nil, List.append_nil]

/-- Of an operating system command the bytes from 0x20 on are kept. -/
def CommandHeld (read : List UInt8) (state : State) : Prop :=
  ∃ data excess, state = .oscString data excess ∧
    Gathered maxCommand (read.filter (0x20 ≤ ·)) data excess

/-- Of a request for a setting the first three bytes up to 0x7e are kept. -/
def SettingHeld (read : List UInt8) (state : State) : Prop :=
  ∃ name excess, state = .dcsPassthrough (.setting name) ∧
    Gathered maxSetting (read.filter (· ≤ 0x7e)) name excess

/-- Of a request for capabilities the bytes up to 0x7e are kept. -/
def CapabilitiesHeld (read : List UInt8) (state : State) : Prop :=
  ∃ names excess, state = .dcsPassthrough (.capabilities names excess) ∧
    Gathered maxCapabilities (read.filter (· ≤ 0x7e)) names excess

section

variable {read : List UInt8} {state : State} {b : UInt8}

/-- Other bytes neither cancel a string nor begin its end. -/
theorem not_ending (hb : b ∉ [0x18, 0x1a, 0x1b]) : ¬isCancel b = true ∧ b ≠ 0x1b := by
  simp only [List.mem_cons, List.not_mem_nil, or_false, not_or] at hb
  obtain ⟨can, sub, esc⟩ := hb
  exact ⟨by simp [isCancel, can, sub], esc⟩

theorem CommandHeld.step (h : CommandHeld read state) (hb : b ∉ [0x07, 0x18, 0x1a, 0x1b])
    (sixel : Bool) : (transition sixel b state).actions = [] ∧
      CommandHeld (read ++ [b]) (transition sixel b state).state := by
  obtain ⟨data, excess, rfl, gathered⟩ := h
  obtain ⟨bell, hrest⟩ := List.ne_and_not_mem_of_not_mem_cons hb
  obtain ⟨cancel, esc⟩ := not_ending hrest
  rw [transition, oscString, if_neg bell, if_neg cancel, if_neg esc]
  unfold CommandHeld
  split
  · rename_i low
    rw [filter_concat_neg (by simpa using low)]
    exact ⟨rfl, data, excess, rfl, gathered⟩
  · rename_i high
    rw [filter_concat_pos (by simpa using high)]
    split
    · exact ⟨rfl, _, _, rfl, gathered.push ‹_› b⟩
    · exact ⟨rfl, _, _, rfl, gathered.full ‹_› b⟩

/-- Of a device control string the bytes up to 0x7e go to its handler, and the others are passed
over. -/
theorem transition_dcs (hb : b ∉ [0x18, 0x1a, 0x1b]) (hc1 : isC1 b = false) (sixel : Bool)
    (handler : Handler) : transition sixel b (.dcsPassthrough handler) =
      if b ≤ 0x7e then handler.put b else { state := .dcsPassthrough handler } := by
  obtain ⟨cancel, esc⟩ := not_ending hb
  have low : b < 0x7f ↔ b ≤ 0x7e := by
    rw [UInt8.lt_iff_toNat_lt, UInt8.le_iff_toNat_le]
    exact Nat.lt_succ_iff
  rw [transition, dcsPassthrough, if_neg cancel, if_neg esc, hc1, if_neg Bool.false_ne_true]
  simp only [low]

theorem SettingHeld.step (h : SettingHeld read state) (hb : b ∉ [0x18, 0x1a, 0x1b])
    (hc1 : isC1 b = false) (sixel : Bool) :
    (transition sixel b state).actions = [] ∧
      SettingHeld (read ++ [b]) (transition sixel b state).state := by
  obtain ⟨name, excess, rfl, gathered⟩ := h
  rw [transition_dcs hb hc1]
  unfold SettingHeld
  split
  · rename_i low
    rw [filter_concat_pos (by simpa using low), Handler.put]
    split
    · exact ⟨rfl, _, _, rfl, gathered.push ‹_› b⟩
    · exact ⟨rfl, _, _, rfl, gathered.full ‹_› b⟩
  · rename_i high
    rw [filter_concat_neg (by simpa using high)]
    exact ⟨rfl, _, _, rfl, gathered⟩

theorem CapabilitiesHeld.step (h : CapabilitiesHeld read state) (hb : b ∉ [0x18, 0x1a, 0x1b])
    (hc1 : isC1 b = false) (sixel : Bool) :
    (transition sixel b state).actions = [] ∧
      CapabilitiesHeld (read ++ [b]) (transition sixel b state).state := by
  obtain ⟨names, excess, rfl, gathered⟩ := h
  rw [transition_dcs hb hc1]
  unfold CapabilitiesHeld
  split
  · rename_i low
    rw [filter_concat_pos (by simpa using low), Handler.put]
    split
    · rename_i already
      exact ⟨rfl, _, _, rfl, already ▸ gathered.full (gathered.not_room already) b⟩
    · split
      · rename_i already room
        rw [Bool.not_eq_true] at already
        exact ⟨rfl, _, _, rfl, already ▸ gathered.push room b⟩
      · exact ⟨rfl, _, _, rfl, gathered.full ‹_› b⟩
  · rename_i high
    rw [filter_concat_neg (by simpa using high)]
    exact ⟨rfl, _, _, rfl, gathered⟩

theorem sosPmApc_step (hb : b ∉ [0x18, 0x1a, 0x1b]) (sixel : Bool) :
    transition sixel b .sosPmApcString = { state := .sosPmApcString } := by
  obtain ⟨cancel, esc⟩ := not_ending hb
  rw [transition, sosPmApcString, if_neg cancel, if_neg esc]

end

/-! ## Whole strings -/

/-- The end of a string: BEL, or ESC and a backslash. -/
def terminator (bell : Bool) : List UInt8 := if bell then [0x07] else [0x1b, 0x5c]

namespace Decoder

variable {d : Decoder} {bytes rest : List UInt8} {actions more : List Action} {state state' : State}

/-- ESC ends the string, and the backslash is part of its end. -/
theorem runs_terminator (h : transition d.sixel 0x1b d.state = { state := .escape true, actions }) :
    d.Runs (terminator false) actions .ground := by
  have escaped := runs_byte h
  have closed : (d.feed [0x1b]).1.Runs [0x5c] [] .ground := runs_of_state escaped.state ⟨rfl, rfl⟩
  have both := escaped.append closed
  rwa [List.append_nil] at both

/-- A string is opened, its bytes are held, and its end makes the actions of them. -/
theorem takes_string (holds : List UInt8 → State → Prop) {opening p closing : List UInt8}
    {start : State} (hd : d.state = .ground)
    (hopen : ({ sixel := d.sixel } : Decoder).Runs opening [] start) (hstart : holds [] start)
    (hstep : ∀ sixel read state, holds read state →
      ∀ b ∈ p, (transition sixel b state).actions = [] ∧
      holds (read ++ [b]) (transition sixel b state).state)
    (hclose : ∀ d' : Decoder, holds p d'.state → d'.Runs closing actions .ground) :
    d.Takes (opening ++ p ++ closing) actions := by
  have opened : d.Runs opening [] start := runs_of_state hd hopen
  rw [← opened.state] at hstart
  obtain ⟨last, inner, held⟩ := runs_held holds hstep hstart
  have body := opened.append inner
  rw [List.nil_append, ← body.state] at held
  exact (body.append (hclose _ held)).takes

theorem CommandHeld.runs_close {p : List UInt8} (h : CommandHeld p d.state) (bell : Bool) :
    d.Runs (terminator bell)
      (if (p.filter (0x20 ≤ ·)).length ≤ maxCommand then [.command (p.filter (0x20 ≤ ·)) bell]
        else []) .ground := by
  obtain ⟨data, excess, hstate, gathered⟩ := h
  rw [← gathered.finish fun data => [Action.command data bell]]
  cases bell with
  | true =>
    have ended : transition d.sixel 0x07 d.state =
        { state := .ground, actions := finishCommand data excess true } := by rw [hstate]; rfl
    exact runs_byte ended
  | false => exact runs_terminator (by rw [hstate]; rfl)

/-- Strings are framed. A command ends with BEL or ESC and a backslash, the others with ESC and a
backslash only. What of the bytes between is kept is what the one action has, if there is one, and
none of them is acted on otherwise. -/
theorem takes_strings (hd : d.state = .ground) (p : List UInt8) :
    ((∀ b ∈ p, b ∉ [0x07, 0x18, 0x1a, 0x1b]) →
      ∀ bell, d.Takes ([0x1b, 0x5d] ++ p ++ terminator bell)
        (if (p.filter (0x20 ≤ ·)).length ≤ maxCommand
          then [.command (p.filter (0x20 ≤ ·)) bell] else [])) ∧
      ((∀ b ∈ p, b ∉ [0x18, 0x1a, 0x1b]) → ∀ introducer ∈ [0x58, 0x5e, 0x5f],
        d.Takes ([0x1b, introducer] ++ p ++ terminator false) []) ∧
      ((∀ b ∈ p, b ∉ [0x18, 0x1a, 0x1b] ∧ isC1 b = false) →
        d.Takes ([0x1b, 0x50, 0x24, 0x71] ++ p ++ terminator false)
            [.request (.setting ((p.filter (· ≤ 0x7e)).take maxSetting))] ∧
          d.Takes ([0x1b, 0x50, 0x2b, 0x71] ++ p ++ terminator false)
            (if (p.filter (· ≤ 0x7e)).length ≤ maxCapabilities then
              [.request (.capabilities (p.filter (· ≤ 0x7e)))] else [])) := by
  refine ⟨fun hp bell => ?_, fun hp introducer hintroducer => ?_, fun hp => ⟨?_, ?_⟩⟩
  · exact takes_string CommandHeld hd ⟨rfl, rfl⟩ ⟨{}, false, rfl, .empty _⟩
      (fun sixel read state h b hb => h.step (hp b hb) sixel)
      fun d' h => CommandHeld.runs_close h bell
  · have opened : ({ sixel := d.sixel } : Decoder).Runs [0x1b, introducer] [] .sosPmApcString := by
      simp only [List.mem_cons, List.not_mem_nil, or_false] at hintroducer
      rcases hintroducer with rfl | rfl | rfl <;> exact ⟨rfl, rfl⟩
    refine takes_string (fun _ state => state = .sosPmApcString) hd opened rfl
      (fun sixel read state h b hb => ?_) fun d' h => runs_terminator (by rw [h]; rfl)
    rw [h, sosPmApc_step (hp b hb)]
    exact ⟨rfl, rfl⟩
  · refine takes_string SettingHeld hd ⟨rfl, rfl⟩ ⟨{}, false, rfl, .empty _⟩
      (fun sixel read state h b hb => h.step (hp b hb).1 (hp b hb).2 sixel) fun d' h => ?_
    obtain ⟨name, excess, hstate, gathered⟩ := h
    rw [← gathered.data]
    exact runs_terminator (by rw [hstate]; rfl)
  · refine takes_string CapabilitiesHeld hd ⟨rfl, rfl⟩ ⟨{}, false, rfl, .empty _⟩
      (fun sixel read state h b hb => h.step (hp b hb).1 (hp b hb).2 sixel) fun d' h => ?_
    obtain ⟨names, excess, hstate, gathered⟩ := h
    rw [← gathered.finish fun names => [Action.request (.capabilities names)]]
    exact runs_terminator (by rw [hstate]; rfl)

theorem takes_strings_short :
    ({} : Decoder).Takes [0x1b, 0x5d, 0x30, 0x3b, 0x0a, 0x61, 0x07]
      [.command [0x30, 0x3b, 0x61] true] ∧
      ({} : Decoder).Takes [0x1b, 0x5d, 0x30, 0x3b, 0x0a, 0x61, 0x1b, 0x5c]
      [.command [0x30, 0x3b, 0x61] false] ∧
      ({} : Decoder).Takes [0x1b, 0x5f, 0x47, 0x07, 0x1b, 0x5c] [] ∧
      ({} : Decoder).Takes [0x1b, 0x50, 0x24, 0x71, 0x20, 0x7f, 0x72, 0x0a, 0x71, 0x1b, 0x5c]
        [.request (.setting [0x20, 0x72, 0x0a])] ∧
      ({} : Decoder).Takes [0x1b, 0x50, 0x2b, 0x71, 0x35, 0xc3, 0x34, 0x1b, 0x5c]
        [.request (.capabilities [0x35, 0x34])] :=
  ⟨(takes_strings rfl [0x30, 0x3b, 0x0a, 0x61]).1 (by simp) true,
    (takes_strings rfl [0x30, 0x3b, 0x0a, 0x61]).1 (by simp) false,
    (takes_strings rfl [0x47, 0x07]).2.1 (by simp) 0x5f (by simp),
    ((takes_strings rfl [0x20, 0x7f, 0x72, 0x0a, 0x71]).2.2 (by simp [isC1])).1,
    ((takes_strings rfl [0x35, 0xc3, 0x34]).2.2 (by simp [isC1])).2⟩

end Decoder

end Teletype.Control
