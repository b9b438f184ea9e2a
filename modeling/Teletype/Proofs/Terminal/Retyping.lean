import Teletype.Proofs.Control.Completions
import Teletype.Proofs.Terminal.LastColumn
import Teletype.Proofs.Terminal.Sequences
import Teletype.Proofs.Terminal.Typing

/-!
# Repeating is typing again

To repeat the last character neither its character set is asked nor whether it joins the cell
before. Both come to the same for a character of ASCII that stands in a cell of its own, so that
repeating it and typing it again lead to the same terminal.
-/

namespace Teletype

open Text.Utf8 (encode)

/-! ## What is read -/

namespace Control.Decoder

variable {d : Decoder} {header : Header} {b : UInt8} {bytes : List UInt8}

theorem param_digit (h : 0x30 ≤ b.toNat ∧ b.toNat ≤ 0x39) (header : Header)
    (next : Header → State) :
    param header b next = { state := next { header with params := (header.params.push b).1 } } := by
  have digit : (0x30 ≤ b && b ≤ 0x39) = true := by
    simp only [Bool.and_eq_true, decide_eq_true_eq, UInt8.le_iff_toNat_le]
    exact h
  unfold param Params.Builder.push
  rw [if_pos digit]
  rfl

theorem isParam_of_digit (h : 0x30 ≤ b.toNat ∧ b.toNat ≤ 0x39) : isParam b = true := by
  simp only [isParam, Bool.and_eq_true, decide_eq_true_eq, UInt8.le_iff_toNat_le]
  exact ⟨h.1, Nat.le_trans h.2 (by decide)⟩

/-- Digits are worth no report. -/
theorem becomes_digits (hd : d.state = .csiParam header)
    (h : ∀ b ∈ bytes, 0x30 ≤ b.toNat ∧ b.toNat ≤ 0x39) :
    d.Becomes bytes []
      { d with state := .csiParam { header with params := header.params.feed bytes } } := by
  induction bytes generalizing d header with
  | nil =>
    have same :
        { d with state := .csiParam { header with params := header.params.feed [] } } = d := by
      show { d with state := .csiParam header } = d
      rw [← hd]
    rw [same]
    exact d.becomes_nil
  | cons b bytes ih =>
    rw [List.forall_mem_cons] at h
    have isParam := isParam_of_digit h.1
    have next : transition d.sixel b d.state =
        { state := .csiParam { header with params := (header.params.push b).1 } } := by
      rw [hd, transition, anywhere_of_isParam isParam, csiParam, if_neg (not_lt_of_isParam isParam),
        if_pos isParam, param_digit h.1]
    exact (becomes_quiet next rfl).append (ih (d := { d with state := _ }) rfl h.2)

theorem becomes_first_digit (hd : d.state = .csiEntry) (h : 0x30 ≤ b.toNat ∧ b.toNat ≤ 0x39) :
    d.Becomes [b] []
      { d with state := .csiParam { params := (({} : Params.Builder).push b).1 } } := by
  have isParam := isParam_of_digit h
  have apart : isIntermediate b = false := by
    simp [isIntermediate, UInt8.le_iff_toNat_le]
    omega
  have next : transition d.sixel b d.state =
      { state := .csiParam { params := (({} : Params.Builder).push b).1 } } := by
    rw [hd, transition, anywhere_of_isParam isParam, csiEntry,
      if_neg (not_lt_of_isParam isParam), apart, if_neg Bool.false_ne_true, if_pos isParam,
      param_digit h]
  exact becomes_quiet next rfl

theorem becomes_final (hd : d.state = .csiParam header) (hfinal : isFinal b = true) :
    d.Becomes [b] (dispatchControl header b).actions { d with state := .ground } := by
  obtain ⟨cancel, escape, c1, low, inter, param, marker⟩ := isFinal_apart hfinal
  have next : transition d.sixel b d.state = dispatchControl header b := by
    rw [hd, transition, anywhere_eq cancel escape c1, csiParam, if_neg low, param, marker,
      inter, hfinal]
    rfl
  exact becomes_quiet next rfl

/-- A control sequence with one number leaves the decoder as it was. -/
theorem becomes_counted (hd : d.state = .ground) {n : Nat} (hn : n ≤ Params.maxValue)
    {final : UInt8} (hfinal : isFinal final = true) :
    d.Becomes (encode "\x1b[" ++ encode (toString n) ++ [final])
      [.control ⟨{ items := [{ value := n }] }, [], none, final⟩] d := by
  have escapes : transition d.sixel 0x1b d.state = { state := .escape false } := by
    rw [hd]
    rfl
  have opens : transition d.sixel 0x5b (.escape false) = { state := .csiEntry } := rfl
  have introduced : d.Becomes (encode "\x1b[") [] { d with state := .csiEntry } :=
    (becomes_quiet escapes rfl).append
      (becomes_quiet (d := { d with state := .escape false }) opens rfl)
  have digits := (Params.digits_numeral n).1
  have params :=
    Params.Builder.finish_feed (Params.Builder.writesAll_value rfl hn) (List.cons_ne_nil _ _)
      (by simp [Params.maxCount])
  rw [Params.numeral] at digits
  rw [Params.Builder.listed_singleton] at params
  obtain ⟨b, rest, hbytes⟩ := List.exists_cons_of_ne_nil (Params.Builder.numeral_ne_nil n)
  rw [hbytes, List.forall_mem_cons] at digits
  rw [hbytes] at params ⊢
  have number := (becomes_first_digit (d := { d with state := .csiEntry }) rfl digits.1).append
    (becomes_digits (d := { d with state := _ }) rfl digits.2)
  have whole :=
    (introduced.append number).append (becomes_final (d := { d with state := _ }) rfl hfinal)
  have same : ({ d with state := .ground } : Decoder) = d := by rw [← hd]
  rw [← params]
  rw [same] at whole
  exact whole

end Control.Decoder

/-! ## Printing -/

/-- The character sets after a single shift was used up. -/
def Charsets.unshifted (s : Charsets) : Charsets := { s with singleShift := none }

/-- The next character and those after it go through ASCII, also with a single shift. -/
def Charsets.Ascii (s : Charsets) : Prop :=
  s.sets.get (s.singleShift.getD s.selected) = .ascii ∧ s.sets.get s.selected = .ascii

/-- Characters go through ASCII as they are. -/
theorem Charsets.Ascii.translate {s : Charsets} (h : s.Ascii) (c : Char) :
    s.translate c = (s.unshifted, c) := by
  unfold Charsets.translate
  dsimp only
  rw [h.1]
  rfl

namespace Terminal

variable {t : Terminal} {c p : Char} {b : UInt8} {cols rows n : Nat}

theorem lastPrinted_modifyGrid (t : Terminal) (f : Grid → Grid) :
    (t.modifyGrid f).lastPrinted = t.lastPrinted := by
  unfold modifyGrid
  split <;> rfl

theorem decoder_modifyGrid (t : Terminal) (f : Grid → Grid) :
    (t.modifyGrid f).decoder = t.decoder := by
  unfold modifyGrid
  split <;> rfl

/-- The terminal with other character sets. -/
def invoking (t : Terminal) (s : Charsets) : Terminal := { t with charsets := s }

/-- The terminal with other character sets, and another place kept of the character printed last. -/
def aside (t : Terminal) (s : Charsets) (place : Option (Nat × Nat)) : Terminal :=
  { t.invoking s with composeAt := place }

theorem invoking_invoking (t : Terminal) (s s' : Charsets) :
    (t.invoking s).invoking s' = t.invoking s' := rfl

theorem cursor_aside (t : Terminal) (s : Charsets) (place : Option (Nat × Nat)) :
    (t.aside s place).cursor = t.cursor := rfl

theorem aside_modifyGrid (t : Terminal) (s : Charsets) (place : Option (Nat × Nat))
    (f : Grid → Grid) : (t.aside s place).modifyGrid f = (t.modifyGrid f).aside s place := by
  unfold modifyGrid aside invoking
  dsimp only
  split <;> rfl

theorem aside_lineFeed (t : Terminal) (s : Charsets) (place : Option (Nat × Nat)) :
    (t.aside s place).lineFeed = t.lineFeed.aside s place := by
  unfold lineFeed
  exact aside_modifyGrid ..

theorem aside_wrapLine (t : Terminal) (s : Charsets) (place : Option (Nat × Nat)) :
    (t.aside s place).wrapLine = t.wrapLine.aside s place := by
  unfold wrapLine
  dsimp only
  rw [aside_modifyGrid, aside_lineFeed, cursor_aside, cursor_aside]
  exact aside_modifyGrid ..

theorem aside_makeRoom (t : Terminal) (s : Charsets) (place : Option (Nat × Nat)) (width : Nat) :
    (t.aside s place).makeRoom width =
      ((t.makeRoom width).1.aside s place, (t.makeRoom width).2) := by
  have cols (u : Terminal) : (u.aside s place).grid.cols = u.grid.cols := rfl
  have modes : (t.aside s place).modes = t.modes := rfl
  have wrapped : (if t.cursor.pendingWrap && t.modes.dec.autowrap then (t.aside s place).wrapLine
      else t.aside s place) =
      (if t.cursor.pendingWrap && t.modes.dec.autowrap then t.wrapLine else t).aside s place := by
    rw [aside_wrapLine]
    split <;> rfl
  unfold makeRoom
  dsimp only
  rw [cursor_aside, modes, wrapped, cursor_aside, cols, aside_wrapLine]
  generalize (if t.cursor.pendingWrap && t.modes.dec.autowrap then t.wrapLine else t) = t'
  split
  · split <;> rfl
  · rfl

/-- Neither the character sets nor where the last character stands has a part in where the next one
goes. -/
theorem aside_printGlyph (t : Terminal) (s : Charsets) (place : Option (Nat × Nat)) (c : Char) :
    (t.aside s place).printGlyph c 1 = (t.printGlyph c 1).invoking s := by
  have placed (u : Terminal) (col : Nat) :
      (u.aside s place).placeGlyph c 1 col = (u.placeGlyph c 1 col).aside s place := by
    unfold placeGlyph
    exact aside_modifyGrid ..
  unfold printGlyph
  rw [aside_makeRoom]
  dsimp only
  rw [if_neg (by simp), if_neg (by simp), placed]
  rfl

theorem invoking_printGlyph (t : Terminal) (s : Charsets) (c : Char) :
    (t.invoking s).printGlyph c 1 =
      (t.printGlyph c 1).invoking s := aside_printGlyph t s t.composeAt c

theorem aside_repeat (t : Terminal) (s : Charsets) (place : Option (Nat × Nat)) (c : Char)
    (n : Nat) : Nat.repeat (printGlyph · c 1) (n + 1) (t.aside s place) =
      (Nat.repeat (printGlyph · c 1) (n + 1) t).invoking s := by
  induction n with
  | zero => exact aside_printGlyph t s place c
  | succ n ih => exact (congrArg (printGlyph · c 1) ih).trans (invoking_printGlyph _ s c)

/-- A glyph of one column is found at the place that is kept of it. -/
theorem Valid.cell?_printGlyph (h : t.Valid cols rows) (c : Char) :
    ∀ place ∈ (t.printGlyph c 1).composeAt, ∃ cell,
      (t.printGlyph c 1).grid.cell? place.1 place.2 = some cell ∧ cell.key = c.toNat := by
  unfold Terminal.printGlyph
  rw [if_neg (by simp)]
  have narrow : 1 = 2 → 2 ≤ cols := nofun
  obtain ⟨inside, -⟩ := h.makeRoom_fits (by decide) narrow
  have made := h.makeRoom 1
  generalize t.makeRoom 1 = r at inside made ⊢
  obtain ⟨u, col⟩ := r
  intro place hplace
  obtain rfl := Option.some.inj hplace
  obtain ⟨written, -⟩ := made.placed c inside (.inl rfl)
  exact ⟨_, written, rfl⟩

/-! ### Characters in cells of their own -/

/-- The action writes `c` into a cell of its own: a character that is printed as `c` and does not
join the one before it, or `c` again as it was printed last. -/
def Writes (t : Terminal) (c : Char) : Control.Action → Prop
  | .print p => (t.charsets.translate p).2 = c ∧
      ∀ place ∈ t.composeAt, t.attaches place.1 place.2 c (Text.displayWidth c) = false
  | .control s => t.lastPrinted = some c ∧ ∃ n, Command.ofSequence s = .repeatLast (n + 1)
  | _ => False

theorem Writes.print (h : t.Writes c (.print p)) (hwidth : Text.displayWidth c = 1) :
    t.print p = (t.invoking (t.charsets.translate p).1).printGlyph c 1 := by
  obtain ⟨rfl, apart⟩ := h
  unfold Terminal.print
  dsimp only
  split
  · rename_i joined
    split at joined
    · rename_i row col hat
      have alone : (t.invoking (t.charsets.translate p).1).attaches row col
          (t.charsets.translate p).2 (Text.displayWidth (t.charsets.translate p).2) =
          false := apart (row, col) hat
      rw [if_neg (alone ▸ Bool.false_ne_true)] at joined
      cases joined
    · cases joined
  · rw [hwidth, if_neg Nat.one_ne_zero]
    rfl

theorem Writes.whole {action : Control.Action} (h : t.Writes c action) : action.Whole := by
  cases action with
  | print | control => trivial
  | _ => exact h.elim

/-- A control sequence that repeats prints one glyph after the other. -/
theorem perform_repeats (hlast : t.lastPrinted = some c) (hwidth : Text.displayWidth c = 1)
    {s : Control.ControlSequence} (hs : Command.ofSequence s = .repeatLast n) (now : Instant) :
    perform now t (.control s) = Nat.repeat (printGlyph · c 1) n (t.aside t.charsets none) := by
  show (t.aside t.charsets none).run now (Command.ofSequence s) = _
  have last : (t.aside t.charsets none).lastPrinted = some c := hlast
  rw [hs]
  show (t.aside t.charsets none).repeatLast n = _
  unfold repeatLast
  rw [last]
  dsimp only
  rw [hwidth, if_neg Nat.one_ne_zero]

/-- The character was printed last, and the next one of ASCII does not join it. -/
structure Poised (t : Terminal) (c : Char) : Prop where
  last : t.lastPrinted = some c
  ascii : ∀ place ∈ t.composeAt, ∀ cell, t.grid.cell? place.1 place.2 = some cell → cell.key < 0x80

theorem poised_of_none (hlast : t.lastPrinted = some c) (hat : t.composeAt = none) : t.Poised c :=
  ⟨hlast, fun place hplace => absurd (hat ▸ hplace) (Option.not_mem_none place)⟩

theorem ascii_letterChar (hb : Printable b) : (letterChar b).toNat < 0x80 := by
  rw [toNat_letterChar hb]
  exact Nat.lt_of_le_of_lt (printable_iff.1 hb).2 (by decide)

/-- A character of ASCII that is printed in a cell of its own is ready to be repeated. -/
theorem Valid.poised_printGlyph (h : t.Valid cols rows) (hb : Printable b) :
    (t.printGlyph (letterChar b) 1).Poised (letterChar b) where
  last := by
    unfold Terminal.printGlyph
    rw [if_neg (by simp)]
  ascii := by
    intro place hplace cell hcell
    obtain ⟨cell', hcell', hkey⟩ := h.cell?_printGlyph (letterChar b) place hplace
    obtain rfl := Option.some.inj (hcell.symm.trans hcell')
    rw [hkey]
    exact ascii_letterChar hb

theorem Valid.repeat_printGlyph (h : t.Valid cols rows) (c : Char) (n : Nat) :
    (Nat.repeat (Terminal.printGlyph · c 1) n t).Valid cols rows := by
  induction n with
  | zero => exact h
  | succ n ih => exact ih.printGlyph c 1

theorem Writes.poised {action : Control.Action} (h : t.Writes (letterChar b) action)
    (hv : t.Valid cols rows) (hb : Printable b) (now : Instant) :
    (perform now t action).Poised (letterChar b) := by
  cases action with
  | print p =>
    show (t.print p).Poised (letterChar b)
    rw [h.print (displayWidth_letterChar hb)]
    exact Valid.poised_printGlyph (hv.of_eq rfl rfl rfl rfl) hb
  | control s =>
    obtain ⟨last, n, hs⟩ := h
    rw [perform_repeats last (displayWidth_letterChar hb) hs]
    have before : (t.aside t.charsets none).Valid cols rows := hv.of_eq rfl rfl rfl rfl
    exact (before.repeat_printGlyph (letterChar b) n).poised_printGlyph hb
  | _ => exact h.elim

/-! ### Again and again -/

/-- The character is printed again in a cell of its own. -/
theorem Poised.print (h : t.Poised (letterChar b)) (hb : Printable b) (hascii : t.charsets.Ascii) :
    t.print (letterChar b) = (t.printGlyph (letterChar b) 1).invoking t.charsets.unshifted := by
  have plain := hascii.translate (letterChar b)
  have writes : t.Writes (letterChar b) (.print (letterChar b)) := by
    constructor
    · rw [plain]
    · intro place hplace
      unfold Terminal.attaches
      cases hcell : t.grid.cell? place.1 place.2 with
      | none => rfl
      | some cell =>
        have small := h.ascii place hplace cell hcell
        simp [displayWidth_letterChar hb, ascii_letterChar hb, small]
  rw [writes.print (displayWidth_letterChar hb), plain]
  exact invoking_printGlyph ..

/-- To type the character is to print one glyph after the other. The first one uses a single shift
up. -/
theorem Poised.foldl_print (h : t.Poised (letterChar b)) (hv : t.Valid cols rows) (hb : Printable b)
    (hascii : t.charsets.Ascii) (now : Instant) (n : Nat) :
    (List.replicate (n + 1) (Control.Action.print (letterChar b))).foldl (perform now) t =
      (Nat.repeat (printGlyph · (letterChar b) 1) (n + 1) t).invoking t.charsets.unshifted := by
  induction n with
  | zero => exact h.print hb hascii
  | succ n ih =>
    have printed := (hv.repeat_printGlyph (letterChar b) n).poised_printGlyph hb
    have again :
        ((Nat.repeat (printGlyph · (letterChar b) 1) (n + 1) t).invoking
          t.charsets.unshifted).Poised (letterChar b) := ⟨printed.last, printed.ascii⟩
    rw [List.replicate_succ', List.foldl_append, ih, List.foldl_cons, List.foldl_nil]
    refine (again.print hb ⟨hascii.2, hascii.2⟩).trans ?_
    rw [invoking_printGlyph, invoking_invoking]
    rfl

/-- A control sequence that asks to repeat the last character. -/
def repetition (n : Nat) : Control.ControlSequence :=
  { params := { items := [{ value := n }] }, intermediates := [], marker := none, final := 0x62 }

theorem ofSequence_repetition (n : Nat) :
    Command.ofSequence (repetition (n + 1)) = .repeatLast (n + 1) := rfl

/-- To repeat the character is to print the same glyphs. -/
theorem Poised.perform_repetition (h : t.Poised (letterChar b)) (hb : Printable b) (now : Instant)
    (n : Nat) : perform now t (.control (repetition (n + 1))) =
      (Nat.repeat (printGlyph · (letterChar b) 1) (n + 1) t).invoking t.charsets :=
  (perform_repeats h.last (displayWidth_letterChar hb) (ofSequence_repetition n) now).trans
  (aside_repeat ..)

/-! ## What happens in between -/

theorem Poised.modifyGrid (h : t.Poised c) {f : Grid → Grid}
    (hcell : ∀ g row col, (f g).cell? row col = Grid.cell? g row col) :
    (t.modifyGrid f).Poised c where
  last := (lastPrinted_modifyGrid t f).trans h.last
  ascii := by
    intro place hplace cell
    rw [composeAt_modifyGrid] at hplace
    rw [grid_modifyGrid, hcell]
    exact h.ascii place hplace cell

/-- The host feeds nothing, or output that does nothing and leaves no sequence open. -/
def Idle (t : Terminal) : HostAction → Prop
  | .feed bytes _ => (t.decoder.feed bytes).2 = #[] ∧ (t.decoder.feed bytes).1.state = .ground
  | _ => True

/-- The decoder of a terminal that was fed is the one that read. -/
theorem state_feed (t : Terminal) (bytes : List UInt8) (now : Instant) :
    (t.feed bytes now).decoder.state = (t.decoder.feed bytes).1.state := by
  rw [(t.twin_feed bytes [] now).decoder]
  rfl

/-- A change of the size makes the next character stand alone, and nothing else has to do with
it. -/
theorem Poised.apply (h : t.Poised c) {action : HostAction} (hidle : t.Idle action) :
    (action.apply t).Poised c := by
  cases action with
  | feed bytes now =>
    have quiet : (t.decoder.feed bytes).2.toList = [] := congrArg Array.toList hidle.1
    show (t.feed bytes now).Poised c
    rw [feed_eq, quiet]
    dsimp only [List.foldl_nil]
    split
    · exact ⟨h.last, h.ascii⟩
    · exact ⟨h.last, h.ascii⟩
  | resize cols rows =>
    show (t.resize cols rows).Poised c
    unfold Terminal.resize
    dsimp only
    split
    · exact h
    · exact poised_of_none ((lastPrinted_modifyGrid ..).trans h.last) (composeAt_modifyGrid ..)
  | viewUp n => exact h.modifyGrid fun g => g.cell?_viewUp n
  | viewDown n => exact h.modifyGrid fun g => g.cell?_viewDown n
  | viewToBottom => exact h.modifyGrid Grid.cell?_viewToBottom
  | previousPrompt => exact h.modifyGrid Grid.cell?_previousPrompt
  | nextPrompt => exact h.modifyGrid Grid.cell?_nextPrompt
  | clearDirty => exact h.modifyGrid Grid.cell?_clearDirty
  | poll | requestImmediate | setClipboard | startImages | takeReplies | takeEvents | takeReports
  | takeImages =>
    exact ⟨h.last, h.ascii⟩

theorem ground_apply (h : t.decoder.state = .ground) {action : HostAction} (hidle : t.Idle action) :
    (action.apply t).decoder.state = .ground := by
  cases action with
  | feed bytes now => exact (t.state_feed bytes now).trans hidle.2
  | resize cols rows =>
    show (t.resize cols rows).decoder.state = .ground
    unfold Terminal.resize
    dsimp only
    split
    · exact h
    · exact (congrArg Control.Decoder.state (decoder_modifyGrid ..)).trans h
  | viewUp | viewDown | viewToBottom | previousPrompt | nextPrompt | clearDirty =>
    exact (congrArg Control.Decoder.state (decoder_modifyGrid ..)).trans h
  | poll | requestImmediate | setClipboard | startImages | takeReplies | takeEvents | takeReports
  | takeImages =>
    exact h

/-- The last byte of the output completes an action that writes `c` into a cell of its own. -/
def EndsWith (t : Terminal) (bytes : List UInt8) (now : Instant) (c : Char) : Prop :=
  ∃ init last action, bytes = init ++ [last] ∧ ((t.decoder.feed init).1.step last).2 = [action] ∧
    ((t.decoder.feed init).2.toList.foldl (perform now) (t.reading bytes)).Writes c action

theorem EndsWith.poised {bytes : List UInt8} {now : Instant}
    (h : t.EndsWith bytes now (letterChar b)) (hv : t.Valid cols rows) (hb : Printable b) :
    (t.feed bytes now).Poised (letterChar b) ∧ (t.feed bytes now).decoder.state = .ground := by
  obtain ⟨init, last, action, rfl, completed, writes⟩ := h
  have decoder : (t.decoder.feed (init ++ [last])).1 = ((t.decoder.feed init).1.step last).1 := by
    rw [Control.Decoder.feed_append]
    exact (Control.Decoder.feed_cons _ last []).1
  have actions :
      (t.decoder.feed (init ++ [last])).2.toList = (t.decoder.feed init).2.toList ++ [action] := by
    rw [Control.Decoder.feed_append, Array.toList_append,
      (Control.Decoder.feed_cons _ last []).2, completed]
    rfl
  constructor
  · have read : (t.reading (init ++ [last])).Valid cols rows := hv.of_eq rfl rfl rfl rfl
    have valid : ((t.decoder.feed init).2.toList.foldl (perform now)
        (t.reading (init ++ [last]))).Valid cols rows :=
      List.foldlRecOn _ _ read fun _ hu action _ => hu.perform now action
    have poised := writes.poised valid hb now
    rw [feed_eq, actions, List.foldl_append]
    dsimp only
    rw [if_neg (by simp)]
    exact ⟨poised.last, poised.ascii⟩
  · rw [state_feed, decoder]
    exact Control.Decoder.ground_of_whole (completed ▸ List.mem_singleton_self action) writes.whole

/-! ## Repeating and typing -/

/-- Between sequences, what was printed last can be repeated or typed again. -/
theorem Poised.feed_repetition (h : t.Poised (letterChar b)) (hg : t.decoder.state = .ground)
    (hv : t.Valid cols rows) (hb : Printable b) (hascii : t.charsets.Ascii) (hn : 0 < n ∧ n ≤ 65535)
    (now : Instant) :
    let typed := t.feed (List.replicate n b) now
    t.feed (encode ("\x1b[" ++ toString n ++ "b")) now = typed.invoking t.charsets ∧
      typed.charsets = t.charsets.unshifted := by
  obtain ⟨n, rfl⟩ := Nat.exists_eq_succ_of_ne_zero (Nat.pos_iff_ne_zero.1 hn.1)
  have sequence : encode ("\x1b[" ++ toString (n + 1) ++ "b") =
      encode "\x1b[" ++ encode (toString (n + 1)) ++ [0x62] := by
    rw [encode_append, encode_append]
    rfl
  have repeated : t.decoder.Becomes (encode "\x1b[" ++ encode (toString (n + 1)) ++ [0x62])
      [.control (repetition (n + 1))] t.decoder :=
    Control.Decoder.becomes_counted hg hn.2 (by decide)
  have printable : ∀ a ∈ List.replicate (n + 1) b, Printable a :=
    fun a ha => List.eq_of_mem_replicate ha ▸ hb
  have typed := Control.Decoder.becomes_printable hg printable
  rw [List.map_replicate] at typed
  have read : t.reading (encode "\x1b[" ++ encode (toString (n + 1)) ++ [0x62]) =
      t.reading (List.replicate (n + 1) b) := by
    rw [reading, reading, repeated.decoder, typed.decoder]
  have some : (encode "\x1b[" ++ encode (toString (n + 1)) ++ [0x62]).isEmpty = false := by simp
  have poised : (t.reading (List.replicate (n + 1) b)).Poised (letterChar b) := ⟨h.last, h.ascii⟩
  have valid : (t.reading (List.replicate (n + 1) b)).Valid cols rows := hv.of_eq rfl rfl rfl rfl
  have same := poised.perform_repetition hb now n
  have each := poised.foldl_print valid hb hascii now n
  dsimp only
  rw [sequence, feed_eq, feed_eq, repeated.actions, typed.actions, read, some, each]
  dsimp only [List.foldl_cons, List.foldl_nil]
  rw [same]
  exact ⟨rfl, rfl⟩

/-- A character of printable ASCII that the last byte of the output wrote into a cell of its own can
be repeated or typed again while characters go through ASCII. Both lead to the same terminal, but
that a repeated character leaves a single shift to the next one that is typed. -/
theorem repeated_eq_retyped {config : Config} {actions : List HostAction} {bytes : List UInt8}
    {now : Instant} (hb : Printable b)
    (ends : (drive config actions).EndsWith bytes now (letterChar b)) (later : List HostAction)
    (idle : Throughout HostAction.apply Idle ((drive config actions).feed bytes now) later)
    (ascii : (later.foldl HostAction.apply ((drive config actions).feed bytes now)).charsets.Ascii)
    (hn : 0 < n ∧ n ≤ 65535) (then' : Instant) :
    let t := later.foldl HostAction.apply ((drive config actions).feed bytes now)
    let typed := t.feed (List.replicate n b) then'
    t.feed (encode ("\x1b[" ++ toString n ++ "b")) then' = typed.invoking t.charsets ∧
      typed.charsets = t.charsets.unshifted := by
  intro t
  have fed := (drive_valid config actions).feed bytes now
  obtain ⟨poised, ground⟩ := ends.poised (drive_valid config actions) hb
  have after : t.Poised (letterChar b) ∧ t.decoder.state = .ground := idle.foldl
    (p := fun u => u.Poised (letterChar b) ∧ u.decoder.state = .ground)
    (fun u action hu hidle => ⟨hu.1.apply hidle, ground_apply hu.2 hidle⟩) ⟨poised, ground⟩
  obtain ⟨cols, rows, valid⟩ := fed.drive later
  exact after.1.feed_repetition after.2 valid hb ascii hn then'

/-- A letter that is inserted. -/
def inserted : List UInt8 := [0x1b, 0x5b, 0x34, 0x68, 0x61]

/-- The letter is repeated over both lines and onto a third one, after the terminal became
narrower. -/
theorem repeated_eq_retyped_narrowed :
    let made := drive { size := ⟨3, 2⟩ } []
    let t := [HostAction.resize 2 2].foldl HostAction.apply (made.feed inserted 1)
    let typed := t.feed (List.replicate 5 0x61) 2
    made.EndsWith inserted 1 (letterChar 0x61) ∧ t.charsets.Ascii ∧
      t.feed (encode ("\x1b[" ++ toString 5 ++ "b")) 2 = typed.invoking t.charsets ∧
      typed.charsets = t.charsets.unshifted := by
  intro made t typed
  have ends : made.EndsWith inserted 1 (letterChar 0x61) := by
    refine ⟨[0x1b, 0x5b, 0x34, 0x68], 0x61, .print (letterChar 0x61), rfl, by rfl, by rfl, ?_⟩
    have first : ((made.decoder.feed [0x1b, 0x5b, 0x34, 0x68]).2.toList.foldl (perform 1)
        (made.reading inserted)).composeAt = none := by rfl
    exact fun place hplace => absurd (first ▸ hplace) (Option.not_mem_none place)
  have ascii : t.charsets.Ascii := by
    unfold Charsets.Ascii
    decide +kernel
  have printable : Printable 0x61 := ⟨by decide, by decide⟩
  have idle : Throughout HostAction.apply Idle (made.feed inserted 1) [.resize 2 2] :=
    ⟨trivial, trivial⟩
  have five : 0 < 5 ∧ 5 ≤ 65535 := by decide
  have same := repeated_eq_retyped printable ends [.resize 2 2] idle ascii five 2
  exact ⟨ends, ascii, same⟩

end Terminal

end Teletype
