import Teletype.Proofs.Terminal.Joins

/-!
# Origin mode and the region: printing, output and hosts

As long as no backspace and no saved cursor leads out of the region, nothing that a host does with a
terminal does, whatever is printed and whichever screen is in use.
-/

namespace Teletype

namespace Terminal

variable {cols rows : Nat} {t t' : Terminal}

/-! ## Printing -/

theorem ConfinedOn.wrapLine (h : t.ConfinedOn cols rows) : t.wrapLine.ConfinedOn cols rows := by
  have marked : (t.modifyGrid (·.modifyRow t.cursor.row ({ · with wrapped := true }))).ConfinedOn
      cols rows := by
    refine h.level (h.valid.modifyGrid fun hg => hg.modifyRow _ fun _ hr => hr.of_cells rfl) ?_
    exact Grid.level_of_bearings (Grid.bearings_modifyRow ..)
  exact marked.lineFeed.putCursor h.valid.wrapLine rfl

theorem ConfinedOn.makeRoom (h : t.ConfinedOn cols rows) (width : Nat) :
    (t.makeRoom width).1.ConfinedOn cols rows :=
  makeRoom_induction (p := ConfinedOn cols rows) (fun _ hu => hu.wrapLine) h width

theorem ConfinedOn.placeGlyph (h : t.ConfinedOn cols rows) (c : Char) (width col : Nat) :
    (t.placeGlyph c width col).ConfinedOn cols rows :=
  h.of_level (h.valid.placeGlyph c width col) (t.level_placeGlyph c width col)
    (congrArg (·.dec.origin) (modes_modifyGrid ..))

theorem ConfinedOn.printGlyph (h : t.ConfinedOn cols rows) (c : Char) (width : Nat) :
    (t.printGlyph c width).ConfinedOn cols rows := by
  have valid := h.valid.printGlyph c width
  unfold Terminal.printGlyph at valid ⊢
  split
  · exact h.of_alters (h.valid.note ..) (t.alters_note ..) rfl
  · rename_i fits
    rw [if_neg fits] at valid
    exact ((h.makeRoom width).placeGlyph c width _).of_level valid rfl rfl

theorem ConfinedOn.print (h : t.ConfinedOn cols rows) (hj : t.Joins) (c : Char) :
    (t.print c).ConfinedOn cols rows := by
  have valid := h.valid.print c
  have shifted :
      ({ t with charsets := (t.charsets.translate c).1 } : Terminal).ConfinedOn cols rows :=
    h.of_level (h.valid.of_eq rfl rfl rfl rfl) rfl rfl
  rcases t.print_cases c with ⟨row, col, c', hat, -, printed⟩ | printed | ⟨c', -, printed⟩
  · rw [printed] at valid ⊢
    obtain ⟨level, modes, -⟩ :=
      compose_spec { t with charsets := (t.charsets.translate c).1 } (hj _ hat) col c'
    exact shifted.of_level valid level (congrArg (·.dec.origin) modes)
  · exact printed ▸ shifted
  · exact printed ▸ shifted.printGlyph c' _

theorem ConfinedOn.repeatLast (h : t.ConfinedOn cols rows) (n : Nat) :
    (t.repeatLast n).ConfinedOn cols rows :=
  repeatLast_induction (p := ConfinedOn cols rows) (fun _ c _ hu => hu.printGlyph c _) h n

end Terminal

/-! ## What keeps the cursor confined -/

/-- A command in which neither a backspace nor a saved cursor leads out of the region. -/
def Command.StaysInside (now : Instant) (t : Terminal) : Command → Prop
  | .backspace => t.BacksInside
  | .restoreCursor => t.RestoresInside
  | .setDecModes numbers on =>
    Throughout (Terminal.setDecMode now on) (fun u number => u.SwitchesInside on number) t numbers
  | .restoreDecModes numbers =>
    Throughout (Terminal.restoreDecMode now) (fun u number => u.ReinstatesInside number) t numbers
  | _ => True

instance (now : Instant) (t : Terminal)
    (command : Command) : Decidable (command.StaysInside now t) := by
  cases command
  case backspace => exact inferInstanceAs (Decidable t.BacksInside)
  case restoreCursor => exact inferInstanceAs (Decidable t.RestoresInside)
  case setDecModes numbers on =>
    exact inferInstanceAs (Decidable
      (Throughout (Terminal.setDecMode now on)
        (fun u number => u.SwitchesInside on number) t numbers))
  case restoreDecModes numbers =>
    exact inferInstanceAs (Decidable
      (Throughout (Terminal.restoreDecMode now)
        (fun u number => u.ReinstatesInside number) t numbers))
  all_goals exact instDecidableTrue

/-- An action in which neither a backspace nor a saved cursor leads out of the region. -/
def Control.Action.StaysInside (now : Instant) (t : Terminal) : Control.Action → Prop
  | .execute byte => (Command.ofControl byte).StaysInside now { t with composeAt := none }
  | .escape s => (Command.ofEscape s).StaysInside now { t with composeAt := none }
  | .control s => (Command.ofSequence s).StaysInside now { t with composeAt := none }
  | _ => True

instance (now : Instant) (t : Terminal)
    (action : Control.Action) : Decidable (action.StaysInside now t) := by
  cases action
  case execute | escape | control => exact inferInstanceAs (Decidable (Command.StaysInside now _ _))
  all_goals exact instDecidableTrue

/-- What a host does without a backspace or a saved cursor leading out of the region. -/
def HostAction.StaysInside (t : Terminal) : HostAction → Prop
  | .feed bytes now =>
    Throughout (Terminal.perform now) (fun u action => action.StaysInside now u) (t.reading bytes)
      (t.decoder.feed bytes).2.toList
  | _ => True

instance (t : Terminal) : (action : HostAction) → Decidable (action.StaysInside t)
  | .feed bytes now =>
    inferInstanceAs
      (Decidable (Throughout (Terminal.perform now) (fun u action => action.StaysInside now u)
        (t.reading bytes) (t.decoder.feed bytes).2.toList))
  | .resize .. | .viewUp _ | .viewDown _ | .viewToBottom | .previousPrompt | .nextPrompt
  | .clearDirty | .poll _
  | .requestImmediate | .setClipboard _ | .startImages | .takeReplies | .takeEvents | .takeReports
  | .takeImages => instDecidableTrue

namespace Terminal

variable {cols rows : Nat} {t : Terminal}

section

variable {edit : Grid → Nat → Color → Grid}

theorem ConfinedOn.editLines (h : t.ConfinedOn cols rows) (hv : KeepsValid edit)
    (hl : ∀ g n background, (edit g n background).level = g.level) (n : Nat) :
    (t.editLines edit n).ConfinedOn cols rows := by
  have valid := h.valid.editLines hv n
  unfold Terminal.editLines at valid ⊢
  exact h.level valid (t.grid.level_ite (hl ..) rfl)

theorem ConfinedOn.editCells (h : t.ConfinedOn cols rows) (hv : KeepsValid edit)
    (hb : ∀ g n background, (edit g n background).bearings = g.bearings) (n : Nat) :
    (t.editCells edit n).ConfinedOn cols rows := by
  have valid := h.valid.editCells hv n
  unfold Terminal.editCells at valid ⊢
  refine h.level valid ?_
  show (edit t.grid n t.rendition.background).level = t.grid.level
  exact Grid.level_of_bearings (hb ..)

end

theorem ConfinedOn.eraseBy (h : t.ConfinedOn cols rows)
    {erase : Grid → Nat → Color → Reported Grid}
    (hv : KeepsValid fun g n background => (erase g n background).value)
    (hb : ∀ g mode background, (erase g mode background).value.bearings = g.bearings) (mode : Nat) :
    (t.eraseBy erase mode).ConfinedOn cols rows := by
  refine h.of_level (h.valid.eraseBy hv mode) ?_
    ((t.alters_eraseBy hb mode).kept (.flag .origin) rfl)
  unfold Terminal.eraseBy
  rw [grid_modifyGrid]
  show (t.modifyGrid fun _ => (erase t.grid mode t.rendition.background).value).grid.level = _
  rw [grid_modifyGrid]
  exact Grid.level_of_bearings (hb ..)

/-- Commands keep the cursor confined as long as nothing leads out of the region. -/
theorem ConfinedOn.run (h : t.ConfinedOn cols rows) (now : Instant) {command : Command}
    (hs : command.StaysInside now t) :
    (t.run now command).ConfinedOn cols rows := by
  have valid := h.valid.run now command
  cases command with
  | backspace => exact h.backspace hs
  | carriageReturn => exact h.carriageReturn
  | lineFeed => exact .ite h.lineFeed.carriageReturn h.lineFeed
  | index => exact h.lineFeed
  | reverseIndex => exact h.reverseIndex
  | nextRow => exact h.carriageReturn.lineFeed
  | tabForward n => exact h.putCursor valid rfl
  | tabBackward n => exact h.putCursor valid rfl
  | cursorUp n => exact h.cursorUp n
  | cursorDown n => exact h.cursorDown n
  | cursorRight n => exact h.toColumn fun g => g.cursor.col + n
  | cursorLeft n => exact h.toColumn fun g => g.cursor.col - n
  | cursorNextLine n => exact (h.cursorDown n).carriageReturn
  | cursorPreviousLine n => exact (h.cursorUp n).carriageReturn
  | toColumn col => exact h.toColumn fun _ => col
  | toRow row => exact h.goTo row _
  | toPlace row col => exact h.goTo row col
  | insertChars n =>
    exact h.editCells (fun _ _ _ _ n b hg => hg.insertChars n b) Grid.bearings_insertChars n
  | deleteChars n =>
    exact h.editCells (fun _ _ _ _ n b hg => hg.deleteChars n b) Grid.bearings_deleteChars n
  | eraseChars n =>
    exact h.editCells (fun _ _ _ _ n b hg => hg.eraseChars n b) Grid.bearings_eraseChars n
  | insertLines n =>
    exact h.editLines (fun _ _ _ _ n b hg => hg.insertLines n b) Grid.level_insertLines n
  | deleteLines n =>
    exact h.editLines (fun _ _ _ _ n b hg => hg.deleteLines n b) Grid.level_deleteLines n
  | eraseDisplay mode =>
    exact h.eraseBy (fun _ _ _ _ n b hg => hg.eraseDisplay n b) Grid.bearings_eraseDisplay mode
  | eraseLine mode =>
    exact h.eraseBy (fun _ _ _ _ n b hg => hg.eraseLine n b) Grid.bearings_eraseLine mode
  | repeatLast n => exact h.repeatLast n
  | setRegion top bottom => exact h.chooseRegion top bottom
  | restoreCursor => exact h.restoreCursor hs
  | setDecModes numbers on => exact Throughout.foldl (fun _ _ ht hn => ht.setDecMode now hn) hs h
  | restoreDecModes numbers =>
    exact Throughout.foldl (fun _ _ ht hn => ht.restoreDecMode now hn) hs h
  | alignmentTest => exact h.alignmentTest
  | softReset => exact h.softReset
  | hardReset => exact h.hardReset
  | _ => exact h.of_alters valid (t.alters_run now _) rfl

theorem ConfinedOn.perform (h : t.ConfinedOn cols rows) (hj : t.Joins) (now : Instant)
    {action : Control.Action} (hs : action.StaysInside now t) :
    (perform now t action).ConfinedOn cols rows := by
  have apart : ({ t with composeAt := none } : Terminal).ConfinedOn cols rows :=
    h.of_level (h.valid.of_eq rfl rfl rfl rfl) rfl rfl
  cases action with
  | print c => exact h.print hj c
  | execute | escape | control => exact apart.run now hs
  | _ => exact h.of_alters (h.valid.perform now _) (t.alters_perform now _) rfl

/-- Output during which nothing leads out of the region. -/
theorem ConfinedOn.feed (h : t.ConfinedOn cols rows) (hj : t.Joins) {bytes : List UInt8}
    {now : Instant} (hs : (HostAction.feed bytes now).StaysInside t) :
    (t.feed bytes now).ConfinedOn cols rows := by
  have read : (t.reading bytes).ConfinedOn cols rows :=
    h.of_level (h.valid.of_eq rfl rfl rfl rfl) rfl rfl
  have fed := (Throughout.foldl (p := fun u => u.ConfinedOn cols rows ∧ u.Joins)
    (fun _ action ⟨hu, hj⟩ ha => ⟨hu.perform hj now ha, hj.perform now action⟩) hs ⟨read, hj⟩).1
  have valid := h.valid.feed bytes now
  rw [feed_eq] at valid ⊢
  dsimp only at valid ⊢
  split
  · exact fed
  · exact fed.of_level (fed.valid.of_eq rfl rfl rfl rfl) rfl rfl

end Terminal

/-! ## Hosts -/

/-- With another size the whole screen is the region. -/
theorem Grid.region_resize {g : Grid} {rows cols : Nat}
    (h : ¬(max rows 1 = g.rows ∧ max cols 1 = g.cols)) (reflow : Bool) :
    (g.resize rows cols reflow).region = .full (max rows 1) := by
  unfold resize
  rw [if_neg (by simpa using h)]

namespace Terminal

variable {cols rows : Nat} {t : Terminal}

/-- With another size the whole screen is the region, on both screens. -/
theorem resize_other (h : t.Valid cols rows) {cols' rows' : Nat}
    (other : ¬(max rows' 1 = t.rows ∧ max cols' 1 = t.cols)) :
    (t.resize cols' rows').grid.region = .full (max rows' 1) := by
  have size : t.alternate.rows = t.rows ∧ t.alternate.cols = t.cols :=
    ⟨h.alternate.rows_eq.trans h.primary.rows_eq.symm,
      h.alternate.cols_eq.trans h.primary.cols_eq.symm⟩
  have height : max (max rows' 1) 1 = max rows' 1 := Nat.max_eq_left (Nat.le_max_right ..)
  have width : max (max cols' 1) 1 = max cols' 1 := Nat.max_eq_left (Nat.le_max_right ..)
  unfold Terminal.resize
  dsimp only
  rw [if_neg (by simpa [And.comm] using other)]
  rw [← height, ← width] at other
  have noted (v : Terminal) (fields : List (String × String)) :
      (v.note .debug "terminal resized" fields).grid = v.grid := rfl
  rw [noted, grid_modifyGrid]
  unfold Terminal.grid
  dsimp only
  cases t.screen with
  | primary => exact (Grid.region_resize other t.config.reflow).trans (congrArg Region.full height)
  | alternate =>
    rw [← size.1, ← size.2] at other
    exact (Grid.region_resize other false).trans (congrArg Region.full height)

theorem ConfinedOn.resize (h : t.ConfinedOn cols rows) (cols' rows' : Nat) :
    (t.resize cols' rows').ConfinedOn (max cols' 1) (max rows' 1) := by
  have valid := h.valid.resize cols' rows'
  by_cases same : max rows' 1 = t.rows ∧ max cols' 1 = t.cols
  · have kept : t.resize cols' rows' = t := if_pos (by simp [same])
    rw [kept] at valid ⊢
    exact ⟨valid, h.confined⟩
  · exact ⟨valid, fun _ => Grid.inside_of_full valid.grid (resize_other h.valid same)⟩

/-- No action of a host but output moves the cursor against the region. -/
theorem ConfinedOn.apply (h : t.ConfinedOn cols rows) (hj : t.Joins) {action : HostAction}
    (hs : action.StaysInside t) : ∃ cols' rows', (action.apply t).ConfinedOn cols' rows' := by
  cases action with
  | feed bytes now => exact ⟨cols, rows, h.feed hj hs⟩
  | resize cols' rows' => exact ⟨_, _, h.resize cols' rows'⟩
  | _ => exact ⟨cols, rows, h.of_alters (h.valid.apply_of_ne nofun) (t.alters_apply _) rfl⟩

theorem confinedOn_new (config : Config) :
    (Terminal.new config).ConfinedOn (max config.size.width 1) (max config.size.height 1) where
  valid := valid_new config
  confined := fun hon => absurd hon Bool.false_ne_true

/-- In a terminal that comes about without a step out of the region the cursor is confined. -/
theorem confined_drive {config : Config} {actions : List HostAction}
    (h : Throughout HostAction.apply (fun t action => action.StaysInside t) (.new config) actions) :
    (drive config actions).Confined := by
  obtain ⟨⟨cols, rows, kept⟩, -⟩ :=
    h.foldl (p := fun t => (∃ cols rows, t.ConfinedOn cols rows) ∧ t.Joins)
      (fun _ action ⟨⟨_, _, ht⟩, hj⟩ ha => ⟨ht.apply hj ha, hj.apply action⟩)
    ⟨⟨_, _, confinedOn_new config⟩, joins_of_none rfl⟩
  exact kept.confined

end Terminal

end Teletype
