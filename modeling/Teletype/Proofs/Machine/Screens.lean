import Teletype.Proofs.Machine.Print

/-!
# Screens and modes in machine words

Saving and restoring the cursor, the two screens, resets, another size, and the modes that move the
cursor or change the screen.
-/

namespace Teletype.Terminal

open Machine

variable {cols rows : Nat} {t : Terminal}

def checkedRestoreCursor (t : Terminal) : Option Terminal := do
  let saved := t.grid.saved.cursor
  forget (t.grid.checkedSetCursor saved.row saved.col)
  return t.restoreCursor

/-- The cursor goes to where it was on the other screen, and then the screen is erased. -/
def checkedEnterAlternate (t : Terminal) (save : Bool) : Option Terminal :=
  if t.isAlternate then some t
  else do
    let region := t.primary.region
    let cursor := t.primary.cursor
    let placed ← (t.alternate.setRegion region.top region.bottom).checkedSetCursor
        cursor.row cursor.col
    forget (placed.checkedEraseRows 0 placed.rows .default)
    return t.enterAlternate save

def checkedLeaveAlternate (t : Terminal) (restore : Bool) : Option Terminal :=
  if t.isAlternate then do
    let region := t.alternate.region
    let cursor := t.alternate.cursor
    let placed ← (t.primary.setRegion region.top region.bottom).checkedSetCursor
        cursor.row cursor.col
    when restore (forget { t with screen := .primary, primary := placed }.checkedRestoreCursor)
    return t.leaveAlternate restore
  else some t

def checkedHardReset (t : Terminal) : Option Terminal := do
  let left ← t.checkedLeaveAlternate false
  let cleared ← left.primary.checkedClearAll
  forget left.alternate.checkedClearAll
  forget cleared.checkedViewToBottom
  return t.hardReset

def checkedAlignmentTest (t : Terminal) : Option Terminal :=
  let rows := t.rows
  t.checkedOnGrid fun g => do
    let filled ← g.checkedFill 'E'
    (filled.setRegion 0 rows).checkedSetCursor 0 0

def checkedResize (t : Terminal) (cols rows : Nat) : Option Terminal :=
  if max cols 1 = t.cols && max rows 1 = t.rows then some t
  else do
    forget (t.primary.checkedResize (max rows 1) (max cols 1) t.config.reflow)
    forget (t.alternate.checkedResize (max rows 1) (max cols 1) false)
    return t.resize cols rows

def checkedSetDecMode (now : Instant) (on : Bool) (t : Terminal) (number : Nat) : Option Terminal :=
  match number with
  | 6 => (t.switchDec (.flag .origin) on).checkedGoTo 0 0
  | 47 | 1047 => if on then t.checkedEnterAlternate false else t.checkedLeaveAlternate false
  | 1048 => if on then some t.saveCursor else t.checkedRestoreCursor
  | 1049 => if on then t.checkedEnterAlternate true else t.checkedLeaveAlternate true
  | _ => some (setDecMode now on t number)

def checkedRestoreDecMode (now : Instant) (t : Terminal) (number : Nat) : Option Terminal :=
  if number = 1048 then t.checkedRestoreCursor
  else match t.savedModes.lookup number with
    | some on => checkedSetDecMode now on t number
    | none => some (restoreDecMode now t number)

namespace Held

theorem checkedRestoreCursor (h : t.Held cols rows) :
    t.checkedRestoreCursor = some t.restoreCursor :=
  bind_eq (forget_of_eq (h.inBounds.checkedSetCursor _ _)) rfl

/-- The screen to which the cursor goes with its region. -/
theorem placed {kind : ScreenKind} {g : Grid} (h : g.Held kind cols rows) (region : Region)
    (cursor : Cursor) :
    (g.setRegion region.top region.bottom).checkedSetCursor cursor.row cursor.col =
        some ((g.setRegion region.top region.bottom).setCursor cursor.row cursor.col) ∧
      ((g.setRegion region.top region.bottom).setCursor cursor.row cursor.col).Held kind
        cols rows := by
  have chosen := h.next (h.valid.setRegion region.top region.bottom)
    (h.valid.inRing.alike.setRegion region.top region.bottom)
  exact ⟨chosen.inBounds.checkedSetCursor _ _, chosen.next (chosen.valid.setCursor _ _)
    (chosen.valid.inRing.alike.setCursor _ _)⟩

theorem checkedEnterAlternate (h : t.Held cols rows) (save : Bool) :
    t.checkedEnterAlternate save = some (t.enterAlternate save) := by
  unfold Terminal.checkedEnterAlternate
  split
  · rename_i halternate
    rw [Terminal.enterAlternate, if_pos halternate]
  · have held : t.alternate.Held .alternate cols rows := ⟨h.valid.alternate, h.alternate⟩
    obtain ⟨steps, goal⟩ := placed held t.primary.region t.primary.cursor
    exact bind_eq steps (bind_eq (forget_of_eq (goal.inBounds.checkedEraseRows 0 _ .default)) rfl)

theorem checkedLeaveAlternate (h : t.Held cols rows) (restore : Bool) :
    t.checkedLeaveAlternate restore = some (t.leaveAlternate restore) := by
  unfold Terminal.checkedLeaveAlternate
  split
  · have held : t.primary.Held .primary cols rows := ⟨h.valid.primary, h.primary⟩
    obtain ⟨steps, goal⟩ := placed held t.alternate.region t.alternate.cursor
    have back : ({ t with
        screen := .primary
        primary := (t.primary.setRegion t.alternate.region.top t.alternate.region.bottom).setCursor
          t.alternate.cursor.row t.alternate.cursor.col } : Terminal).Held cols rows :=
      ⟨⟨goal.valid, h.valid.alternate, h.valid.tabs, h.valid.titles⟩, goal.fits, h.alternate⟩
    exact bind_eq steps (bind_eq (when_of_imp fun _ => forget_of_eq back.checkedRestoreCursor) rfl)
  · rename_i hprimary
    rw [Terminal.leaveAlternate, if_neg hprimary]

theorem checkedHardReset (h : t.Held cols rows) : t.checkedHardReset = some t.hardReset := by
  have left : (t.leaveAlternate false).Held cols rows :=
    h.next (h.valid.leaveAlternate false) (h.valid.alike.leaveAlternate false)
  have primary : (t.leaveAlternate false).primary.Held .primary cols rows :=
    ⟨left.valid.primary, left.primary⟩
  have cleared := primary.next primary.valid.clearAll primary.valid.inRing.alike.clearAll
  refine bind_eq (h.checkedLeaveAlternate false) (bind_eq (Grid.checkedClearAll_eq _) ?_)
  refine bind_eq (forget_of_eq (Grid.checkedClearAll_eq _)) ?_
  exact bind_eq (forget_of_eq cleared.inBounds.checkedViewToBottom) rfl

theorem checkedAlignmentTest (h : t.Held cols rows) :
    t.checkedAlignmentTest = some t.alignmentTest := by
  have filled := h.grid.next (h.grid.valid.fill 'E') (h.grid.valid.inRing.alike.fill 'E')
  have chosen :=
    filled.next (filled.valid.setRegion 0 t.rows) (filled.valid.inRing.alike.setRegion 0 t.rows)
  unfold Terminal.checkedAlignmentTest Terminal.alignmentTest
  refine checkedOnGrid_eq ?_
  exact bind_eq (h.inBounds.checkedFill 'E') (chosen.inBounds.checkedSetCursor 0 0)

theorem checkedResize (h : t.Held cols rows) {cols' rows' : Nat}
    (hfits : (Grid.Format.of .primary (max cols' 1) (max rows' 1) t.primary.scrollback).Fits) :
    t.checkedResize cols' rows' = some (t.resize cols' rows') := by
  have primary : t.primary.Held .primary cols rows := ⟨h.valid.primary, h.primary⟩
  have alternate : t.alternate.Held .alternate cols rows := ⟨h.valid.alternate, h.alternate⟩
  have atLeastOne (n : Nat) : max (max n 1) 1 = max n 1 := Nat.max_eq_left (Nat.le_max_right n 1)
  unfold Terminal.checkedResize
  split
  · rename_i hsame
    exact congrArg some (if_pos hsame).symm
  · refine bind_eq (forget_of_eq (primary.checkedResize ?_ _))
      (bind_eq (forget_of_eq (alternate.checkedResize ?_ _)) rfl)
    · rw [atLeastOne, atLeastOne]
      exact hfits
    · rw [atLeastOne, atLeastOne]
      exact hfits.alternate _

end Held

/-- How big the screens are follows from the size and the configuration. -/
theorem Configured.held (h : t.Configured) (hv : t.Valid cols rows)
    (hfits : (Grid.Format.of .primary cols rows t.config.scrollback).Fits) : t.Held cols rows where
  valid := hv
  primary := by
    rw [Grid.format, h.capacity, hv.primary.kind_eq, hv.primary.cols_eq, hv.primary.rows_eq,
      h.scrollback]
    exact hfits
  alternate := hv.alternate.fits_alternate hfits.cols_le hfits.rows_le

theorem config_resize (t : Terminal) (cols rows : Nat) :
    (t.resize cols rows).config = t.config := by
  unfold Terminal.resize
  dsimp only
  split
  · rfl
  · unfold Terminal.modifyGrid
    split <;> rfl

/-- Nothing but a new size changes how big the screens are. -/
theorem Configured.held_resize (h : t.Configured) (hv : t.Valid cols rows) {cols' rows' : Nat}
    (hfits : (Grid.Format.of .primary (max cols' 1) (max rows' 1) t.config.scrollback).Fits) :
    (t.resize cols' rows').Held (max cols' 1) (max rows' 1) :=
  (h.resize hv cols' rows').held (hv.resize cols' rows')
  ((config_resize t cols' rows').symm ▸ hfits)

namespace Held

theorem checkedSetDecMode (h : t.Held cols rows) (now : Instant) (on : Bool) (number : Nat) :
    checkedSetDecMode now on t number = some (setDecMode now on t number) := by
  unfold Terminal.checkedSetDecMode
  split
  · have switched : (t.switchDec (.flag .origin) on).Held cols rows := h.of_eq rfl rfl rfl rfl
    exact switched.checkedGoTo 0 0
  · cases on
    · exact h.checkedLeaveAlternate false
    · exact h.checkedEnterAlternate false
  · cases on
    · exact h.checkedLeaveAlternate false
    · exact h.checkedEnterAlternate false
  · cases on
    · exact h.checkedRestoreCursor
    · rfl
  · cases on
    · exact h.checkedLeaveAlternate true
    · exact h.checkedEnterAlternate true
  · rfl

theorem setDecMode (h : t.Held cols rows) (now : Instant) (on : Bool) (number : Nat) :
    (setDecMode now on t number).Held cols rows :=
  h.next (h.valid.setDecMode now on number) (h.valid.alike.setDecMode now on number)

theorem checkedRestoreDecMode (h : t.Held cols rows) (now : Instant) (number : Nat) :
    checkedRestoreDecMode now t number = some (restoreDecMode now t number) := by
  unfold Terminal.checkedRestoreDecMode Terminal.restoreDecMode
  split
  · exact h.checkedRestoreCursor
  · cases t.savedModes.lookup number with
    | none => rfl
    | some on => exact h.checkedSetDecMode now on number

theorem restoreDecMode (h : t.Held cols rows) (now : Instant) (number : Nat) :
    (restoreDecMode now t number).Held cols rows :=
  h.next (h.valid.restoreDecMode now number) (h.valid.alike.restoreDecMode now number)

end Held

end Teletype.Terminal
