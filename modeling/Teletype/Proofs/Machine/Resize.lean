import Teletype.Proofs.Machine.Editing
import Teletype.Proofs.Machine.Reflow

/-!
# Making and resizing grids in machine words
-/

namespace Teletype.Grid

open Machine

/-- The format of a grid with the given size. -/
def Format.of (kind : ScreenKind) (cols rows scrollback : Nat) : Format :=
  ⟨kind, cols, rows, scrollback, capacityFor kind rows scrollback⟩

theorem format_new {kind : ScreenKind} {cols rows scrollback : Nat} :
    (new kind cols rows scrollback).format =
      Format.of kind (max cols 1) (max rows 1) scrollback := by
  simp [format, new, Format.of, capacity]

def checkedCapacityFor (kind : ScreenKind) (rows scrollback : Nat) : Option Nat :=
  match kind with
  | .primary => do fit .usize (nextPowerOfTwo (← add .usize scrollback rows))
  | .alternate => some rows

def checkedNew (kind : ScreenKind) (cols rows scrollback : Nat) : Option Grid := do
  let _ ← checkedCapacityFor kind (max rows 1) scrollback
  return new kind cols rows scrollback

def checkedLines (g : Grid) : Option (List Row) := do
  let count ← g.checkedLineCount
  (List.range count).mapM fun line => do entry g.slots (← g.checkedSlotOfLine line)

def checkedRefit (g : Grid) (cols : Nat) (reflow : Bool) : Option (List Row × Reflow.Place) := do
  let line ← add .usize g.history g.cursor.row
  let lines ← g.checkedLines
  if reflow && cols ≠ g.cols then Reflow.checkedRows lines cols ⟨line, g.cursor.col⟩
  else
    let last ← sub cols 1
    return (lines.map (·.fit cols), ⟨line, min g.cursor.col last⟩)

/-- The lines that are too many for the ring are dropped from the oldest on, and the cursor's line
and the last lines are counted again. -/
def checkedResize (g : Grid) (rows cols : Nat) (reflow : Bool) : Option Grid :=
  if max rows 1 = g.rows && max cols 1 = g.cols then some g
  else do
    let (lines, cursor) ← g.checkedRefit (max cols 1) reflow
    let _ ← add .usize cursor.line 1
    let _ ← add .usize cursor.line (max rows 1)
    let lines := settle (max cols 1) (max rows 1) cursor.line lines
    let capacity ← checkedCapacityFor g.kind (max rows 1) g.scrollback
    let most ← sub capacity (max rows 1)
    let history ← sub lines.length (max rows 1)
    let drop ← (if most < history then sub history most else some 0 : Option Nat)
    slice 0 drop lines.length
    let line ← sub cursor.line drop
    let _ ← rem (min history most) capacity
    let _ ← sub line (min history most)
    let _ ← sub (max rows 1) 1
    let _ ← sub (max cols 1) 1
    return g.resize rows cols reflow

variable {kind : ScreenKind} {cols rows : Nat} {g : Grid}

theorem checkedCapacityFor_eq {scrollback : Nat} (h : (Format.of kind cols rows scrollback).Fits)
    (hcols : 0 < cols) :
    checkedCapacityFor kind rows scrollback = some (capacityFor kind rows scrollback) := by
  cases kind with
  | primary =>
    have capacity : nextPowerOfTwo (scrollback + rows) ≤ 2 ^ 62 :=
      Nat.le_trans (Nat.le_mul_of_pos_right _ hcols) h.cells_le
    have := le_nextPowerOfTwo (scrollback + rows)
    exact bind_eq (add_usize (by omega)) (if_pos (show _ ≤ 18446744073709551615 by omega))
  | alternate => rfl

theorem checkedNew_eq {scrollback : Nat} (h : (new kind cols rows scrollback).format.Fits) :
    checkedNew kind cols rows scrollback = some (new kind cols rows scrollback) := by
  rw [format_new] at h
  exact bind_eq (checkedCapacityFor_eq h (by omega)) rfl

theorem InBounds.checkedLines (h : g.InBounds) : g.checkedLines = some g.lines := by
  refine bind_eq h.checkedLineCount (mapM_eq fun line hline => ?_)
  have lt := List.mem_range.1 hline
  have slot : g.slotOfLine line < g.slots.size := h.slot_lt _
  refine ⟨_, bind_eq (h.checkedSlotOfLine (Nat.le_of_lt lt)) (entry_of_lt slot), ?_⟩
  rw [line?, if_pos lt, Array.getElem?_eq_getElem slot]

/-- The lines at the new width are few enough to be counted together with another screen. -/
theorem Held.checkedRefit (h : g.Held kind cols rows) {cols' : Nat} (hpos : 0 < cols')
    (hle : cols' ≤ 65535) (reflow : Bool) :
    g.checkedRefit cols' reflow = some (g.refit cols' reflow) ∧
      (g.refit cols' reflow).1.length + 65536 ≤ 2 ^ 64 := by
  have hrow := h.inBounds.cursor_row
  have hroom := h.inBounds.room
  have hcapacity := h.inBounds.capacity_le
  have length : g.lines.length = g.history + g.rows := length_lines h.valid.capacity_pos
  have size : ∀ r ∈ g.lines, r.cells.size = g.cols := fun r hr =>
    (h.valid.lines r hr).size.trans h.valid.cols_eq.symm
  have held : g.lines.length ≤ g.capacity := by omega
  have cells : g.lines.length * g.cols ≤ 2 ^ 62 :=
    Nat.le_trans (Nat.mul_le_mul_right _ held) h.fits.cells_le
  have line : add .usize g.history g.cursor.row = some (g.history + g.cursor.row) :=
    add_usize (by omega)
  unfold Grid.checkedRefit Grid.refit
  dsimp only
  split
  · obtain ⟨steps, count⟩ := Reflow.checkedRows_eq cells size hpos hle
      ⟨g.history + g.cursor.row, g.cursor.col⟩ h.inBounds.cursor_col
    refine ⟨bind_eq line (bind_eq h.inBounds.checkedLines steps), ?_⟩
    rw [Nat.mul_add, Nat.mul_left_comm, Nat.mul_one] at count
    omega
  · refine ⟨bind_eq line (bind_eq h.inBounds.checkedLines (bind_eq (sub_of_le hpos) rfl)), ?_⟩
    rw [List.length_map]
    omega

theorem Held.checkedResize (h : g.Held kind cols rows) {rows' cols' : Nat}
    (hfits : (Format.of kind (max cols' 1) (max rows' 1) g.scrollback).Fits) (reflow : Bool) :
    g.checkedResize rows' cols' reflow = some (g.resize rows' cols' reflow) := by
  have hcols : 0 < max cols' 1 := by omega
  have hrows : 0 < max rows' 1 := by omega
  have rows_le : max rows' 1 ≤ 65535 := hfits.rows_le
  have room := le_capacityFor kind (max rows' 1) g.scrollback
  obtain ⟨refit, few⟩ := h.checkedRefit hcols hfits.cols_le reflow
  have hcursor := (h.valid.refit hcols reflow).2
  unfold Grid.checkedResize
  split
  · rename_i hsame
    rw [Grid.resize, if_pos hsame]
  · refine bind_eq refit ?_
    generalize g.refit (max cols' 1) reflow = refitted at few hcursor
    obtain ⟨lines, cursor⟩ := refitted
    dsimp only at few hcursor ⊢
    obtain ⟨fill, on, short⟩ := length_settle (max cols' 1) hrows hcursor
    refine bind_eq (add_usize (by omega)) (bind_eq (add_usize (by omega)) ?_)
    rw [h.valid.kind_eq]
    refine bind_eq (checkedCapacityFor_eq hfits hcols) (bind_eq (sub_of_le room) ?_)
    generalize settle (max cols' 1) (max rows' 1) cursor.line lines = lines at fill on short ⊢
    generalize capacityFor kind (max rows' 1) g.scrollback = capacity at room ⊢
    refine bind_eq (sub_of_le fill)
      (bind_eq (a := lines.length - max rows' 1 - (capacity - max rows' 1)) ?_ ?_)
    · split
      · exact sub_of_le (by omega)
      · exact congrArg some (by omega)
    · refine bind_eq (slice_of_le (by omega) (by omega)) (bind_eq (sub_of_le (by omega)) ?_)
      refine bind_eq (rem_of_pos (by omega)) (bind_eq (sub_of_le (by omega)) ?_)
      exact bind_eq (sub_of_le hrows) (bind_eq (sub_of_le hcols) rfl)

theorem Format.Fits.alternate {scrollback : Nat}
    (h : (Format.of .primary cols rows scrollback).Fits) (scrollback' : Nat) :
    (Format.of .alternate cols rows scrollback').Fits where
  cols_le := h.cols_le
  rows_le := h.rows_le
  cells_le := Nat.le_trans (Nat.mul_le_mul h.rows_le h.cols_le) (by decide)

/-- The ring of the alternate screen is as high as the screen. -/
theorem Valid.fits_alternate (h : g.Valid .alternate cols rows) (hcols : cols ≤ 65535)
    (hrows : rows ≤ 65535) : g.format.Fits where
  cols_le := h.cols_eq.trans_le hcols
  rows_le := h.rows_eq.trans_le hrows
  cells_le := by
    show g.capacity * g.cols ≤ 2 ^ 62
    rw [show g.capacity = rows from h.capacity, h.cols_eq]
    exact Nat.le_trans (Nat.mul_le_mul hrows hcols) (by decide)

end Teletype.Grid
