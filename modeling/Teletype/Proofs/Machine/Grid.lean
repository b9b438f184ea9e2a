import Teletype.Proofs.Grid.Alike
import Teletype.Proofs.Grid.Resize
import Teletype.Proofs.Machine.Row

/-!
# Grids in machine words

The operations of a grid as they are computed: rows and columns in words of two bytes, slots and
lines in words of eight. On a valid grid of at most 65535 rows and columns, whose cells can be
addressed, each of them can be computed and gives what the operation is to give.
-/

namespace Teletype.Grid

open Machine

/-- Places on the screen can be counted in words of two bytes, and the ring can be in memory: a cell
takes four bytes at least, and 2⁶⁴ bytes have an address. -/
structure Format.Fits (f : Format) : Prop where
  cols_le : f.cols ≤ 65535
  rows_le : f.rows ≤ 65535
  cells_le : f.capacity * f.cols ≤ 2 ^ 62

instance (f : Format) : Decidable f.Fits :=
  decidable_of_iff (f.cols ≤ 65535 ∧ f.rows ≤ 65535 ∧ f.capacity * f.cols ≤ 2 ^ 62)
    ⟨fun ⟨cols, rows, cells⟩ => ⟨cols, rows, cells⟩, fun h => ⟨h.cols_le, h.rows_le, h.cells_le⟩⟩

/-- What the arithmetic of places and slots rests on. -/
structure InBounds (g : Grid) : Prop where
  rows_pos : 0 < g.rows
  rows_le : g.rows ≤ 65535
  cols_pos : 0 < g.cols
  cols_le : g.cols ≤ 65535
  capacity_le : g.capacity ≤ 2 ^ 62
  room : g.history + g.rows ≤ g.capacity
  offset_lt : g.offset < g.capacity
  view_lt : g.view < g.capacity
  view_le : g.viewDistance ≤ g.history
  region_lt : g.region.top < g.region.bottom
  region_le : g.region.bottom ≤ g.rows
  cursor_row : g.cursor.row < g.rows
  cursor_col : g.cursor.col < g.cols
  row_size : ∀ r ∈ g.slots, r.cells.size = g.cols

theorem Valid.inBounds {kind : ScreenKind} {cols rows : Nat} {g : Grid} (h : g.Valid kind cols rows)
    (hfits : g.format.Fits) : g.InBounds := by
  have hcols : 0 < g.cols := h.cols_eq ▸ h.cols_pos
  constructor
  case rows_pos => exact h.rows_eq ▸ h.rows_pos
  case rows_le => exact hfits.rows_le
  case cols_pos => exact hcols
  case cols_le => exact hfits.cols_le
  case capacity_le => exact Nat.le_trans (Nat.le_mul_of_pos_right _ hcols) hfits.cells_le
  case room => exact h.rows_eq ▸ h.room
  case offset_lt => exact h.offset_lt
  case view_lt => exact h.view_lt
  case view_le => exact h.view_le
  case region_lt => exact h.region_lt
  case region_le => exact h.rows_eq ▸ h.region_le
  case cursor_row => exact h.rows_eq ▸ h.cursor_row
  case cursor_col => exact h.cols_eq ▸ h.cursor_col
  case row_size => exact fun r hr => (h.row r hr).size.trans h.cols_eq.symm

/-- A valid grid that machine words can describe. -/
structure Held (kind : ScreenKind) (cols rows : Nat) (g : Grid) : Prop where
  valid : g.Valid kind cols rows
  fits : g.format.Fits

theorem Held.inBounds {kind : ScreenKind} {cols rows : Nat} {g : Grid} (h : g.Held kind cols rows) :
    g.InBounds :=
  h.valid.inBounds h.fits

/-- An operation that keeps grids alike does not change how big they are. -/
theorem Held.next {kind : ScreenKind} {cols rows : Nat} {g g' k : Grid} (h : g.Held kind cols rows)
    (hv : g'.Valid kind cols rows) (ha : Alike g.format g' k) : g'.Held kind cols rows :=
  ⟨hv, ha.left ▸ h.fits⟩

theorem format_modifyRow (g : Grid) (row : Nat) (f : Row → Row) :
    (g.modifyRow row f).format = g.format := by
  unfold modifyRow
  split
  · simp [format, capacity]
  · rfl

theorem Held.modifyRow {kind : ScreenKind} {cols rows : Nat} {g : Grid} (h : g.Held kind cols rows)
    (row : Nat) {f : Row → Row} (hf : ∀ r, Row.Valid cols r → Row.Valid cols (f r)) :
    (g.modifyRow row f).Held kind cols rows :=
  ⟨h.valid.modifyRow row hf, (format_modifyRow g row f).symm ▸ h.fits⟩

/-- The cursor may be anywhere on the screen. -/
theorem InBounds.putCursor {g : Grid} (h : g.InBounds) {c : Cursor} (hrow : c.row < g.rows)
    (hcol : c.col < g.cols) : ({ g with cursor := c } : Grid).InBounds :=
  { h with
    cursor_row := hrow
    cursor_col := hcol }

/-! ## Rows and lines -/

/-- The slot of a row of the screen. -/
def checkedSlotOf (g : Grid) (row : Nat) : Option Nat := do
  rem (← add .usize g.offset row) g.capacity

/-- The row in the slot of a row of the screen. -/
def checkedRow (g : Grid) (row : Nat) : Option Row := do
  entry g.slots (← g.checkedSlotOf row)

/-- The slot of a line. -/
def checkedSlotOfLine (g : Grid) (line : Nat) : Option Nat := do
  let oldest ← sub (← add .usize g.offset g.capacity) g.history
  rem (← add .usize oldest line) g.capacity

def checkedLineCount (g : Grid) : Option Nat := add .usize g.history g.rows

def checkedRow? (g : Grid) (row : Nat) : Option (Option Row) :=
  if row < g.rows then (g.checkedRow row).map some else some none

def checkedCell? (g : Grid) (row col : Nat) : Option (Option Cell) := do
  let r ← g.checkedRow? row
  return r.bind (·.cells[col]?)

def checkedLine? (g : Grid) (line : Nat) : Option (Option Row) := do
  let count ← g.checkedLineCount
  if line < count then
    let r ← entry g.slots (← g.checkedSlotOfLine line)
    return some r
  else return none

def checkedDisplayed (g : Grid) : Option (List Row) :=
  (List.range g.rows).mapM fun row => do
    entry g.slots (← rem (← add .usize g.view row) g.capacity)

def checkedAnyDirty (g : Grid) : Option Bool := do
  let rows ← (List.range g.rows).mapM g.checkedRow
  return rows.any Row.dirty

/-- Changes a row of the screen. The steps are those of the change that depend on where the cells
are. -/
def checkedModifyRow (g : Grid) (row : Nat) (steps : Row → Option Unit)
    (f : Row → Row) : Option Grid :=
  if row < g.rows then do
    steps (← g.checkedRow row)
    return g.modifyRow row f
  else some g

variable {g : Grid}

namespace InBounds

theorem capacity_pos (h : g.InBounds) :
    0 < g.capacity := Nat.lt_of_le_of_lt (Nat.zero_le _) h.offset_lt

theorem checkedSlotOf (h : g.InBounds) {row : Nat} (hrow : row ≤ g.rows) :
    g.checkedSlotOf row = some (g.slotOf row) := by
  have := h.offset_lt
  have := h.capacity_le
  have := h.rows_le
  exact bind_eq (add_usize (by omega)) (rem_of_pos h.capacity_pos)

theorem slot_lt (h : g.InBounds) (slot : Nat) : slot % g.capacity < g.slots.size :=
  Nat.mod_lt _ h.capacity_pos

theorem checkedRow (h : g.InBounds) {row : Nat} (hrow : row ≤ g.rows) :
    g.checkedRow row = g.slots[g.slotOf row]? := by
  exact (bind_eq (h.checkedSlotOf hrow) (entry_of_lt (h.slot_lt _))).trans
    (Array.getElem?_eq_getElem (h.slot_lt _)).symm

theorem checkedRow_isSome (h : g.InBounds) (row : Nat) (hrow : row ≤ g.rows) :
    ∃ r, g.checkedRow row = some r ∧ r.cells.size = g.cols :=
  ⟨_, bind_eq (h.checkedSlotOf hrow) (entry_of_lt (h.slot_lt _)),
    h.row_size _ (Array.getElem_mem _)⟩

theorem checkedSlotOfLine (h : g.InBounds) {line : Nat} (hline : line ≤ g.lineCount) :
    g.checkedSlotOfLine line = some (g.slotOfLine line) := by
  have := h.offset_lt
  have := h.capacity_le
  have := h.room
  unfold lineCount at hline
  refine bind_eq (add_usize (by omega)) (bind_eq (sub_of_le (by omega)) ?_)
  exact bind_eq (add_usize (by omega)) (rem_of_pos h.capacity_pos)

theorem checkedLineCount (h : g.InBounds) : g.checkedLineCount = some g.lineCount := by
  have := h.capacity_le
  have := h.room
  exact add_usize (by omega)

theorem checkedRow? (h : g.InBounds) (row : Nat) : g.checkedRow? row = some (g.row? row) := by
  unfold Grid.checkedRow? Grid.row?
  split
  · have lt : g.slotOf row < g.slots.size := h.slot_lt _
    rw [h.checkedRow (by omega), Array.getElem?_eq_getElem lt]
    rfl
  · rfl

theorem checkedCell? (h : g.InBounds) (row col : Nat) :
    g.checkedCell? row col = some (g.cell? row col) :=
  bind_eq (h.checkedRow? row) rfl

theorem checkedLine? (h : g.InBounds) (line : Nat) : g.checkedLine? line = some (g.line? line) := by
  refine bind_eq h.checkedLineCount ?_
  unfold Grid.line?
  split
  · have lt : g.slotOfLine line < g.slots.size := h.slot_lt _
    rw [Array.getElem?_eq_getElem lt]
    exact bind_eq (h.checkedSlotOfLine (by omega)) (bind_eq (entry_of_lt lt) rfl)
  · rfl

/-- The rows that are shown are in the ring, wherever the view is. -/
theorem checkedDisplayed (h : g.InBounds) : g.checkedDisplayed = some g.displayed := by
  have := h.view_lt
  have := h.capacity_le
  have := h.rows_le
  refine mapM_eq fun row hrow => ?_
  have := List.mem_range.1 hrow
  have lt := h.slot_lt (g.view + row)
  refine ⟨_, ?_, Array.getElem?_eq_getElem lt⟩
  exact bind_eq (add_usize (by omega)) (bind_eq (rem_of_pos h.capacity_pos) (entry_of_lt lt))

theorem checkedAnyDirty (h : g.InBounds) : g.checkedAnyDirty = some g.anyDirty := by
  have rows :
      (List.range g.rows).mapM g.checkedRow = some ((List.range g.rows).filterMap g.row?) := by
    refine mapM_eq fun row hrow => ?_
    have hrow := List.mem_range.1 hrow
    obtain ⟨r, hr, -⟩ := h.checkedRow_isSome _ (Nat.le_of_lt hrow)
    refine ⟨r, hr, ?_⟩
    rw [Grid.row?, if_pos hrow, ← h.checkedRow (Nat.le_of_lt hrow), hr]
  refine bind_eq rows (congrArg some ?_)
  rw [List.any_filterMap]
  refine congrArg (List.any (List.range g.rows)) (funext fun row => ?_)
  cases g.row? row <;> rfl

theorem checkedModifyRow (h : g.InBounds) (row : Nat) {steps : Row → Option Unit} (f : Row → Row)
    (hsteps : ∀ r, r.cells.size = g.cols → steps r = some ()) :
    g.checkedModifyRow row steps f = some (g.modifyRow row f) := by
  unfold Grid.checkedModifyRow
  split
  · obtain ⟨r, hr, hsize⟩ := h.checkedRow_isSome row (by omega)
    exact bind_eq hr (bind_eq (hsteps r hsize) rfl)
  · rename_i hrow
    rw [Grid.modifyRow, if_neg hrow]

end InBounds

end Teletype.Grid
