import Teletype.Proofs.Machine.Resize
import Teletype.Proofs.Terminal.Renewal

/-!
# Moving the cursor in machine words

The motions of a terminal that compute places, on screens of a size that words can describe.
-/

namespace Teletype.Terminal

open Machine

/-! ## Terminals of a size that words can describe -/

/-- A valid terminal whose screens machine words can describe. -/
structure Held (cols rows : Nat) (t : Terminal) : Prop where
  valid : t.Valid cols rows
  primary : t.primary.format.Fits
  alternate : t.alternate.format.Fits

variable {cols rows : Nat} {t : Terminal}

theorem Held.grid (h : t.Held cols rows) : t.grid.Held t.screen cols rows := by
  refine ⟨h.valid.grid, ?_⟩
  unfold Terminal.grid
  split
  · exact h.primary
  · exact h.alternate

theorem Held.inBounds (h : t.Held cols rows) : t.grid.InBounds := h.grid.inBounds

/-- Machine words can still describe the screens where they, the tab stops and the saved titles
stay. -/
theorem Held.of_eq {t' : Terminal} (h : t.Held cols rows) (hp : t'.primary = t.primary)
    (ha : t'.alternate = t.alternate) (htabs : t'.tabs = t.tabs)
    (htitles : t'.titleStack = t.titleStack) : t'.Held cols rows :=
  ⟨h.valid.of_eq hp ha htabs htitles, hp ▸ h.primary, ha ▸ h.alternate⟩

/-- An operation that goes on like another does not change the size of the screens. -/
theorem Held.next {t' u : Terminal} (h : t.Held cols rows) (hv : t'.Valid cols rows)
    (ha : Alike t t' u) : t'.Held cols rows :=
  ⟨hv, ha.primary.left ▸ h.primary, ha.alternate.left ▸ h.alternate⟩

theorem Held.modifyGrid (h : t.Held cols rows) {f : Grid → Grid}
    (hf : t.grid.Held t.screen cols rows → (f t.grid).Held t.screen cols rows) :
    (t.modifyGrid f).Held cols rows := by
  obtain ⟨hg, fits⟩ := hf h.grid
  have hv := h.valid.modifyGrid fun _ => hg
  unfold Terminal.grid at fits
  unfold Terminal.modifyGrid at hv ⊢
  cases hs : t.screen with
  | primary =>
    simp only [hs] at fits hv ⊢
    exact ⟨hv, fits, h.alternate⟩
  | alternate =>
    simp only [hs] at fits hv ⊢
    exact ⟨hv, h.primary, fits⟩

theorem Held.ite {p : Prop} [Decidable p] {a b : Terminal} (ha : a.Held cols rows)
    (hb : b.Held cols rows) : (if p then a else b).Held cols rows := by
  split
  · exact ha
  · exact hb

/-- Changes the grid in use by an operation that need not be possible. -/
def checkedOnGrid (t : Terminal) (f : Grid → Option Grid) : Option Terminal := do
  let g ← f t.grid
  return t.modifyGrid fun _ => g

theorem checkedOnGrid_eq {s : Grid → Option Grid} {f : Grid → Grid}
    (h : s t.grid = some (f t.grid)) : t.checkedOnGrid s = some (t.modifyGrid f) :=
  bind_eq h (congrArg some (Alike.modifyGrid_const t f))

/-! ## Motions -/

def checkedLineFeed (t : Terminal) : Option Terminal :=
  let background := t.rendition.background
  t.checkedOnGrid fun g => do
    let below ← add .u16 g.cursor.row 1
    let moved ←
      (if below = g.region.bottom then g.checkedScrollUp 1 background
      else if below < g.rows then some { g with cursor := { g.cursor with row := below } }
      else some g : Option Grid)
    return moved.clearPending

def checkedReverseIndex (t : Terminal) : Option Terminal :=
  let background := t.rendition.background
  t.checkedOnGrid fun g => do
    let moved ←
      (if g.cursor.row = g.region.top then g.checkedScrollDown 1 background
      else if 0 < g.cursor.row then do
        let above ← sub g.cursor.row 1
        return { g with cursor := { g.cursor with row := above } }
      else some g : Option Grid)
    return moved.clearPending

def checkedBackspace (t : Terminal) : Option Terminal :=
  let reverseWrap := t.modes.dec.reverseWrap
  t.checkedOnGrid fun g =>
    let c := g.cursor
    if c.pendingWrap then some g.clearPending
    else if 0 < c.col then do
      let before ← sub c.col 1
      return { g with cursor := { c with col := before } }
    else if reverseWrap && 0 < c.row then do
      let above ← sub c.row 1
      let last ← sub g.cols 1
      return { g with cursor := { c with row := above, col := last } }
    else some g

/-- Each step looks for a tab stop from the next column on. -/
def checkedTabAfter (tabs : List Nat) (last : Nat) : Nat → Nat → Option Nat
  | 0, col => some col
  | n + 1, col => do
    let first ← add .u16 col 1
    let next := min ((tabs.find? (first ≤ ·)).getD last) last
    if next = last then return last else checkedTabAfter tabs last n next

def checkedTabForward (t : Terminal) (n : Nat) : Option Terminal := do
  let last ← sub t.grid.cols 1
  let col ← checkedTabAfter t.tabs last n t.cursor.col
  return t.putCursor { t.cursor with col := col }

def checkedAddressableRows (t : Terminal) : Option (Nat × Nat) :=
  let g := t.grid
  if t.modes.dec.origin then do
    let last ← sub g.region.bottom 1
    return (g.region.top, last)
  else do
    let last ← sub g.rows 1
    return (0, last)

/-- The row is counted without overflow. -/
def checkedGoTo (t : Terminal) (row col : Nat) : Option Terminal := do
  let (top, bottom) ← t.checkedAddressableRows
  t.checkedOnGrid (·.checkedSetCursor (min (top + row) bottom) col)

def checkedCursorUp (t : Terminal) (n : Nat) : Option Terminal :=
  let top := t.addressableRows.1
  t.checkedOnGrid fun g => do
    let row ← sub g.cursor.row (min n (g.cursor.row - top))
    g.checkedSetCursor row g.cursor.col

def checkedCursorDown (t : Terminal) (n : Nat) : Option Terminal := do
  let (_, bottom) ← t.checkedAddressableRows
  t.checkedOnGrid fun g => do
    let row ← add .u16 g.cursor.row (min n (bottom - g.cursor.row))
    g.checkedSetCursor row g.cursor.col

def checkedReportedPosition (t : Terminal) : Option (Nat × Nat) := do
  let row := if t.modes.dec.origin then t.cursor.row - t.grid.region.top else t.cursor.row
  let row ← add .u16 row 1
  let col ← add .u16 t.cursor.col 1
  return (row, col)

namespace Held

theorem checkedLineFeed (h : t.Held cols rows) : t.checkedLineFeed = some t.lineFeed := by
  have := h.inBounds.cursor_row
  have := h.inBounds.rows_le
  unfold Terminal.checkedLineFeed Terminal.lineFeed
  refine checkedOnGrid_eq ?_
  refine bind_eq (add_u16 (by omega)) (bind_eq ?_ rfl)
  split
  · exact h.grid.checkedScrollUp 1 _
  · split <;> rfl

theorem checkedReverseIndex (h : t.Held cols rows) :
    t.checkedReverseIndex = some t.reverseIndex := by
  unfold Terminal.checkedReverseIndex Terminal.reverseIndex
  refine checkedOnGrid_eq ?_
  refine bind_eq ?_ rfl
  split
  · exact h.inBounds.checkedScrollDown 1 _
  · split
    · exact bind_eq (sub_of_le (by omega)) rfl
    · rename_i htop
      refine congrArg some ?_
      rw [show t.grid.cursor.row - 1 = t.grid.cursor.row by omega]

theorem checkedBackspace (h : t.Held cols rows) : t.checkedBackspace = some t.backspace := by
  unfold Terminal.checkedBackspace Terminal.backspace
  refine checkedOnGrid_eq ?_
  dsimp only
  split
  · rfl
  · split
    · exact bind_eq (sub_of_le (by omega)) rfl
    · split
      · rename_i hup
        simp only [Bool.and_eq_true, decide_eq_true_eq] at hup
        exact bind_eq (sub_of_le hup.2) (bind_eq (sub_of_le h.inBounds.cols_pos) rfl)
      · rfl

end Held

theorem checkedTabAfter_eq (tabs : List Nat) {last col : Nat} (hlast : last ≤ 65534) (n : Nat)
    (hcol : col ≤ last) : checkedTabAfter tabs last n col = some (tabAfter tabs last n col) := by
  induction n generalizing col with
  | zero => rfl
  | succ n ih =>
    refine bind_eq (add_u16 (by omega)) ?_
    simp only [tabAfter, Nat.succ_le_iff]
    split
    · rfl
    · exact ih (Nat.min_le_right _ _)

namespace Held

theorem checkedTabForward (h : t.Held cols rows) (n : Nat) :
    t.checkedTabForward n = some (t.tabForward n) := by
  have hcol : t.cursor.col < t.grid.cols := h.inBounds.cursor_col
  have := h.inBounds.cols_le
  refine bind_eq (sub_of_le h.inBounds.cols_pos) (bind_eq ?_ rfl)
  exact checkedTabAfter_eq t.tabs (by omega) n (by omega)

theorem checkedAddressableRows (h : t.Held cols rows) :
    t.checkedAddressableRows = some t.addressableRows := by
  have := h.inBounds.region_lt
  unfold Terminal.checkedAddressableRows Terminal.addressableRows
  dsimp only
  split
  · exact bind_eq (sub_of_le (by omega)) rfl
  · exact bind_eq (sub_of_le h.inBounds.rows_pos) rfl

theorem checkedGoTo (h : t.Held cols rows) (row col : Nat) :
    t.checkedGoTo row col = some (t.goTo row col) := by
  refine bind_eq h.checkedAddressableRows ?_
  exact checkedOnGrid_eq (f := (·.setCursor _ col)) (h.inBounds.checkedSetCursor _ col)

theorem checkedCursorUp (h : t.Held cols rows) (n : Nat) :
    t.checkedCursorUp n = some (t.cursorUp n) := by
  unfold Terminal.checkedCursorUp Terminal.cursorUp
  refine checkedOnGrid_eq ?_
  refine bind_eq (sub_of_le ?_) (h.inBounds.checkedSetCursor _ _)
  exact Nat.le_trans (Nat.min_le_right _ _) (Nat.sub_le _ _)

theorem addressableRows_le (h : t.Held cols rows) : t.addressableRows.2 < t.grid.rows := by
  have := h.inBounds.region_le
  have := h.inBounds.region_lt
  have := h.inBounds.rows_pos
  unfold Terminal.addressableRows
  dsimp only
  split
  · show t.grid.region.bottom - 1 < t.grid.rows
    omega
  · show t.grid.rows - 1 < t.grid.rows
    omega

theorem checkedCursorDown (h : t.Held cols rows) (n : Nat) :
    t.checkedCursorDown n = some (t.cursorDown n) := by
  have hrow := h.inBounds.cursor_row
  have hrows := h.inBounds.rows_le
  have hbottom := h.addressableRows_le
  have range := h.checkedAddressableRows
  unfold Terminal.cursorDown
  generalize t.addressableRows = place at hbottom range ⊢
  obtain ⟨top, bottom⟩ := place
  refine bind_eq range (checkedOnGrid_eq ?_)
  exact bind_eq (add_u16 (by omega)) (h.inBounds.checkedSetCursor _ _)

theorem checkedReportedPosition (h : t.Held cols rows) :
    t.checkedReportedPosition = some t.reportedPosition := by
  have hrow : t.cursor.row < t.grid.rows := h.inBounds.cursor_row
  have hcol : t.cursor.col < t.grid.cols := h.inBounds.cursor_col
  have := h.inBounds.rows_le
  have := h.inBounds.cols_le
  refine bind_eq (add_u16 ?_) (bind_eq (add_u16 (by omega)) rfl)
  split <;> omega

end Held

end Teletype.Terminal
