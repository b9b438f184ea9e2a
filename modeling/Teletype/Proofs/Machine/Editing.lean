import Teletype.Proofs.Machine.Grid

/-!
# Editing and scrolling in machine words

The operations on grids that output asks for, and the movements of the view.
-/

namespace Teletype.Grid

open Machine

/-! ## The cursor -/

def checkedSetCursor (g : Grid) (row col : Nat) : Option Grid := do
  let _ ← sub g.rows 1
  let _ ← sub g.cols 1
  return g.setCursor row col

/-! ## Erasing -/

def checkedEraseInRow (g : Grid) (row first last : Nat) (background : Color) : Option Grid :=
  g.checkedModifyRow row (·.eraseRangeSteps first last) (·.eraseRange first last background)

def checkedEraseRow (background : Color) (g : Grid) (row : Nat) : Option Grid :=
  g.checkedModifyRow row (fun _ => some ()) fun r => r.reset background r.seq

/-- Erasing a row does not change where the others are. -/
def checkedEraseRows (g : Grid) (first last : Nat) (background : Color) : Option Grid := do
  (List.range' first (last - first)).forM fun row => forget (g.checkedRow? row)
  return g.eraseRows first last background

def checkedClearWrap (g : Grid) (row : Nat) : Option Grid :=
  g.checkedModifyRow row (fun _ => some ()) ({ · with wrapped := false })

def checkedEraseScrollback (g : Grid) : Option Grid := do
  (List.range g.history).forM fun line => do index (← g.checkedSlotOfLine line) g.capacity
  return g.eraseScrollback

def checkedEraseRight (g : Grid) (background : Color) : Option Grid := do
  let erased ← g.checkedEraseInRow g.cursor.row g.cursor.col g.cols background
  erased.checkedClearWrap g.cursor.row

def checkedEraseLeft (g : Grid) (background : Color) : Option Grid := do
  let next ← add .u16 g.cursor.col 1
  g.checkedEraseInRow g.cursor.row 0 next background

def checkedEraseDisplay (g : Grid) (mode : Nat) (background : Color) : Option (Reported Grid) :=
  match mode with
  | 0 => do
    let right ← g.checkedEraseRight background
    let below ← add .u16 g.cursor.row 1
    let erased ← right.checkedEraseRows below g.rows background
    return ⟨erased, []⟩
  | 1 => do
    let above ← g.checkedEraseRows 0 g.cursor.row background
    let erased ← above.checkedEraseLeft background
    return ⟨erased, []⟩
  | 2 => do
    let erased ← g.checkedEraseRows 0 g.rows background
    return ⟨erased, []⟩
  | 3 => do
    let erased ← g.checkedEraseScrollback
    return ⟨erased, []⟩
  | mode => some (g.eraseDisplay mode background)

def checkedEraseLine (g : Grid) (mode : Nat) (background : Color) : Option (Reported Grid) :=
  match mode with
  | 0 => do
    let erased ← g.checkedEraseRight background
    return ⟨erased, []⟩
  | 1 => do
    let erased ← g.checkedEraseLeft background
    return ⟨erased, []⟩
  | 2 => do
    let erased ← checkedEraseRow background g g.cursor.row
    return ⟨erased, []⟩
  | mode => some (g.eraseLine mode background)

/-- The last column is counted without overflow. -/
def checkedEraseChars (g : Grid) (n : Nat) (background : Color) : Option Grid :=
  g.checkedEraseInRow g.cursor.row g.cursor.col (min (g.cursor.col + max n 1) g.cols) background

/-- Every row of the ring has a slot. -/
def checkedClearAll (g : Grid) : Option Grid := do
  (List.range g.capacity).forM fun slot => index slot g.capacity
  return g.clearAll

def checkedFill (g : Grid) (c : Char) : Option Grid := do
  (List.range g.rows).forM fun row => forget (g.checkedRow? row)
  return g.fill c

/-! ## Cells -/

def checkedInsertChars (g : Grid) (n : Nat) (background : Color) : Option Grid :=
  g.checkedModifyRow g.cursor.row (Row.insertBlanksSteps g.cols g.cursor.col n)
    (·.insertBlanks g.cursor.col n background)

def checkedDeleteChars (g : Grid) (n : Nat) (background : Color) : Option Grid :=
  g.checkedModifyRow g.cursor.row (Row.deleteCellsSteps g.cols g.cursor.col n)
    (·.deleteCells g.cursor.col n background)

def checkedWrite (g : Grid) (row col key width : Nat) (rendition : Rendition) (link : Nat) :
    Option Grid := do
  let width := if width ≤ 1 then 1 else 2
  when (col < g.cols ∧ width = 2) (forget (add .usize col 1))
  if g.fits row col width then
    g.checkedModifyRow row (Row.writeSteps col width) (·.write col key width rendition link)
  else return g

def checkedCompose (g : Grid) (row col key width : Nat) : Option (Grid × Nat) := do
  let composed ← g.checkedModifyRow row (Row.composeSteps g.cols col width)
    fun r => (r.compose col key width).1
  return (composed, (g.compose row col key width).2)

/-! ## Scrolling -/

/-- The slots of two rows are swapped. -/
def checkedSwapRows (g : Grid) (a b : Nat) : Option Grid := do
  let a ← g.checkedSlotOf a
  let b ← g.checkedSlotOf b
  index a g.capacity
  index b g.capacity
  return { g with slots := g.slots.swapIfInBounds a b }

/-- The row in a slot is changed. -/
def checkedModifySlot (g : Grid) (row : Nat) (f : Row → Row) : Option Grid := do
  let slot ← g.checkedSlotOf row
  index slot g.capacity
  return { g with slots := g.slots.modify slot f }

def checkedResetRow (background : Color) (g : Grid) (row : Nat) : Option Grid := do
  let reset ← g.checkedModifySlot row (·.reset background g.nextSeq)
  return { reset with nextSeq := g.nextSeq + 1 }

def checkedMarkRow (g : Grid) (row : Nat) : Option Grid :=
  g.checkedModifySlot row fun r => { r with dirty := true }

/-- The loops that move rows up. The row to swap with is counted in a word of two bytes. -/
def checkedShiftUp (g : Grid) (top bottom n : Nat) (background : Color) : Option Grid :=
  let bottom := min bottom g.rows
  if bottom ≤ top ∨ n = 0 then some g
  else do
    let n := min n (← sub bottom top)
    let first ← sub bottom n
    let swapped ← (List.range' top (first - top)).foldlM
      (fun g row => do g.checkedSwapRows row (← add .u16 row n)) g
    let cleared ← (List.range' first n).foldlM (checkedResetRow background) swapped
    (List.range' top (bottom - top)).foldlM checkedMarkRow cleared

/-- The loops that move rows down. The row to swap with is counted back from the one that is
swapped. -/
def checkedShiftDown (g : Grid) (top bottom n : Nat) (background : Color) : Option Grid :=
  let bottom := min bottom g.rows
  if bottom ≤ top ∨ n = 0 then some g
  else do
    let n := min n (← sub bottom top)
    let first ← add .u16 top n
    let swapped ← (List.range' first (bottom - first)).reverse.foldlM
      (fun g row => do g.checkedSwapRows row (← sub row n)) g
    let cleared ← (List.range' top n).foldlM (checkedResetRow background) swapped
    (List.range' top (bottom - top)).foldlM checkedMarkRow cleared

def checkedTurn (background : Color) (g : Grid) : Option Grid := do
  let offset ← rem (← add .usize g.offset 1) g.capacity
  let _ ← add .usize g.history 1
  let last ← sub g.rows 1
  index (← rem (← add .usize offset last) g.capacity) g.capacity
  return g.turn background

def checkedFollowView (g : Grid) (atBottom : Bool) : Option Grid :=
  if atBottom then some (g.followView atBottom)
  else do
    let back ← rem (← sub (← add .usize g.offset g.capacity) g.view) g.capacity
    when (g.history < back) do
      forget (rem (← sub (← add .usize g.offset g.capacity) g.history) g.capacity)
    return g.followView atBottom

def checkedRotateUp (g : Grid) (n : Nat) (background : Color) : Option Grid :=
  let n := min n g.rows
  if n = 0 then some g
  else do
    let _ ← sub g.capacity g.rows
    let turned ← iterate (checkedTurn background) n g
    let seen ← turned.checkedFollowView (g.view = g.offset)
    (List.range seen.rows).forM fun row => forget (seen.checkedRow row)
    return seen.markScreenDirty

def checkedScrollUp (g : Grid) (n : Nat) (background : Color) : Option Grid :=
  if g.region.isFull g.rows then g.checkedRotateUp n background
  else g.checkedShiftUp g.region.top g.region.bottom n background

def checkedScrollDown (g : Grid) (n : Nat) (background : Color) : Option Grid :=
  g.checkedShiftDown g.region.top g.region.bottom n background

def checkedInsertLines (g : Grid) (n : Nat) (background : Color) : Option Grid :=
  if g.region.contains g.cursor.row then do
    let shifted ← g.checkedShiftDown g.cursor.row g.region.bottom n background
    return shifted.toFirstColumn
  else some g

def checkedDeleteLines (g : Grid) (n : Nat) (background : Color) : Option Grid :=
  if g.region.contains g.cursor.row then do
    let shifted ← g.checkedShiftUp g.cursor.row g.region.bottom n background
    return shifted.toFirstColumn
  else some g

/-! ## The view -/

def checkedViewDistance (g : Grid) : Option Nat := do
  rem (← sub (← add .usize g.offset g.capacity) g.view) g.capacity

def checkedViewTop (g : Grid) : Option Nat := do
  sub g.history (← g.checkedViewDistance)

def checkedSetView (g : Grid) (view : Nat) : Option Grid := do
  let _ ← rem view g.capacity
  return g.setView view

def checkedViewUp (g : Grid) (n : Nat) : Option Grid := do
  let moved := min n (← g.checkedViewTop)
  if moved = 0 then return g
  else
    let view ← sub (← add .usize g.view g.capacity) moved
    g.checkedSetView (← rem view g.capacity)

def checkedViewDown (g : Grid) (n : Nat) : Option Grid := do
  let moved := min n (← g.checkedViewDistance)
  if moved = 0 then return g
  else g.checkedSetView (← add .usize g.view moved)

def checkedViewToBottom (g : Grid) : Option Grid :=
  if g.viewAtBottom then some g else g.checkedSetView g.offset

/-- The lines above the view are looked at from the nearest on. -/
def checkedPreviousPrompt (g : Grid) : Option Grid := do
  let top ← g.checkedViewTop
  (List.range top).reverse.forM fun line => forget (g.checkedLine? line)
  match g.promptAbove? with
  | none => return g
  | some line => g.checkedViewUp (← sub top line)

def checkedNextPrompt (g : Grid) : Option Grid := do
  let top ← g.checkedViewTop
  let first ← add .usize top 1
  let count ← g.checkedLineCount
  (List.range' first (count - first)).forM fun line => forget (g.checkedLine? line)
  match g.promptBelow? with
  | none => return g
  | some line => g.checkedViewDown (← sub line top)

/-! ## All of it can be computed -/

variable {kind : ScreenKind} {cols rows : Nat} {g : Grid}

theorem checkedClearAll_eq (g : Grid) : g.checkedClearAll = some g.clearAll :=
  bind_eq (forM_eq fun _ hslot => index_of_lt (List.mem_range.1 hslot)) rfl

theorem setView_mod (g : Grid) (view : Nat) : g.setView (view % g.capacity) = g.setView view := by
  rw [setView, setView, Nat.mod_mod]

theorem cols_modifyRow (g : Grid) (row : Nat) (f : Row → Row) : (g.modifyRow row f).cols = g.cols :=
  congrArg Format.cols (format_modifyRow g row f)

theorem cols_write (g : Grid) (row col key width : Nat) (rendition : Rendition) (link : Nat) :
    (g.write row col key width rendition link).cols = g.cols := by
  unfold write
  dsimp only
  generalize (if width ≤ 1 then 1 else 2) = width
  split
  · exact cols_modifyRow ..
  · rfl

namespace InBounds

theorem checkedSetCursor (h : g.InBounds) (row col : Nat) :
    g.checkedSetCursor row col = some (g.setCursor row col) :=
  bind_eq (sub_of_le h.rows_pos) (bind_eq (sub_of_le h.cols_pos) rfl)

theorem checkedEraseInRow (h : g.InBounds) (row first last : Nat) (background : Color) :
    g.checkedEraseInRow row first last background = some (g.eraseInRow row first last background) :=
  h.checkedModifyRow row _ fun _ _ => Row.eraseRangeSteps_eq first last

theorem checkedEraseRow (h : g.InBounds) (background : Color) (row : Nat) :
    checkedEraseRow background g row = some (eraseRow background g row) :=
  h.checkedModifyRow row _ fun _ _ => rfl

theorem checkedEraseRows (h : g.InBounds) (first last : Nat) (background : Color) :
    g.checkedEraseRows first last background = some (g.eraseRows first last background) :=
  bind_eq (forM_eq fun row _ => forget_of_eq (h.checkedRow? row)) rfl

theorem checkedClearWrap (h : g.InBounds) (row : Nat) :
    g.checkedClearWrap row = some (g.clearWrap row) :=
  h.checkedModifyRow row _ fun _ _ => rfl

theorem checkedEraseScrollback (h : g.InBounds) :
    g.checkedEraseScrollback = some g.eraseScrollback := by
  refine bind_eq (forM_eq fun line hline => ?_) rfl
  have lt := List.mem_range.1 hline
  have count : g.history ≤ g.lineCount := Nat.le_add_right _ _
  exact bind_eq (h.checkedSlotOfLine (by omega)) (index_of_lt (h.slot_lt _))

theorem checkedEraseLeft (h : g.InBounds) (background : Color) :
    g.checkedEraseLeft background = some (g.eraseLeft background) := by
  have := h.cursor_col
  have := h.cols_le
  exact bind_eq (add_u16 (by omega)) (h.checkedEraseInRow _ _ _ background)

theorem checkedEraseChars (h : g.InBounds) (n : Nat) (background : Color) :
    g.checkedEraseChars n background = some (g.eraseChars n background) :=
  h.checkedEraseInRow _ _ _ background

theorem checkedFill (h : g.InBounds) (c : Char) : g.checkedFill c = some (g.fill c) :=
  bind_eq (forM_eq fun row _ => forget_of_eq (h.checkedRow? row)) rfl

theorem checkedInsertChars (h : g.InBounds) (n : Nat) (background : Color) :
    g.checkedInsertChars n background = some (g.insertChars n background) :=
  h.checkedModifyRow _ _ fun _ hsize => Row.insertBlanksSteps_eq hsize h.cols_le _ n

theorem checkedDeleteChars (h : g.InBounds) (n : Nat) (background : Color) :
    g.checkedDeleteChars n background = some (g.deleteChars n background) :=
  h.checkedModifyRow _ _ fun _ hsize => Row.deleteCellsSteps_eq hsize _ n

/-- A glyph is only written where it fits. -/
theorem checkedWrite (h : g.InBounds) (row col key width : Nat) (rendition : Rendition)
    (link : Nat) :
    g.checkedWrite row col key width rendition link =
      some (g.write row col key width rendition link) := by
  have hcols := h.cols_le
  unfold Grid.checkedWrite Grid.write
  dsimp only
  generalize (if width ≤ 1 then 1 else 2) = width
  refine bind_eq (when_of_imp fun ⟨hcol, _⟩ => forget_of_eq (add_usize (by omega))) ?_
  split
  · rename_i hfits
    simp only [fits, Bool.and_eq_true, Bool.or_eq_true, decide_eq_true_eq] at hfits
    refine h.checkedModifyRow row _ fun r hsize => Row.writeSteps_eq ?_ (hsize ▸ hcols)
    split <;> omega
  · rfl

theorem checkedCompose (h : g.InBounds) (row col key width : Nat) :
    g.checkedCompose row col key width = some (g.compose row col key width) :=
  bind_eq (h.checkedModifyRow row _ fun _ hsize => Row.composeSteps_eq hsize h.cols_le col width)
    rfl

/-- Every row of the screen has a slot. -/
theorem forM_checkedRow (h : g.InBounds) {l : List Nat} (hl : ∀ row ∈ l, row ≤ g.rows) :
    (l.forM fun row => forget (g.checkedRow row)) = some () := by
  refine forM_eq fun row hrow => ?_
  obtain ⟨r, hr, -⟩ := h.checkedRow_isSome row (hl row hrow)
  exact forget_of_eq hr

theorem checkedSwapRows (h : g.InBounds) {a b : Nat} (ha : a ≤ g.rows) (hb : b ≤ g.rows) :
    g.checkedSwapRows a b = some (g.swapRows a b) :=
  bind_eq (h.checkedSlotOf ha) (bind_eq (h.checkedSlotOf hb)
    (bind_eq (index_of_lt (h.slot_lt _)) (bind_eq (index_of_lt (h.slot_lt _)) rfl)))

theorem checkedModifySlot (h : g.InBounds) {row : Nat} (hrow : row ≤ g.rows) (f : Row → Row) :
    g.checkedModifySlot row f = some { g with slots := g.slots.modify (g.slotOf row) f } :=
  bind_eq (h.checkedSlotOf hrow) (bind_eq (index_of_lt (h.slot_lt _)) rfl)

theorem checkedResetRow (h : g.InBounds) (background : Color) {row : Nat} (hrow : row ≤ g.rows) :
    g.checkedResetRow background row = some (g.resetRow background row) :=
  bind_eq (h.checkedModifySlot hrow _) rfl

theorem checkedMarkRow (h : g.InBounds) {row : Nat} (hrow : row ≤ g.rows) :
    g.checkedMarkRow row = some (g.markRow row) := h.checkedModifySlot hrow _

/-- A loop over rows, each step of which can be computed and leaves the next one possible. -/
theorem foldlM_rows {s : Grid → Nat → Option Grid} {f : Grid → Nat → Grid} {p : Nat → Prop}
    (h : g.InBounds) (hs : ∀ (u : Grid) row, u.InBounds → u.rows = g.rows → p row →
      s u row = some (f u row) ∧ (f u row).InBounds ∧ (f u row).rows = g.rows)
    {l : List Nat} (hl : ∀ row ∈ l, p row) :
    l.foldlM s g = some (l.foldl f g) ∧ (l.foldl f g).InBounds ∧ (l.foldl f g).rows = g.rows := by
  obtain ⟨steps, -, kept⟩ := foldlM_eq
    (fun l (u : Grid) => (∀ row ∈ l, p row) ∧ u.InBounds ∧ u.rows = g.rows)
    (fun u row l ⟨hl, hu, hrows⟩ => by
      obtain ⟨step, kept⟩ := hs u row hu hrows (hl row List.mem_cons_self)
      exact ⟨step, fun row hrow => hl row (List.mem_cons_of_mem _ hrow), kept⟩) ⟨hl, h, rfl⟩
  exact ⟨steps, kept⟩

/-- Rows that are moved, started anew and marked stay in bounds. -/
theorem of_slots (h : g.InBounds) {slots : Array Row} (nextSeq : Nat)
    (hsize : slots.size = g.slots.size) (hrow : ∀ r ∈ slots, r.cells.size = g.cols) :
    InBounds { g with slots := slots, nextSeq := nextSeq } := by
  have capacity : ({ g with slots := slots, nextSeq := nextSeq } : Grid).capacity = g.capacity :=
    hsize
  exact { h with
    capacity_le := capacity ▸ h.capacity_le
    room := capacity ▸ h.room
    offset_lt := capacity ▸ h.offset_lt
    view_lt := capacity ▸ h.view_lt
    view_le := by
      rw [viewDistance, capacity]
      exact h.view_le
    row_size := hrow }

theorem swapRows (h : g.InBounds) (a b : Nat) : (g.swapRows a b).InBounds :=
  h.of_slots _ Array.size_swapIfInBounds fun r hr => h.row_size r ((mem_swapRows ..).1 hr)

theorem resetRow (h : g.InBounds) (background : Color) (row : Nat) :
    (g.resetRow background row).InBounds :=
  h.of_slots _ Array.size_modify (forall_mem_modify (f := (·.reset background _)) h.row_size
    fun r hr => Array.size_replicate.trans (h.row_size r (Array.mem_of_getElem? hr)))

theorem markRow (h : g.InBounds) (row : Nat) : (g.markRow row).InBounds :=
  h.of_slots _ Array.size_modify (forall_mem_modify (f := fun r => { r with dirty := true })
    h.row_size fun r hr => h.row_size r (Array.mem_of_getElem? hr))

theorem checkedResetRows (h : g.InBounds) (background : Color) (first n : Nat)
    (hn : first + n ≤ g.rows) :
    (List.range' first n).foldlM (Grid.checkedResetRow background) g =
        some (g.resetRows first n background) ∧
      (g.resetRows first n background).InBounds ∧
      (g.resetRows first n background).rows = g.rows := by
  refine h.foldlM_rows (p := (· ≤ g.rows)) (fun u row hu hrows hrow => ?_) fun row hrow => ?_
  · exact ⟨hu.checkedResetRow background (by omega), hu.resetRow background row, hrows⟩
  · have := List.mem_range'_1.1 hrow
    omega

theorem checkedMarkRows (h : g.InBounds) {top bottom : Nat} (hbottom : bottom ≤ g.rows) :
    (List.range' top (bottom - top)).foldlM Grid.checkedMarkRow g =
      some (g.markRows top bottom) := by
  refine (h.foldlM_rows (p := (· ≤ g.rows)) (fun u row hu hrows hrow => ?_)
    fun row hrow => ?_).1
  · exact ⟨hu.checkedMarkRow (by omega), hu.markRow row, hrows⟩
  · have := List.mem_range'_1.1 hrow
    omega

theorem checkedShiftUp (h : g.InBounds) (top bottom n : Nat) (background : Color) :
    g.checkedShiftUp top bottom n background = some (g.shiftUp top bottom n background) := by
  have hrows := h.rows_le
  have hbottom : min bottom g.rows ≤ g.rows := Nat.min_le_right ..
  unfold Grid.checkedShiftUp Grid.shiftUp
  dsimp only
  generalize min bottom g.rows = bottom at hbottom ⊢
  split
  · rfl
  · have hn : min n (bottom - top) ≤ bottom - top := Nat.min_le_right ..
    refine bind_eq (sub_of_le (by omega)) (bind_eq (sub_of_le (by omega)) ?_)
    generalize min n (bottom - top) = n at hn ⊢
    obtain ⟨swaps, swapped, rows⟩ := h.foldlM_rows (f := fun g row => g.swapRows row (row + n))
      (p := (· < bottom - n)) (l := List.range' top (bottom - n - top))
      (s := fun g row => do g.checkedSwapRows row (← add .u16 row n))
      (fun u row hu hrows hrow =>
        ⟨bind_eq (add_u16 (by omega)) (hu.checkedSwapRows (by omega) (by omega)),
          hu.swapRows _ _, hrows⟩)
      (fun row hrow => by have := List.mem_range'_1.1 hrow; omega)
    obtain ⟨resets, cleared, rows'⟩ := swapped.checkedResetRows background (bottom - n) n
      (by omega)
    exact bind_eq swaps (bind_eq resets (cleared.checkedMarkRows (by omega)))

theorem checkedShiftDown (h : g.InBounds) (top bottom n : Nat) (background : Color) :
    g.checkedShiftDown top bottom n background = some (g.shiftDown top bottom n background) := by
  have hrows := h.rows_le
  have hbottom : min bottom g.rows ≤ g.rows := Nat.min_le_right ..
  unfold Grid.checkedShiftDown Grid.shiftDown
  dsimp only
  generalize min bottom g.rows = bottom at hbottom ⊢
  split
  · rfl
  · have hn : min n (bottom - top) ≤ bottom - top := Nat.min_le_right ..
    refine bind_eq (sub_of_le (by omega)) ?_
    generalize min n (bottom - top) = n at hn ⊢
    refine bind_eq (add_u16 (by omega)) ?_
    obtain ⟨swaps, swapped, rows⟩ := h.foldlM_rows (f := fun g row => g.swapRows row (row - n))
      (p := fun row => top + n ≤ row ∧ row < bottom)
      (l := (List.range' (top + n) (bottom - (top + n))).reverse)
      (s := fun g row => do g.checkedSwapRows row (← sub row n))
      (fun u row hu hrows hrow =>
        ⟨bind_eq (sub_of_le (by omega)) (hu.checkedSwapRows (by omega) (by omega)),
          hu.swapRows _ _, hrows⟩)
      (fun row hrow => by have := List.mem_range'_1.1 (List.mem_reverse.1 hrow); omega)
    obtain ⟨resets, cleared, rows'⟩ := swapped.checkedResetRows background top n
      (by omega)
    exact bind_eq swaps (bind_eq resets (cleared.checkedMarkRows (by omega)))

theorem checkedScrollDown (h : g.InBounds) (n : Nat) (background : Color) :
    g.checkedScrollDown n background = some (g.scrollDown n background) :=
  h.checkedShiftDown _ _ n background

theorem checkedInsertLines (h : g.InBounds) (n : Nat) (background : Color) :
    g.checkedInsertLines n background = some (g.insertLines n background) := by
  unfold Grid.checkedInsertLines Grid.insertLines
  split
  · exact bind_eq (h.checkedShiftDown _ _ n background) rfl
  · rfl

theorem checkedDeleteLines (h : g.InBounds) (n : Nat) (background : Color) :
    g.checkedDeleteLines n background = some (g.deleteLines n background) := by
  unfold Grid.checkedDeleteLines Grid.deleteLines
  split
  · exact bind_eq (h.checkedShiftUp _ _ n background) rfl
  · rfl

theorem checkedViewDistance (h : g.InBounds) : g.checkedViewDistance = some g.viewDistance := by
  have := h.offset_lt
  have := h.view_lt
  have := h.capacity_le
  refine bind_eq (add_usize (by omega)) (bind_eq (sub_of_le (by omega)) ?_)
  exact rem_of_pos h.capacity_pos

/-- The view is never above the oldest line. -/
theorem checkedViewTop (h : g.InBounds) : g.checkedViewTop = some g.viewTop :=
  bind_eq h.checkedViewDistance (sub_of_le h.view_le)

theorem checkedSetView (h : g.InBounds) (view : Nat) :
    g.checkedSetView view = some (g.setView view) :=
  bind_eq (rem_of_pos h.capacity_pos) rfl

theorem checkedViewUp (h : g.InBounds) (n : Nat) : g.checkedViewUp n = some (g.viewUp n).1 := by
  have := h.view_lt
  have := h.capacity_le
  have := h.room
  have hmoved : min n g.viewTop ≤ g.history := Nat.le_trans (Nat.min_le_right _ _) (Nat.sub_le _ _)
  refine bind_eq h.checkedViewTop ?_
  unfold Grid.viewUp
  dsimp only
  rw [show g.history - g.viewDistance = g.viewTop from rfl]
  split
  · rfl
  · refine bind_eq (add_usize (by omega)) (bind_eq (sub_of_le (by omega)) ?_)
    refine bind_eq (rem_of_pos h.capacity_pos) ?_
    rw [h.checkedSetView, setView_mod]

theorem checkedViewDown (h : g.InBounds) (n : Nat) :
    g.checkedViewDown n = some (g.viewDown n).1 := by
  have := h.view_lt
  have := h.view_le
  have := h.room
  have := h.capacity_le
  refine bind_eq h.checkedViewDistance ?_
  unfold Grid.viewDown
  dsimp only
  split
  · rfl
  · exact bind_eq (add_usize (by omega)) (h.checkedSetView _)

theorem checkedViewToBottom (h : g.InBounds) : g.checkedViewToBottom = some g.viewToBottom := by
  unfold Grid.checkedViewToBottom Grid.viewToBottom
  split
  · rfl
  · exact h.checkedSetView _

theorem checkedPreviousPrompt (h : g.InBounds) :
    g.checkedPreviousPrompt = some g.previousPrompt.1 := by
  refine bind_eq h.checkedViewTop
    (bind_eq (forM_eq fun line _ => forget_of_eq (h.checkedLine? line)) ?_)
  unfold Grid.previousPrompt
  cases hprompt : g.promptAbove? with
  | none => rfl
  | some line =>
    have above := List.mem_of_find?_eq_some hprompt
    rw [List.mem_reverse, List.mem_range] at above
    exact bind_eq (sub_of_le (Nat.le_of_lt above)) (h.checkedViewUp _)

theorem checkedNextPrompt (h : g.InBounds) : g.checkedNextPrompt = some g.nextPrompt.1 := by
  have hroom := h.room
  have hcapacity := h.capacity_le
  have htop : g.viewTop ≤ g.history := Nat.sub_le _ _
  refine bind_eq h.checkedViewTop (bind_eq (add_usize (by omega)) (bind_eq h.checkedLineCount ?_))
  refine bind_eq (forM_eq fun line _ => forget_of_eq (h.checkedLine? line)) ?_
  unfold Grid.nextPrompt
  cases hprompt : g.promptBelow? with
  | none => rfl
  | some line =>
    have below := List.mem_of_find?_eq_some hprompt
    rw [List.mem_range'_1] at below
    exact bind_eq (sub_of_le (by omega)) (h.checkedViewDown _)

/-- A turn looks at the screen only, so it does not matter that it leaves the view behind. -/
theorem checkedTurn (h : g.atScreen.InBounds) (background : Color) :
    checkedTurn background g = some (g.turn background) := by
  have offset : g.offset < g.capacity := h.offset_lt
  have room : g.history + g.rows ≤ g.capacity := h.room
  have capacity : g.capacity ≤ 2 ^ 62 := h.capacity_le
  have rows : 0 < g.rows := h.rows_pos
  have next : (g.offset + 1) % g.capacity < g.capacity := Nat.mod_lt _ (by omega)
  refine bind_eq (add_usize (by omega)) (bind_eq (rem_of_pos (by omega)) ?_)
  refine bind_eq (add_usize (by omega)) (bind_eq (sub_of_le rows) ?_)
  refine bind_eq (add_usize (by omega)) (bind_eq (rem_of_pos (by omega)) ?_)
  exact bind_eq (index_of_lt (Nat.mod_lt _ (by omega))) rfl

theorem checkedFollowView (h : g.atScreen.InBounds) (hview : g.view < g.capacity)
    (atBottom : Bool) : g.checkedFollowView atBottom = some (g.followView atBottom) := by
  have offset : g.offset < g.capacity := h.offset_lt
  have room : g.history + g.rows ≤ g.capacity := h.room
  have capacity : g.capacity ≤ 2 ^ 62 := h.capacity_le
  unfold Grid.checkedFollowView
  split
  · rfl
  · refine bind_eq (add_usize (by omega)) (bind_eq (sub_of_le (by omega)) ?_)
    refine bind_eq (rem_of_pos (by omega)) (bind_eq (when_of_imp fun _ => ?_) rfl)
    refine bind_eq (add_usize (by omega)) (bind_eq (sub_of_le (by omega)) ?_)
    exact forget_of_eq (rem_of_pos (by omega))

end InBounds

/-! ## Operations of several steps -/

theorem format_turn (background : Color) (g : Grid) : (g.turn background).format = g.format := by
  rw [format, capacity_turn]
  rfl

theorem format_followView (g : Grid) (atBottom : Bool) :
    (g.followView atBottom).format = g.format := by
  unfold followView
  split
  · rfl
  · split <;> rfl

namespace Held

theorem checkedEraseRight (h : g.Held kind cols rows) (background : Color) :
    g.checkedEraseRight background = some (g.eraseRight background) := by
  have erased := h.next (h.valid.eraseInRow g.cursor.row g.cursor.col g.cols background)
    (h.valid.inRing.alike.eraseInRow _ _ _ background)
  exact bind_eq (h.inBounds.checkedEraseInRow _ _ _ background) (erased.inBounds.checkedClearWrap _)

theorem eraseRight (h : g.Held kind cols rows) (background : Color) :
    (g.eraseRight background).Held kind cols rows :=
  h.next (h.valid.eraseRight background) (h.valid.inRing.alike.eraseRight background)

theorem eraseRows (h : g.Held kind cols rows) (first last : Nat) (background : Color) :
    (g.eraseRows first last background).Held kind cols rows :=
  h.next (h.valid.eraseRows first last background)
    (h.valid.inRing.alike.eraseRows first last background)

theorem checkedEraseDisplay (h : g.Held kind cols rows) (mode : Nat) (background : Color) :
    g.checkedEraseDisplay mode background = some (g.eraseDisplay mode background) := by
  have hrow := h.inBounds.cursor_row
  have hrows := h.inBounds.rows_le
  unfold Grid.checkedEraseDisplay
  split
  · refine bind_eq (h.checkedEraseRight background) (bind_eq (add_u16 (by omega)) ?_)
    exact bind_eq ((h.eraseRight background).inBounds.checkedEraseRows _ _ background) rfl
  · refine bind_eq (h.inBounds.checkedEraseRows _ _ background) ?_
    exact bind_eq ((h.eraseRows _ _ background).inBounds.checkedEraseLeft background) rfl
  · exact bind_eq (h.inBounds.checkedEraseRows _ _ background) rfl
  · exact bind_eq h.inBounds.checkedEraseScrollback rfl
  · rfl

theorem checkedEraseLine (h : g.Held kind cols rows) (mode : Nat) (background : Color) :
    g.checkedEraseLine mode background = some (g.eraseLine mode background) := by
  unfold Grid.checkedEraseLine
  split
  · exact bind_eq (h.checkedEraseRight background) rfl
  · exact bind_eq (h.inBounds.checkedEraseLeft background) rfl
  · exact bind_eq (h.inBounds.checkedEraseRow background _) rfl
  · rfl

theorem turn (h : g.atScreen.Held kind cols rows) (background : Color) :
    (g.turn background).atScreen.Held kind cols rows where
  valid := h.valid.turn background
  fits := (format_turn background g).symm ▸ h.fits

theorem checkedRotateUp (h : g.Held kind cols rows) (n : Nat) (background : Color) :
    g.checkedRotateUp n background = some (g.rotateUp n background) := by
  have start : g.atScreen.Held kind cols rows := ⟨h.valid.atScreen, h.fits⟩
  have hroom := h.inBounds.room
  unfold Grid.checkedRotateUp Grid.rotateUp
  dsimp only
  split
  · rfl
  · obtain ⟨steps, turned, hview⟩ := iterate_eq
      (fun g : Grid => g.atScreen.Held kind cols rows ∧ g.view < g.capacity)
      (fun g hg => ⟨hg.1.inBounds.checkedTurn background, hg.1.turn background,
        by rw [capacity_turn]; exact hg.2⟩)
      (min n g.rows) ⟨start, h.inBounds.view_lt⟩
    generalize Nat.repeat (Grid.turn background) (min n g.rows) g = g' at steps turned hview
    have seen : (g'.followView (decide (g.view = g.offset))).Held kind cols rows :=
      ⟨turned.valid.followView hview _, (format_followView g' _).symm ▸ turned.fits⟩
    refine bind_eq (sub_of_le (by omega)) (bind_eq steps ?_)
    refine bind_eq (turned.inBounds.checkedFollowView hview _) ?_
    exact bind_eq
      (seen.inBounds.forM_checkedRow fun row hrow => Nat.le_of_lt (List.mem_range.1 hrow)) rfl

theorem checkedScrollUp (h : g.Held kind cols rows) (n : Nat) (background : Color) :
    g.checkedScrollUp n background = some (g.scrollUp n background) := by
  unfold Grid.checkedScrollUp Grid.scrollUp
  split
  · exact h.checkedRotateUp n background
  · exact h.inBounds.checkedShiftUp _ _ n background

end Held

end Teletype.Grid
