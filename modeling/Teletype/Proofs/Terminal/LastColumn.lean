import Teletype.Proofs.Grid.Surgery
import Teletype.Proofs.Terminal.Joins

/-!
# Where the last character ends

As long as nothing happens after a character was printed, its cell tells whether a wrap is pending:
it is, just if the glyph ends in the last column, be it that it was written there or that it grew
into it.
-/

namespace Teletype

/-! ## Rows and grids -/

namespace Row

variable {r : Row} {col : Nat}

/-- A glyph is found where it was written. -/
theorem getElem?_write (hcol : col < r.cells.size) (key width : Nat) (rendition : Rendition)
    (link : Nat) :
    (r.write col key width rendition link).cells[col]? =
      some ⟨key, .ofWidth width, rendition, link⟩ := by
  unfold write
  split
  · rename_i wide
    rw [Array.getElem?_setIfInBounds_ne (by omega),
      Array.getElem?_setIfInBounds_self_of_lt (by simpa using hcol), wide]
  · rw [Array.getElem?_setIfInBounds_self_of_lt (by simpa using hcol)]

/-- A cluster is as wide as the answer says, and not narrower than what it replaces. -/
theorem width_compose {c : Cell} (hc : r.cells[col]? = some c) (hhalf : c.extent ≠ .tail)
    (key width : Nat) : ∃ d, (r.compose col key width).1.cells[col]? = some d ∧
      d.width = (r.compose col key width).2 ∧ c.width ≤ d.width := by
  have inside : col < r.cells.size := (Array.getElem?_eq_some_iff.1 hc).1
  unfold compose
  rw [hc]
  dsimp only
  generalize (decide (2 ≤ width) && decide (col + 1 < r.cells.size)) = grown
  generalize hcells : (if grown && !c.isHead then
    (splitAt r.cells (col + 1)).setIfInBounds (col + 1) (.tail c.rendition c.link) else r.cells) =
      cells
  have size : col < cells.size := by
    rw [← hcells]
    split
    · simpa using inside
    · exact inside
  refine ⟨(cells[col]).setKey key (if c.isHead || grown then 2 else 1), ?_, ?_, ?_⟩
  · rw [Array.getElem?_modify, if_pos rfl, Array.getElem?_eq_getElem size, Option.map_some]
  · split <;> rfl
  · cases hextent : c.extent with
    | tail => exact absurd hextent hhalf
    | head =>
      have head : c.isHead = true := decide_eq_true hextent
      rw [head, Cell.width, hextent]
      exact Nat.le_refl 2
    | narrow =>
      rw [Cell.width, hextent]
      split
      · exact Nat.le_succ 1
      · exact Nat.le_refl 1

/-- Marks do not matter for the width. -/
theorem compose_mark (r : Row) (dirty : Bool) (col key width : Nat) :
    (({ r with dirty := dirty } : Row).compose col key width).2 = (r.compose col key width).2 := by
  unfold compose
  dsimp only
  split <;> rfl

end Row

namespace Grid

/-- The column after the glyph at a place. -/
def glyphEnd? (g : Grid) (row col : Nat) : Option Nat := (g.cell? row col).map (col + ·.width)

variable {kind : ScreenKind} {cols rows : Nat} {g : Grid}

theorem Valid.row?_of_lt (h : g.Valid kind cols rows) {row : Nat} (hrow : row < rows) :
    ∃ r, g.row? row = some r ∧ r.Valid cols := by
  have room := h.room
  have same := h.rows_eq
  have inside : row < g.ring.length := by
    rw [length_ring]
    omega
  refine ⟨g.ring[row], ?_, h.row _ ((mem_ring g).1 (List.getElem_mem inside))⟩
  rw [row?_eq (by omega) (by omega), List.getElem?_eq_getElem inside]

/-- A cell of a row that was changed. -/
theorem Valid.cell?_modifyRow (h : g.Valid kind cols rows) {row : Nat} {r : Row}
    (hr : g.row? row = some r) (f : Row → Row) (col : Nat) :
    (g.modifyRow row f).cell? row col = (f { r with dirty := true }).cells[col]? := by
  have room := h.room
  have same := h.rows_eq
  rw [cell?, (rowBecomes_modifyRow (by omega) hr f).now, Option.bind_some]

/-- A glyph that fits is found where it was written. -/
theorem Valid.cell?_write (h : g.Valid kind cols rows) {row col width : Nat} (hrow : row < rows)
    (hcol : col < cols) (hwidth : width = 1 ∨ width = 2 ∧ col + 1 < cols) (key : Nat)
    (rendition : Rendition)
    (link : Nat) : (g.write row col key width rendition link).cell? row col =
      some ⟨key, .ofWidth width, rendition, link⟩ := by
  obtain ⟨r, hr, valid⟩ := h.row?_of_lt hrow
  have fits : g.fits row col width = true := by
    have height := h.rows_eq
    have width' := h.cols_eq
    simp only [Grid.fits, height, width', Bool.and_eq_true, decide_eq_true_eq]
    exact ⟨⟨hrow, hcol⟩, by rcases hwidth with rfl | ⟨rfl, room⟩ <;> simp_all⟩
  have taken : (if width ≤ 1 then 1 else 2) = width := by
    rcases hwidth with rfl | ⟨rfl, -⟩ <;> rfl
  unfold Grid.write
  rw [taken, if_pos fits, h.cell?_modifyRow hr]
  exact Row.getElem?_write (r := { r with dirty := true })
    (show col < r.cells.size by rwa [valid.size]) ..

/-- A cell that names a glyph is not a right half. -/
theorem Valid.extent_ne_tail (h : g.Valid kind cols rows) {row col : Nat} {c : Cell}
    (hc : g.cell? row col = some c) (hkey : c.key ≠ 0) : c.extent ≠ .tail := by
  obtain ⟨r, hr, hcell⟩ := Option.bind_eq_some_iff.1 hc
  have inside : r ∈ g.slots := by
    rw [row?, if_pos (lt_of_row? hr)] at hr
    exact Array.mem_of_getElem? hr
  exact fun htail => hkey ((h.row r inside).tail_key c (Array.mem_of_getElem? hcell) htail)

theorem Valid.glyphEnd?_compose (h : g.Valid kind cols rows) {row col : Nat} {c : Cell}
    (hc : g.cell? row col = some c) (hkey : c.key ≠ 0) (key width : Nat) :
    (g.compose row col key width).1.glyphEnd? row col =
      some (col + (g.compose row col key width).2) ∧ c.width ≤ (g.compose row col key width).2 := by
  obtain ⟨r, hr, hcell⟩ := Option.bind_eq_some_iff.1 hc
  obtain ⟨d, composed, applied, wider⟩ :=
    Row.width_compose (r := { r with dirty := true }) hcell (h.extent_ne_tail hc hkey) key width
  unfold Grid.compose
  rw [hr, glyphEnd?, h.cell?_modifyRow hr, composed, ← r.compose_mark true, ← applied]
  exact ⟨rfl, wider⟩

/-! ### Views and marks -/

section

variable (g : Grid)

/-- Marks do not matter, and neither does the view. -/
theorem cell?_map_slots {f : Row → Row} (hf : ∀ r, (f r).cells = r.cells) (view row col : Nat) :
    ({ g with slots := g.slots.map f, view := view } : Grid).cell? row col = g.cell? row col := by
  have slot : ({ g with slots := g.slots.map f, view := view } : Grid).slotOf row =
      g.slotOf row := by
    rw [slotOf, capacity, Array.size_map]
    rfl
  unfold cell? row?
  rw [slot]
  dsimp only
  split
  · rw [Array.getElem?_map]
    cases g.slots[g.slotOf row]? with
    | none => rfl
    | some r =>
      rw [Option.map_some, Option.bind_some, Option.bind_some, hf]
  · rfl

theorem cell?_clearDirty (row col : Nat) : g.clearDirty.cell? row col = g.cell? row col :=
  g.cell?_map_slots (f := fun r => { r with dirty := false }) (fun _ => rfl) g.view row col

theorem cell?_setView (view row col : Nat) : (g.setView view).cell? row col = g.cell? row col :=
  g.cell?_map_slots (f := fun r => { r with dirty := true }) (fun _ => rfl)
    (view % g.capacity) row col

theorem cell?_viewUp (n row col : Nat) : (g.viewUp n).1.cell? row col = g.cell? row col := by
  unfold viewUp
  dsimp only
  split
  · rfl
  · exact g.cell?_setView ..

theorem cell?_viewDown (n row col : Nat) : (g.viewDown n).1.cell? row col = g.cell? row col := by
  unfold viewDown
  dsimp only
  split
  · rfl
  · exact g.cell?_setView ..

theorem cell?_viewToBottom (row col : Nat) : g.viewToBottom.cell? row col = g.cell? row col := by
  unfold viewToBottom
  split
  · rfl
  · exact g.cell?_setView ..

theorem cell?_previousPrompt (row col : Nat) :
    g.previousPrompt.1.cell? row col = g.cell? row col := by
  unfold previousPrompt
  split
  · rfl
  · exact g.cell?_viewUp ..

theorem cell?_nextPrompt (row col : Nat) : g.nextPrompt.1.cell? row col = g.cell? row col := by
  unfold nextPrompt
  split
  · rfl
  · exact g.cell?_viewDown ..

end

end Grid

namespace Terminal

/-! ## Terminals -/

/-- The character that was printed last, if nothing happened since, ends in the last column. -/
def fillsRow (t : Terminal) : Bool :=
  t.composeAt.any fun place => (t.grid.glyphEnd? place.1 place.2).any (t.grid.cols ≤ ·)

/-- If nothing happened since a character was printed, a wrap is pending just if that one ends in
the last column. -/
def Arrived (t : Terminal) : Prop :=
  ∀ place ∈ t.composeAt, ∃ next, t.grid.glyphEnd? place.1 place.2 = some next ∧
    t.cursor.pendingWrap = decide (t.grid.cols ≤ next)

variable {t t' : Terminal} {cols rows : Nat}

theorem arrived_of_none (h : t.composeAt = none) : t.Arrived := fun place hplace =>
  absurd (h ▸ hplace) (Option.not_mem_none place)

/-- Right after a character was printed, a wrap is pending just if that character fills the row. -/
theorem Arrived.fillsRow (h : t.Arrived) {place : Nat × Nat} (hat : t.composeAt = some place) :
    t.fillsRow = t.cursor.pendingWrap := by
  obtain ⟨next, hnext, pending⟩ := h place hat
  rw [Terminal.fillsRow, hat, Option.any_some, hnext, Option.any_some, pending]

theorem pendingWrap_cursorAfter (row next cols : Nat) :
    (cursorAfter row next cols).pendingWrap = decide (cols ≤ next) := by
  unfold cursorAfter
  split
  · rename_i full
    exact (decide_eq_true full).symm
  · rename_i room
    exact (decide_eq_false room).symm

/-- A glyph is placed in the cursor's row, and the cursor goes behind it. -/
theorem Valid.placed (h : t.Valid cols rows) (c : Char) {width col : Nat} (hcol : col < cols)
    (hwidth : width = 1 ∨ width = 2 ∧ col + 1 < cols) :
    (t.placeGlyph c width col).grid.cell? t.cursor.row col =
        some ⟨c.toNat, .ofWidth width, t.rendition, t.link⟩ ∧
      (t.placeGlyph c width col).cursor =
        cursorAfter t.cursor.row (col + width) (t.placeGlyph c width col).grid.cols := by
  obtain ⟨g', cursor, hg', pushed⟩ := h.pushed width col
  have placed : (t.placeGlyph c width col).grid =
      { g'.write t.cursor.row col c.toNat width t.rendition t.link with
        cursor := cursorAfter t.cursor.row (col + width)
          (g'.write t.cursor.row col c.toNat width t.rendition t.link).cols } := by
    unfold Terminal.placeGlyph
    rw [grid_modifyGrid]
    dsimp only
    rw [pushed, write_cursor]
    rfl
  unfold Terminal.cursor
  rw [placed]
  exact ⟨hg'.cell?_write h.cursor_row hcol hwidth c.toNat t.rendition t.link, rfl⟩

theorem Arrived.printGlyph (h : t.Arrived) (hv : t.Valid cols rows) (c : Char) {width : Nat}
    (hwidth : width = 1 ∨ width = 2) : (t.printGlyph c width).Arrived := by
  unfold Terminal.printGlyph
  split
  · exact h
  · rename_i fits
    have wide : width = 2 → 2 ≤ cols := fun hw => by
      have room := hv.grid.cols_eq
      simp only [hw, decide_true, Bool.true_and, decide_eq_true_eq] at fits
      omega
    obtain ⟨inside, room⟩ := hv.makeRoom_fits (by omega) wide
    have made := hv.makeRoom width
    generalize t.makeRoom width = r at inside room made ⊢
    obtain ⟨u, col⟩ := r
    intro place hplace
    obtain rfl := Option.some.inj hplace
    have fitting : width = 1 ∨ width = 2 ∧ col + 1 < cols := by
      dsimp only at room
      omega
    obtain ⟨written, behind⟩ := made.placed c inside fitting
    have ends : (u.placeGlyph c width col).grid.glyphEnd? u.cursor.row col =
        some (col + width) := by
      rw [Grid.glyphEnd?, written, Option.map_some]
      rcases hwidth with rfl | rfl <;> rfl
    have pending : (u.placeGlyph c width col).cursor.pendingWrap =
        decide ((u.placeGlyph c width col).grid.cols ≤ col + width) := by
      rw [behind]
      exact pendingWrap_cursorAfter ..
    exact ⟨_, ends, pending⟩

/-- A glyph that grows takes the cursor with it. -/
theorem arrived_composeGrid {g : Grid} {kind : ScreenKind} (hg : g.Valid kind cols rows)
    {row col : Nat} {cell : Cell} (hcell : g.cell? row col = some cell) (hkey : cell.key ≠ 0)
    (hpending : g.cursor.pendingWrap = decide (g.cols ≤ col + cell.width)) (glyph : Glyph) :
    ∃ next, (composeGrid g row col cell.width glyph).glyphEnd? row col = some next ∧
      (composeGrid g row col cell.width glyph).cursor.pendingWrap =
        decide ((composeGrid g row col cell.width glyph).cols ≤ next) := by
  obtain ⟨composed, wider⟩ := hg.glyphEnd?_compose hcell hkey glyph.key glyph.width
  have same : (g.compose row col glyph.key glyph.width).1.bearings = g.bearings :=
    g.bearings_compose ..
  unfold composeGrid
  generalize g.compose row col glyph.key glyph.width = r at composed wider same ⊢
  obtain ⟨g', applied⟩ := r
  have cursor : g'.cursor = g.cursor := congrArg Grid.Bearings.cursor same
  have width : g'.cols = g.cols := congrArg Grid.Bearings.cols same
  dsimp only at composed wider ⊢
  rw [← cursor, ← width] at hpending
  split
  · split
    · exact ⟨_, composed, pendingWrap_cursorAfter ..⟩
    · -- the cursor was beyond the glyph as it is now
      rename_i beyond
      simp only [Bool.or_eq_true, decide_eq_true_eq, not_or] at beyond
      refine ⟨_, composed, hpending.trans ?_⟩
      rw [decide_eq_false (by omega), decide_eq_false beyond.1]
  · have same : applied = cell.width := by omega
    exact ⟨_, composed, same ▸ hpending⟩

theorem Arrived.compose (h : t.Arrived) (hv : t.Valid cols rows) {row col : Nat}
    (hat : t.composeAt = some (row, col))
    (hkey : ∀ cell, t.grid.cell? row col = some cell → cell.key ≠ 0)
    (c : Char) : (t.compose row col c).Arrived := by
  unfold Terminal.compose
  cases hcell : t.grid.cell? row col with
  | none => exact h
  | some cell =>
    dsimp only
    split
    · exact h
    · rename_i glyph _
      intro place hplace
      obtain ⟨next, hnext, pending⟩ := h _ hat
      rw [composeAt_modifyGrid] at hplace
      obtain rfl : place = (row, col) := Option.some.inj (hplace.symm.trans hat)
      unfold Terminal.cursor
      rw [grid_modifyGrid]
      have ends : next = col + cell.width := by
        rw [Grid.glyphEnd?, hcell, Option.map_some] at hnext
        exact (Option.some.inj hnext).symm
      exact arrived_composeGrid hv.grid hcell (hkey cell hcell) (ends ▸ pending) glyph

theorem width_of_ne_zero {c : Char} (h : Text.displayWidth c ≠ 0) :
    Text.displayWidth c = 1 ∨ Text.displayWidth c = 2 := by
  have most := Text.displayWidth_le_two c
  omega

theorem Arrived.print (h : t.Arrived) (hv : t.Valid cols rows) (c : Char) :
    (t.print c).Arrived := by
  have shifted : ({ t with charsets := (t.charsets.translate c).1 } : Terminal).Valid cols rows :=
    hv.of_alters (t.alters_charsets _) rfl
  rcases t.print_cases c with
    ⟨row, col, c', hat, hattaches, printed⟩ | printed | ⟨c', hwidth, printed⟩
  · exact printed ▸ Arrived.compose (t := { t with charsets := (t.charsets.translate c).1 })
      h shifted hat (fun _ hcell => key_of_attaches hattaches hcell) c'
  · exact printed ▸ h
  · exact printed ▸
      Arrived.printGlyph (t := { t with charsets := (t.charsets.translate c).1 }) h shifted c'
        (width_of_ne_zero hwidth)

theorem Arrived.repeatLast (h : t.Arrived) (hv : t.Valid cols rows) (n : Nat) :
    (t.repeatLast n).Arrived :=
  (repeatLast_induction (p := fun u => u.Arrived ∧ u.Valid cols rows)
    (fun _ c hwidth hu => ⟨hu.1.printGlyph hu.2 c (width_of_ne_zero hwidth), hu.2.printGlyph c _⟩)
    ⟨h, hv⟩ n).1

/-! ## Output and hosts -/

theorem arrived_run (hv : t.Valid cols rows) (h : t.composeAt = none) (now : Instant)
    (command : Command) : (t.run now command).Arrived := by
  cases command with
  | repeatLast n => exact (arrived_of_none h).repeatLast hv n
  | _ => exact arrived_of_none (((t.alters_run now _).kept .composeAt rfl).trans h)

/-- What was printed last is forgotten by everything but printing. -/
theorem Arrived.perform (h : t.Arrived) (hv : t.Valid cols rows) (now : Instant)
    (action : Control.Action) : (perform now t action).Arrived := by
  have apart : ({ t with composeAt := none } : Terminal).Valid cols rows :=
    hv.of_alters (t.alters_composeAt none) rfl
  cases action with
  | print c => exact h.print hv c
  | execute byte => exact arrived_run apart rfl now _
  | escape s => exact arrived_run apart rfl now _
  | control s => exact arrived_run apart rfl now _
  | command data bell => exact arrived_of_none ((alters_operate _ data bell).kept .composeAt rfl)
  | imageStart | imageData | imageEnd => exact arrived_of_none rfl
  | request r => exact arrived_of_none ((alters_serve _ now r).kept .composeAt rfl)

theorem Arrived.feed (h : t.Arrived) (hv : t.Valid cols rows) (bytes : List UInt8) (now : Instant) :
    (t.feed bytes now).Arrived := by
  have read : (t.reading bytes).Arrived ∧ (t.reading bytes).Valid cols rows :=
    ⟨h, hv.of_alters (t.alters_reading bytes) rfl⟩
  have fed : (t.feed bytes now).Arrived ∧ (t.feed bytes now).Valid cols rows := feed_induction
    (p := fun u => u.Arrived ∧ u.Valid cols rows) read
    (fun _ ⟨hu, hv⟩ action _ => ⟨hu.perform hv now action, hv.perform now action⟩)
    fun _ _ ⟨hu, hv⟩ => ⟨hu, hv.of_alters (alters_schedule ..) rfl⟩
  exact fed.1

theorem Arrived.modifyGrid (h : t.Arrived) {f : Grid → Grid}
    (hcell : ∀ g row col, (f g).cell? row col = Grid.cell? g row col)
    (hbearings : ∀ g, (f g).bearings = g.bearings) : (t.modifyGrid f).Arrived := by
  intro place hat
  obtain ⟨next, hnext, pending⟩ := h place (composeAt_modifyGrid t f ▸ hat)
  have cursor : (f t.grid).cursor = t.grid.cursor := congrArg Grid.Bearings.cursor (hbearings _)
  have cols : (f t.grid).cols = t.grid.cols := congrArg Grid.Bearings.cols (hbearings _)
  refine ⟨next, ?_, ?_⟩
  · rw [Grid.glyphEnd?, grid_modifyGrid, hcell]
    exact hnext
  · rw [Terminal.cursor, grid_modifyGrid, cursor, cols]
    exact pending

/-- A host does not move what was printed. -/
theorem Arrived.apply (h : t.Arrived) (hv : t.Valid cols rows) (action : HostAction) :
    (action.apply t).Arrived := by
  cases action with
  | feed bytes now => exact h.feed hv bytes now
  | resize cols rows =>
    show (t.resize cols rows).Arrived
    unfold Terminal.resize
    dsimp only
    split
    · exact h
    · exact arrived_of_none (composeAt_modifyGrid ..)
  | viewUp n => exact h.modifyGrid (fun g => g.cell?_viewUp n) fun g => g.bearings_viewUp n
  | viewDown n => exact h.modifyGrid (fun g => g.cell?_viewDown n) fun g => g.bearings_viewDown n
  | viewToBottom => exact h.modifyGrid Grid.cell?_viewToBottom Grid.bearings_viewToBottom
  | previousPrompt => exact h.modifyGrid Grid.cell?_previousPrompt Grid.bearings_previousPrompt
  | nextPrompt => exact h.modifyGrid Grid.cell?_nextPrompt Grid.bearings_nextPrompt
  | clearDirty => exact h.modifyGrid Grid.cell?_clearDirty fun _ => rfl
  | poll | requestImmediate | setClipboard | startImages | takeReplies | takeEvents | takeReports
  | takeImages =>
    exact h

end Terminal

end Teletype
