import Teletype.Proofs.Grid.Rows
import Teletype.Proofs.Row.Surgery

/-!
# Editing the row at the cursor

The editing functions cut and join the cells of the cursor's row as lists. No other line of the
screen or the scrollback changes, nor does anything else of the grid.
-/

namespace Teletype.Grid

open Row (Whole inserted deleted erased)

/-- A row of the screen became `r`, and all else is as it was. -/
structure RowBecomes (g g' : Grid) (row : Nat) (r : Row) : Prop where
  now : g'.row? row = some r
  others : ∀ line, line ≠ g.history + row → g'.line? line = g.line? line
  capacity : g'.capacity = g.capacity
  rest : g' = { g with slots := g'.slots }

section

variable {g g' g'' : Grid} {row : Nat} {r r' : Row}

theorem lt_of_row? (h : g.row? row = some r) : row < g.rows := by
  by_contra hout
  rw [row?, if_neg hout] at h
  cases h

theorem RowBecomes.room (h : RowBecomes g g' row r) (hroom : g.history + g.rows ≤ g.capacity) :
    g'.history + g'.rows ≤ g'.capacity := by
  rw [h.capacity, h.rest]
  exact hroom

theorem RowBecomes.trans (h : RowBecomes g g' row r) (h' : RowBecomes g' g'' row r') :
    RowBecomes g g'' row r' where
  now := h'.now
  others := by
    have history : g'.history = g.history := by rw [h.rest]
    intro line hline
    rw [h'.others line (by rwa [history]), h.others line hline]
  capacity := h'.capacity.trans h.capacity
  rest := by
    rw [h'.rest, h.rest]

theorem rowBecomes_modifyRow (hroom : g.history + g.rows ≤ g.capacity) (hr : g.row? row = some r)
    (f : Row → Row) : RowBecomes g (g.modifyRow row f) row (f { r with dirty := true }) := by
  have hrow := lt_of_row? hr
  have fits : g.rows ≤ g.capacity := by omega
  have ring := ring_modifyRow fits hrow f
  have capacity := capacity_modifyRow (g := g) row f
  have rest : g.modifyRow row f = { g with slots := (g.modifyRow row f).slots } := by
    unfold modifyRow
    rw [if_pos hrow]
  have rows : (g.modifyRow row f).rows = g.rows := by rw [rest]
  have history : (g.modifyRow row f).history = g.history := by rw [rest]
  refine ⟨?_, fun line hline => ?_, capacity, rest⟩
  · rw [row?_eq (by omega) (by omega), ring, List.getElem?_modify_eq, ← row?_eq fits hrow, hr]
    rfl
  · by_cases habove : line < g.history
    · rw [line?_eq_of_lt (by omega) (by omega), line?_eq_of_lt (by omega) habove, capacity,
        history, ring, List.getElem?_modify_ne _ _ (by omega)]
    · obtain ⟨other, rfl⟩ := Nat.exists_eq_add_of_le (Nat.le_of_not_lt habove)
      have apart : other ≠ row := fun h => hline (congrArg (g.history + ·) h)
      have line := line?_eq_row? (g := g.modifyRow row f) (by omega) other
      rw [history] at line
      rw [line, line?_eq_row? (by omega)]
      by_cases hother : other < g.rows
      · rw [row?_eq (by omega) (by omega), row?_eq fits hother, ring,
          List.getElem?_modify_ne _ _ apart.symm]
      · rw [row?, row?, if_neg (by omega), if_neg hother]

end

/-! ## The editing functions -/

section

variable {g : Grid} {r : Row} {n : Nat} (hroom : g.history + g.rows ≤ g.capacity)
  (hr : g.row? g.cursor.row = some r) (background : Color)

include hroom hr

theorem rowBecomes_eraseInRow (hwhole : Whole r.cells) {first last : Nat} (hfirst : first < last)
    (hlast : last ≤ r.cells.size) :
    RowBecomes g (g.eraseInRow g.cursor.row first last background) g.cursor.row
      { r with cells := (erased r.cells.toList first last background).toArray, dirty := true } := by
  have becomes := rowBecomes_modifyRow hroom hr (·.eraseRange first last background)
  rw [Row.eraseRange_eq (r := { r with dirty := true }) (Row.whole_iff_paired.1 hwhole) hfirst
    hlast] at becomes
  exact becomes

theorem rowBecomes_insertChars (hwhole : Whole r.cells) (hcol : g.cursor.col < r.cells.size)
    (hn : 1 ≤ n) : RowBecomes g (g.insertChars n background) g.cursor.row
      { r with
        cells := (inserted r.cells.toList g.cursor.col n background).toArray
        dirty := true } := by
  have becomes := rowBecomes_modifyRow hroom hr (·.insertBlanks g.cursor.col n background)
  rw [Row.insertBlanks_eq (r := { r with dirty := true }) (Row.whole_iff_paired.1 hwhole) hcol hn]
    at becomes
  exact becomes

theorem rowBecomes_deleteChars (hwhole : Whole r.cells) (hcol : g.cursor.col < r.cells.size)
    (hn : 1 ≤ n) : RowBecomes g (g.deleteChars n background) g.cursor.row
      { r with
        cells := (deleted r.cells.toList g.cursor.col n background).toArray
        dirty := true } := by
  have becomes := rowBecomes_modifyRow hroom hr (·.deleteCells g.cursor.col n background)
  rw [Row.deleteCells_eq (r := { r with dirty := true }) (Row.whole_iff_paired.1 hwhole) hcol hn]
    at becomes
  exact becomes

/-- Erasing to the end of the row also ends its text there. -/
theorem rowBecomes_eraseRight (hwhole : Whole r.cells) (hsize : r.cells.size = g.cols)
    (hcol : g.cursor.col < g.cols) :
    RowBecomes g (g.eraseRight background) g.cursor.row
      { r with
        cells := (erased r.cells.toList g.cursor.col g.cols background).toArray, dirty := true,
          wrapped := false } := by
  have becomes := rowBecomes_eraseInRow hroom hr background hwhole hcol (Nat.le_of_eq hsize.symm)
  exact becomes.trans
    (rowBecomes_modifyRow (becomes.room hroom) becomes.now ({ · with wrapped := false }))

/-- Erasing the whole row starts it anew, but for its number. -/
theorem rowBecomes_eraseRow (hsize : r.cells.size = g.cols) :
    RowBecomes g (eraseRow background g g.cursor.row) g.cursor.row
      { r with
        cells := (erased r.cells.toList 0 g.cols background).toArray
        dirty := true
        prompt := false
        wrapped := false } := by
  have becomes := rowBecomes_modifyRow hroom hr fun r => r.reset background r.seq
  have blanks : (erased r.cells.toList 0 g.cols background).toArray =
      Array.replicate r.cells.size (.blank background) := by
    have all : r.cells.toList.drop g.cols = [] :=
      List.drop_eq_nil_iff.2 (by rw [← hsize, Array.length_toList])
    rw [← Array.toList_inj, Array.toList_replicate, erased, all, hsize]
    simp [Row.mend_nil]
  rw [blanks]
  exact becomes

/-- Editing the row of the cursor is list surgery, and the row stays as long. -/
theorem edits_are_surgery (hwhole : Whole r.cells) (hsize : r.cells.size = g.cols)
    (hcol : g.cursor.col < g.cols) (hn : 1 ≤ n) (background : Color) :
    let cells := r.cells.toList
    let col := g.cursor.col
    let last := col + min n (g.cols - col)
    RowBecomes g (g.insertChars n background) g.cursor.row
        { r with cells := (inserted cells col n background).toArray, dirty := true } ∧
      RowBecomes g (g.deleteChars n background) g.cursor.row
        { r with cells := (deleted cells col n background).toArray, dirty := true } ∧
      RowBecomes g (g.eraseChars n background) g.cursor.row
        { r with cells := (erased cells col last background).toArray, dirty := true } ∧
      RowBecomes g (g.eraseLine 0 background).value g.cursor.row
        { r with
          cells := (erased cells col g.cols background).toArray
          dirty := true
          wrapped := false } ∧
      RowBecomes g (g.eraseLine 1 background).value g.cursor.row
        { r with cells := (erased cells 0 (col + 1) background).toArray, dirty := true } ∧
      RowBecomes g (g.eraseLine 2 background).value g.cursor.row
        { r with
          cells := (erased cells 0 g.cols background).toArray
          dirty := true
          prompt := false
          wrapped := false } ∧
      ∀ edited ∈ [inserted cells col n background, deleted cells col n background,
        erased cells col last background, erased cells col g.cols background,
        erased cells 0 (col + 1) background, erased cells 0 g.cols background],
        edited.length = cells.length := by
  intro cells col last
  have hcol' : g.cursor.col < r.cells.size := hsize ▸ hcol
  have length : cells.length = g.cols := hsize
  have hlast : last = min (g.cursor.col + max n 1) g.cols := by omega
  refine ⟨rowBecomes_insertChars hroom hr background hwhole hcol' hn,
    rowBecomes_deleteChars hroom hr background hwhole hcol' hn, ?_,
    rowBecomes_eraseRight hroom hr background hwhole hsize hcol,
    rowBecomes_eraseInRow hroom hr background hwhole (Nat.succ_pos _) hcol',
    rowBecomes_eraseRow hroom hr background hsize, ?_⟩
  · rw [hlast]
    exact rowBecomes_eraseInRow hroom hr background hwhole (by omega) (by omega)
  · simp only [List.forall_mem_cons]
    exact ⟨Row.length_inserted (by omega), Row.length_deleted (by omega),
      Row.length_erased (by omega) (by omega), Row.length_erased (by omega) (by omega),
      Row.length_erased (by omega) (by omega),
      Row.length_erased (by omega) (by omega), List.forall_mem_nil _⟩

end

/-- Two glyphs of two columns after a blank, with the cursor on the right half of the first one. -/
def insideGlyph : Grid :=
  ((((new .primary 5 2 0).write 0 1 0x4e00 2 {} 0).write 0 3 0x4e8c 2 {} 0).setCursor 0 2)

/-- The row of the two glyphs. -/
def glyphRow : Row where
  cells := #[{}, ⟨0x4e00, .head, {}, 0⟩, .tail {} 0, ⟨0x4e8c, .head, {}, 0⟩, .tail {} 0]
  seq := 0

theorem edits_are_surgery_insideGlyph :
    insideGlyph.history + insideGlyph.rows ≤ insideGlyph.capacity ∧
      insideGlyph.row? insideGlyph.cursor.row = some glyphRow ∧ Whole glyphRow.cells ∧
      glyphRow.cells.size = insideGlyph.cols ∧ insideGlyph.cursor.col < insideGlyph.cols ∧
      RowBecomes insideGlyph (insideGlyph.insertChars 1 .default) 0
        { glyphRow with cells := Array.replicate 5 {}, dirty := true } := by
  have room : insideGlyph.history + insideGlyph.rows ≤ insideGlyph.capacity := by decide +kernel
  have row : insideGlyph.row? insideGlyph.cursor.row = some glyphRow := by decide +kernel
  have whole : Whole glyphRow.cells :=
    Row.whole_iff_glyphs.2 (.narrow rfl (.wide rfl rfl (.wide rfl rfl .nil)))
  have size : glyphRow.cells.size = insideGlyph.cols := by decide +kernel
  have col : insideGlyph.cursor.col < insideGlyph.cols := by decide +kernel
  have becomes := (edits_are_surgery room row whole size col (Nat.le_refl 1) .default).1
  have cells : (inserted glyphRow.cells.toList insideGlyph.cursor.col 1 .default).toArray =
      Array.replicate 5 {} := by
    decide +kernel
  rw [cells] at becomes
  exact ⟨room, row, whole, size, col, becomes⟩

end Teletype.Grid
