import Teletype.Grid.Edit
import Teletype.Proofs.Grid.Sheet
import Teletype.Proofs.Grid.Valid

/-!
# Edits of rows

What an edit of one row of the screen does to the lines: that row changes, and no other line does.
-/

namespace Teletype

namespace Grid

variable {g : Grid}

/-- The lines of a grid, one after the other. -/
theorem map_line_lines (hroom : g.history ≤ g.capacity) : g.lines.map Row.line = g.sheet.lines := by
  have below : (List.range g.rows).filterMap (g.line? ∘ (g.history + ·)) =
      (List.range g.rows).filterMap g.row? :=
    List.filterMap_congr fun row _ => line?_eq_row? hroom row
  rw [Grid.lines, lineCount, List.range_add, List.filterMap_append, List.map_append,
    List.filterMap_map, below]
  rfl

theorem ring_modifyRow (hroom : g.rows ≤ g.capacity) {row : Nat} (hrow : row < g.rows)
    (f : Row → Row) :
    (g.modifyRow row f).ring = g.ring.modify row fun r => f { r with dirty := true } := by
  unfold modifyRow
  rw [if_pos hrow]
  exact rotate_modify_slots g.slots g.offset (Nat.lt_of_lt_of_le hrow hroom) _

theorem capacity_modifyRow (row : Nat) (f : Row → Row) :
    (g.modifyRow row f).capacity = g.capacity := by
  unfold modifyRow
  split
  · exact Array.size_modify
  · rfl

theorem map_modify {α β : Type} {f : α → α} {f' : β → β} {p : α → β} (h : ∀ a, p (f a) = f' (p a))
    (i : Nat) (l : List α) : (l.modify i f).map p = (l.map p).modify i f' := by
  apply List.ext_getElem?
  intro j
  rw [List.getElem?_map, List.getElem?_modify, List.getElem?_modify, List.getElem?_map]
  cases l[j]? with
  | none => rfl
  | some a =>
    by_cases hij : i = j
    · simp [hij, h]
    · simp [hij]

/-- An edit of a row that depends on what is seen of it changes one line of the screen. -/
theorem sheet_modifyRow (hroom : g.history + g.rows ≤ g.capacity) {row : Nat} (hrow : row < g.rows)
    {f : Row → Row} {k : Line → Line}
    (hf : ∀ r : Row, (f { r with dirty := true }).line = k r.line) :
    (g.modifyRow row f).sheet = { g.sheet with screen := g.sheet.screen.modify row k } := by
  have fits : g.rows ≤ g.capacity := by omega
  have capacity := capacity_modifyRow (g := g) row f
  have ring := ring_modifyRow fits hrow f
  have keeps : (g.modifyRow row f).rows = g.rows ∧ (g.modifyRow row f).cols = g.cols ∧
      (g.modifyRow row f).history = g.history ∧ (g.modifyRow row f).region = g.region ∧
      (g.modifyRow row f).cursor = g.cursor := by
    unfold modifyRow
    rw [if_pos hrow]
    exact ⟨rfl, rfl, rfl, rfl, rfl⟩
  obtain ⟨hrows, hcols, hhistory, hregion, hcursor⟩ := keeps
  apply Sheet.ext
  · exact hcols
  · show (g.modifyRow row f).capacity - (g.modifyRow row f).rows = g.capacity - g.rows
    rw [capacity, hrows]
  · show (g.modifyRow row f).sheet.history = g.sheet.history
    have above : row < g.capacity - g.history := by omega
    rw [sheet_history (by rw [hhistory, capacity]; omega), sheet_history (by omega), capacity,
      hhistory, ring, List.drop_modify_of_lt _ _ _ _ above]
  · show (g.modifyRow row f).sheet.screen = g.sheet.screen.modify row k
    rw [sheet_screen (by rw [hrows, capacity]; omega), sheet_screen fits, hrows, ring,
      List.take_modify, map_modify hf]
  · exact hregion
  · exact congrArg Cursor.row hcursor

end Grid

/-- A line as it is after it was erased. -/
def Line.erased (background : Color) (l : Line) : Line :=
  ⟨Array.replicate l.cells.size (.blank background), false, false⟩

namespace Grid

variable {g : Grid}

theorem sheet_eraseRow (hroom : g.history + g.rows ≤ g.capacity) {row : Nat} (hrow : row < g.rows)
    (background : Color) :
    (eraseRow background g row).sheet =
      { g.sheet with screen := g.sheet.screen.modify row (Line.erased background) } :=
  sheet_modifyRow hroom hrow fun _ => rfl

/-- Erasing one row after the other erases them all. -/
theorem sheet_foldl_eraseRow (hroom : g.history + g.rows ≤ g.capacity) {n : Nat} (hn : n ≤ g.rows)
    (background : Color) :
    let erased := (List.range n).foldl (eraseRow background) g
    erased.history = g.history ∧ erased.rows = g.rows ∧ erased.capacity = g.capacity ∧
      erased.sheet = { g.sheet with
        screen := g.sheet.screen.mapIdx fun row l => if row < n then l.erased background
          else l } := by
  induction n with
  | zero =>
    refine ⟨rfl, rfl, rfl, Sheet.ext rfl rfl rfl ?_ rfl rfl⟩
    exact List.ext_getElem (by simp) fun _ _ _ => by simp
  | succ n ih =>
    obtain ⟨hhistory, hrows, hcapacity, hsheet⟩ := ih (by omega)
    simp only [List.range_succ, List.foldl_append, List.foldl_cons, List.foldl_nil]
    generalize (List.range n).foldl (eraseRow background) g = g' at hhistory hrows hcapacity hsheet
    have room : g'.history + g'.rows ≤ g'.capacity := by omega
    have next := sheet_eraseRow room (show n < g'.rows by omega) background
    have keeps : (eraseRow background g' n).history = g'.history ∧
        (eraseRow background g' n).rows = g'.rows := by
      unfold eraseRow modifyRow
      split <;> exact ⟨rfl, rfl⟩
    refine ⟨keeps.1.trans hhistory, keeps.2.trans hrows,
      (capacity_modifyRow ..).trans hcapacity, ?_⟩
    rw [next, hsheet]
    refine Sheet.ext rfl rfl rfl ?_ rfl rfl
    apply List.ext_getElem?
    intro row
    simp only [List.getElem?_modify, List.getElem?_mapIdx]
    cases g.sheet.screen[row]? with
    | none => rfl
    | some l =>
      by_cases hrow : n = row
      · simp [hrow]
      · have : row < n + 1 ↔ row < n := by omega
        simp [hrow, this]

/-- An edit of a row keeps its number. -/
theorem numbered_modifyRow (h : Numbered g.slots.toList g.nextSeq) (row : Nat) {f : Row → Row}
    (hf : ∀ r, (f r).seq = r.seq) :
    Numbered (g.modifyRow row f).slots.toList (g.modifyRow row f).nextSeq := by
  unfold modifyRow
  split
  · refine h.of_map_seq ?_
    have same (r : Row) : (f { r with dirty := true }).seq = id r.seq := hf _
    rw [Array.toList_modify, map_modify same]
    exact List.modify_id _ _
  · exact h

theorem width_screen (hroom : g.rows ≤ g.capacity) (hwidth : ∀ r ∈ g.slots, r.cells.size = g.cols) :
    ∀ l ∈ g.sheet.screen, l.cells.size = g.cols := by
  intro l hl
  rw [sheet_screen hroom] at hl
  obtain ⟨r, hr, rfl⟩ := List.mem_map.1 hl
  exact hwidth r ((mem_ring g).1 (List.mem_of_mem_take hr))

/-- An erased screen is blank. -/
theorem screen_eraseRows (hroom : g.history + g.rows ≤ g.capacity)
    (hwidth : ∀ r ∈ g.slots, r.cells.size = g.cols) (background : Color) :
    (g.eraseRows 0 g.rows background).sheet.screen = g.sheet.blanks g.rows background := by
  have length := length_screen (g := g) (by omega)
  have erased := (sheet_foldl_eraseRow hroom (Nat.le_refl g.rows) background).2.2.2
  rw [eraseRows, Nat.sub_zero, ← List.range_eq_range', erased, Sheet.blanks]
  apply List.ext_getElem
  · simpa using length
  · intro row hrow _
    have here : row < g.sheet.screen.length := by simpa using hrow
    have size := width_screen (by omega) hwidth _ (List.getElem_mem here)
    simp only [List.getElem_mapIdx, List.getElem_replicate]
    rw [if_pos (by omega), Line.erased, size]
    rfl

end Grid

end Teletype
