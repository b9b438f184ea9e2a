import Teletype.Proofs.Grid.Damage
import Teletype.Proofs.Grid.Leading

/-!
# The cursor follows its character

At another width the cursor is on the cell that it was on, and what leads up to it in its line is
the same, but for blank cells.
-/

namespace Teletype

namespace Reflow

variable {rows : List Row} {p : Place}

/-- The text up to a place ends with the cell there. -/
theorem upTo_eq {r : Row} {c : Cell} (hr : rows[p.line]? = some r) (hc : r.cells[p.col]? = some c) :
    upTo rows p = leading rows p ++ [c] := by
  rw [← Array.getElem?_toList] at hc
  rw [upTo, leading, leading, hr, List.append_assoc, Option.elim_some, List.take_add_one, hc]
  rfl

/-- The text up to a place depends on the rows up to that of the place alone. -/
theorem upTo_settle {cols n : Nat} (hn : 0 < n) (h : p.line < rows.length) :
    upTo (Grid.settle cols n p.line rows) p = upTo rows p := by
  have kept : p.line < (rows.take (p.line + 1)).length := by
    rw [List.length_take]
    omega
  have rest (more : List Row) : ((rows.take (p.line + 1) ++ more).take (p.line + n)) =
      rows.take (p.line + 1) ++ more.take (n - 1) := by
    rw [List.take_append, List.take_of_length_le (by rw [List.length_take]; omega),
      List.length_take]
    congr 2
    omega
  unfold Grid.settle
  dsimp only
  rw [Grid.dropBlankEnd_eq, List.append_assoc, rest, upTo_append kept,
    ← upTo_append kept (rows.drop (p.line + 1)), List.take_append_drop]

/-- The empty cells that spreading adds aside, it keeps what it spreads. -/
theorem filter_spread (cols n : Nat) (line : List Cell) :
    (spread cols n line).filter (!·.isBlank) = line.filter (!·.isBlank) := by
  induction line generalizing n with
  | nil => rfl
  | cons c line ih =>
    rw [spread]
    split
    · rw [List.filter_cons_of_neg (by decide), List.filter_cons, List.filter_cons, ih]
    · rw [List.filter_cons, List.filter_cons, ih]

end Reflow

open Reflow

namespace Grid

variable {kind : ScreenKind} {cols rows : Nat} {g : Grid}

/-- The cells of its line before the cursor. -/
def leading (g : Grid) : List Cell :=
  Reflow.leading g.lines ⟨g.history + g.cursor.row, g.cursor.col⟩

/-- The cursor is on a cell of one of the lines. -/
theorem Valid.cursor_row_lines (h : g.Valid kind cols rows) :
    ∃ r, g.row? g.cursor.row = some r ∧ g.lines[g.history + g.cursor.row]? = some r ∧
      g.cursor.col < r.cells.size := by
  have room := h.room
  have below := h.cursor_row
  have same := h.rows_eq
  have lt : g.history + g.cursor.row < g.lineCount := by
    rw [lineCount]
    omega
  obtain ⟨r, hr⟩ := Option.isSome_iff_exists.1 (line?_isSome h.capacity_pos lt)
  have line : g.lines[g.history + g.cursor.row]? = some r := by
    rw [Grid.lines, getElem?_filterMap_range fun i hi => line?_isSome h.capacity_pos hi,
      if_pos lt, hr]
  refine ⟨r, ?_, line, ?_⟩
  · rw [← line?_eq_row? (by omega), hr]
  · rw [(h.lines r (List.mem_of_getElem? line)).size]
    exact h.cursor_col

/-- The cell under the cursor is where its line is led up to. -/
theorem Valid.cursor_cell (h : g.Valid kind cols rows) :
    ∃ c, g.cell? g.cursor.row g.cursor.col = some c ∧
      upTo g.lines ⟨g.history + g.cursor.row, g.cursor.col⟩ = g.leading ++ [c] := by
  obtain ⟨r, hrow, line, col⟩ := h.cursor_row_lines
  refine ⟨r.cells[g.cursor.col], ?_, upTo_eq line (Array.getElem?_eq_getElem col)⟩
  rw [cell?, hrow, Option.bind_some, Array.getElem?_eq_getElem col]

/-- At another width the same cells lead up to the cursor, spread over the new rows. -/
theorem Valid.upTo_resize (h : g.Valid .primary cols rows) {rows' cols' : Nat} (hrows : 0 < rows')
    (hcols : 2 ≤ cols') (hwidth : cols' ≠ g.cols)
    (hfits : (g.resplit rows' cols').length ≤ capacityFor .primary rows' g.scrollback) :
    let g' := g.resize rows' cols' true
    upTo g'.lines ⟨g'.history + g'.cursor.row, g'.cursor.col⟩ =
      spread cols' 0 (upTo g.lines ⟨g.history + g.cursor.row, g.cursor.col⟩) := by
  obtain ⟨row, -, line, onRow⟩ := h.cursor_row_lines
  have fits : ∀ r ∈ g.lines, Fits cols' r.cells.toList := fun r hr =>
    ⟨sound_of_valid (h.lines r hr), fun _ _ _ => hcols⟩
  let cursor : Place := ⟨g.history + g.cursor.row, g.cursor.col⟩
  have hcursor : ∀ r ∈ g.lines[cursor.line]?, cursor.col < r.cells.size := by
    intro r hr
    obtain rfl := Option.some.inj (line.symm.trans hr)
    exact onRow
  obtain ⟨lt, col, text⟩ := rows_upTo (by omega) fits hcursor (List.getElem?_eq_some_iff.1 line).1
  have refit : g.refit cols' true = Reflow.rows g.lines cols' cursor := by
    rw [Grid.refit, if_pos (by simpa using hwidth)]
  rw [← refit] at lt col text
  obtain ⟨hlines, hline, hcol⟩ := h.lines_resize hrows (by omega) (fun he => hwidth he.2) hfits
  dsimp only
  rw [hline, hcol, Nat.min_eq_left (by omega), upTo, leading_congr hlines, resplit_eq, ← text]
  exact upTo_settle hrows lt

/-- At another width the cursor stays on its cell, and the cells of its line before it are the same,
leaving out blank ones, as long as the ring has room for the lines. -/
theorem Valid.leading_resize (h : g.Valid .primary cols rows) {rows' cols' : Nat}
    (hrows : 0 < rows') (hcols : 2 ≤ cols') (hwidth : cols' ≠ g.cols)
    (hfits : (g.resplit rows' cols').length ≤ capacityFor .primary rows' g.scrollback) :
    let g' := g.resize rows' cols' true
    (∃ c, g.cell? g.cursor.row g.cursor.col = some c ∧
      g'.cell? g'.cursor.row g'.cursor.col = some c) ∧
        g'.leading.filter (!·.isBlank) = g.leading.filter (!·.isBlank) := by
  intro g'
  obtain ⟨c, hc, before⟩ := h.cursor_cell
  obtain ⟨c', hc', after⟩ := (h.resize rows' cols' true).cursor_cell
  have text := h.upTo_resize hrows hcols hwidth hfits
  dsimp only at text
  rw [before, after] at text
  have last := congrArg List.getLast? text
  rw [getLast?_spread, List.getLast?_concat, List.getLast?_concat] at last
  obtain rfl : c' = c := Option.some.inj last
  have shown := congrArg (List.filter (!·.isBlank)) text
  rw [filter_spread, List.filter_append, List.filter_append] at shown
  exact ⟨⟨c', hc, hc'⟩, List.append_cancel_right shown⟩

/-- The right half of a wide character, with the character before it on a row of its own. -/
theorem leading_resize_right_half :
    let g := (wideOnThree 1).setCursor 0 2
    let g' := g.resize 1 2 true
    (g.leading.map Cell.key = [0x61, 0x4e2d] ∧ g'.leading.map Cell.key = [0x61, 0x20, 0x4e2d] ∧
        g'.history = 1 ∧ g'.cursor.row = 0 ∧ g'.cursor.col = 1) ∧
      (∃ c, g.cell? g.cursor.row g.cursor.col = some c ∧
        g'.cell? g'.cursor.row g'.cursor.col = some c) ∧
      g'.leading.filter (!·.isBlank) = g.leading.filter (!·.isBlank) :=
  ⟨by decide +kernel,
    (valid_wideOnThree.setCursor 0 2).leading_resize (by decide) (by decide) (by decide)
    (by decide +kernel)⟩

end Grid

end Teletype
