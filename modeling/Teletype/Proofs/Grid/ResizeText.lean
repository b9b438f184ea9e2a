import Teletype.Proofs.Grid.Editing
import Teletype.Proofs.Grid.ReflowBelow
import Teletype.Proofs.Grid.Resize

/-!
# Changing the size keeps the text

Rows that are left out or added around the new screen are below the cursor, where nothing shows. As
long as the ring has room for the lines, the text is what it was.
-/

namespace Teletype

open Reflow

theorem Row.vacant_blank (cols seq : Nat) : (Row.blank cols .default seq).Vacant := by
  intro c hc
  rw [(Array.mem_replicate.1 hc).2]
  rfl

theorem Row.vacant_of_isBlank {r : Row} (h : r.isBlank) : r.Vacant := by
  rw [Row.isBlank, Bool.and_eq_true] at h
  exact fun c hc => Array.all_eq_true_iff_forall_mem.1 h.2 c hc

/-- A row that has the width fits as it is. -/
theorem Row.fit_self (r : Row) : r.fit r.cells.size = r := by
  simp [Row.fit]

namespace Grid

/-- Nothing shows after the cursor. -/
structure ClearAfterCursor (g : Grid) : Prop where
  row : ∀ r ∈ g.lines[g.history + g.cursor.row]?,
    ∀ c ∈ r.cells.toList.drop (g.cursor.col + 1), c.isEmpty
  below : ∀ r ∈ g.lines.drop (g.history + g.cursor.row + 1), r.Vacant

/-- The lines at another size, before any is dropped for lack of room. -/
def resplit (g : Grid) (rows cols : Nat) : List Row :=
  settle cols rows (g.refit cols true).2.line (g.refit cols true).1

variable {kind : ScreenKind} {cols rows : Nat} {g : Grid}

theorem clearAfterCursor_iff :
    g.ClearAfterCursor ↔ Clear ⟨g.history + g.cursor.row, g.cursor.col⟩ g.lines := by
  constructor
  · intro h i r hr hi
    by_cases here : i = g.history + g.cursor.row
    · rw [Place.next, if_pos here]
      exact h.row r (by rwa [← here])
    · rw [Place.next, if_neg here, List.drop_zero]
      have later :
          (g.lines.drop (g.history + g.cursor.row + 1))[i - (g.history + g.cursor.row + 1)]? =
          some r := by
        dsimp only at hi
        rw [List.getElem?_drop, ← hr]
        congr 1
        omega
      exact fun c hc => h.below r (List.mem_of_getElem? later) c (Array.mem_def.2 hc)
  · intro h
    refine ⟨fun r hr c hc => h _ r hr (Nat.le_refl _) c ?_, h.below⟩
    rw [Place.next, if_pos rfl]
    exact hc

/-- The lines at another width have the same text, spread over the new rows, and nothing shows after
the cursor. -/
theorem Valid.refit_spread (h : g.Valid kind cols rows) {cols' : Nat} (hcols : 0 < cols')
    (hroom : ∀ r ∈ g.lines, ∀ c ∈ r.cells, c.isHead → 2 ≤ cols') (hclear : g.ClearAfterCursor) :
    (chains (g.refit cols' true).1).map trim = (chains g.lines).map (spread cols' 0 ∘ trim) ∧
      Clear (g.refit cols' true).2 (g.refit cols' true).1 := by
  have length := length_lines h.capacity_pos
  have cursor_lt : g.history + g.cursor.row < g.lines.length := by
    have := h.cursor_row
    have := h.rows_eq
    rw [length, lineCount]
    omega
  have clear := clearAfterCursor_iff.1 hclear
  unfold Grid.refit
  dsimp only
  split
  · have fits : ∀ r ∈ g.lines, Fits cols' r.cells.toList := fun r hr =>
      ⟨sound_of_valid (h.lines r hr), fun c hc => hroom r hr c (Array.mem_def.2 hc)⟩
    refine ⟨rows_chains hcols (fun r hr => ⟨fits r hr, ?_⟩) _,
      rows_clear hcols fits cursor_lt clear⟩
    rw [(h.lines r hr).size]
    exact h.cols_pos
  · rename_i hsame
    have same : cols' = cols := by
      have := h.cols_eq
      simp only [Bool.true_and, decide_eq_true_eq, ne_eq, Decidable.not_not] at hsame
      omega
    have fitted : g.lines.map (·.fit cols') = g.lines := by
      refine (List.map_congr_left fun r hr => ?_).trans (List.map_id _)
      rw [same, ← (h.lines r hr).size, Row.fit_self]
      rfl
    have column : min g.cursor.col (cols' - 1) = g.cursor.col := by
      have := h.cursor_col
      omega
    rw [fitted, column]
    refine ⟨List.map_congr_left fun line hline => ?_, clear⟩
    have seated := seated_chains h.lines line hline
    rw [same]
    exact (spread_eq_self_iff.2 (seated.mono (prefix_trim line))).symm

/-- The lines at another width have the same text if all glyphs are narrow, and nothing shows below
the cursor. -/
theorem Valid.refit_text (h : g.Valid kind cols rows)
    (hnarrow : ∀ r ∈ g.lines, ∀ c ∈ r.cells, c.extent = .narrow) (hclear : g.ClearAfterCursor)
    {cols' : Nat} (hcols : 0 < cols') :
    (chains (g.refit cols' true).1).map trim = (chains g.lines).map trim ∧
      ∀ r ∈ (g.refit cols' true).1.drop ((g.refit cols' true).2.line + 1), r.Vacant := by
  have noHead : ∀ r ∈ g.lines, ∀ c ∈ r.cells, c.isHead → 2 ≤ cols' := by
    intro r hr c hc hhead
    rw [Cell.isHead, hnarrow r hr c hc] at hhead
    exact absurd hhead (by decide)
  obtain ⟨hchains, hafter⟩ := h.refit_spread hcols noHead hclear
  refine ⟨hchains.trans (List.map_congr_left fun line hline => ?_), hafter.below⟩
  have narrow : ∀ c ∈ line, c.extent = .narrow := by
    intro c hc
    obtain ⟨r, hr, hmem⟩ := exists_row_of_mem_chains hline hc
    exact hnarrow r hr c hmem
  exact spread_eq_self_iff.2
    (seated_of_narrow fun c hc => narrow c ((prefix_trim line).subset hc))

/-- The rows that settling drops and adds are vacant. -/
theorem logicalLines_settle (cols : Nat) {rows line : Nat} (hrows : 0 < rows) {lines : List Row}
    (hbelow : ∀ r ∈ lines.drop (line + 1), r.Vacant) :
    logicalLines (settle cols rows line lines) = logicalLines lines := by
  have dropped := dropBlankEnd_append (line + 1) lines
  unfold settle
  dsimp only
  generalize hkept : dropBlankEnd (line + 1) lines = kept at dropped ⊢
  generalize hblanks : List.replicate (rows - kept.length) (Row.blank cols .default 0) = blanks
  have vacant : ∀ r ∈ blanks, r.Vacant := by
    intro r hr
    rw [← hblanks] at hr
    rw [List.eq_of_mem_replicate hr]
    exact Row.vacant_blank cols 0
  have below : ∀ r ∈ (kept ++ blanks).drop (line + rows), r.Vacant := by
    intro r hr
    rw [List.drop_append] at hr
    rcases List.mem_append.1 hr with hr | hr
    · have later : lines.drop (line + rows) = (lines.drop (line + 1)).drop (rows - 1) := by
        rw [List.drop_drop]
        congr 1
        omega
      have kept_lines : kept <+: lines := ⟨_, dropped⟩
      have mem := (kept_lines.drop (line + rows)).subset hr
      rw [later] at mem
      exact hbelow r (List.mem_of_mem_drop mem)
    · exact vacant r (List.mem_of_mem_drop hr)
  calc logicalLines ((kept ++ blanks).take (line + rows))
      = logicalLines (kept ++ blanks) := by
        rw [← logicalLines_append_vacant _ below, List.take_append_drop]
    _ = logicalLines kept := logicalLines_append_vacant _ vacant
    _ = logicalLines lines := by
        rw [← logicalLines_append_vacant kept, dropped]
        exact fun r hr => Row.vacant_of_isBlank (List.mem_rtakeWhile_imp hr)

/-- The lines that fill the first slots of a ring are its lines, but for their numbers and marks. -/
theorem map_lines_ringOf {β : Type} {f : Row → β}
    (hf : ∀ (r : Row) seq dirty, f { r with seq := seq, dirty := dirty } = f r)
    {capacity cols firstSeq : Nat}
    {lines : List Row} (hslots : g.slots = ringOf capacity cols firstSeq lines)
    (hfits : lines.length ≤ capacity)
    (hoffset : g.offset = g.history) (hlength : g.history + g.rows = lines.length) :
    g.lines.map f = lines.map f := by
  have hcapacity : g.capacity = capacity := by
    rw [Grid.capacity, hslots, size_ringOf cols firstSeq hfits]
  have slot : ∀ line ∈ List.range g.lineCount, g.line? line = g.slots.toList[0 + line]? := by
    intro line hline
    have lt : line < g.lineCount := List.mem_range.1 hline
    unfold lineCount at lt
    have same : g.slotOfLine line = line := by
      rw [slotOfLine, hoffset, hcapacity,
        show g.history + capacity - g.history + line = line + capacity by omega,
        Nat.add_mod_right, Nat.mod_eq_of_lt (by omega)]
    rw [line?, if_pos (List.mem_range.1 hline), same, Nat.zero_add, Array.getElem?_toList]
  have first : g.slots.toList.take lines.length =
      lines.zipIdx.map fun e => { e.1 with seq := firstSeq + e.2, dirty := true } := by
    rw [hslots, ringOf, Array.toList_append, List.take_append_of_le_length, List.take_of_length_le]
    · simp
    · simp
  have kept : (lines.zipIdx.map fun e => { e.1 with seq := firstSeq + e.2, dirty := true }).map f =
      (lines.zipIdx.map Prod.fst).map f := by
    rw [List.map_map, List.map_map]
    exact List.map_congr_left fun e _ => hf e.1 _ _
  rw [Grid.lines, List.filterMap_congr slot, filterMap_getElem?, List.drop_zero, lineCount, hlength,
    first, kept, List.zipIdx_map_fst]

theorem map_shape_lines {capacity cols firstSeq : Nat} {lines : List Row}
    (hslots : g.slots = ringOf capacity cols firstSeq lines) (hfits : lines.length ≤ capacity)
    (hoffset : g.offset = g.history) (hlength : g.history + g.rows = lines.length) :
    g.lines.map Row.shape = lines.map Row.shape :=
  map_lines_ringOf (fun _ _ _ => rfl) hslots hfits hoffset hlength

/-- Changing the size keeps the text of narrow glyphs if nothing shows after the cursor and the ring
has room for all lines. -/
theorem text_resize (h : g.Valid kind cols rows)
    (hnarrow : ∀ r ∈ g.lines, ∀ c ∈ r.cells, c.extent = .narrow) (hclear : g.ClearAfterCursor)
    {rows' cols' : Nat} (hrows : 0 < rows') (hcols : 0 < cols')
    (hfits : (g.resplit rows' cols').length ≤ capacityFor kind rows' g.scrollback) :
    (g.resize rows' cols' true).text = g.text := by
  obtain ⟨hchains, hbelow⟩ := h.refit_text hnarrow hclear hcols
  obtain ⟨hlines, hcursor⟩ := h.refit hcols true
  have hsettled := length_settle cols' hrows hcursor
  have htext := logicalLines_settle cols' hrows hbelow
  unfold resplit at hfits
  unfold Grid.resize
  rw [Nat.max_eq_left hrows, Nat.max_eq_left hcols]
  dsimp only
  split
  · rfl
  · rw [h.kind_eq]
    generalize settle cols' rows' _ _ = lines at hsettled htext hfits ⊢
    generalize capacityFor kind rows' g.scrollback = capacity at hfits ⊢
    have none_dropped : lines.length - rows' - (capacity - rows') = 0 := by omega
    have offset : (lines.length - rows') % capacity = lines.length - rows' :=
      Nat.mod_eq_of_lt (by omega)
    rw [none_dropped, List.drop_zero, offset]
    have read {g' : Grid} (hslots : g'.slots = ringOf capacity cols' g.nextSeq lines)
        (hoffset : g'.offset = g'.history) (hlength : g'.history + g'.rows = lines.length) :
        g'.text = g.text := by
      have shapes := map_shape_lines hslots hfits hoffset hlength
      rw [text, logicalLines, chains_congr shapes]
      exact htext.trans (logicalLines_congr hchains)
    exact read rfl rfl (by dsimp only; omega)

/-- A line of four characters on a screen of three columns. -/
def fourOnThree : Grid :=
  ((((((new .primary 3 2 2).write 0 0 0x61 1 {} 0).write 0 1 0x62 1 {} 0).write 0 2 0x63
    1 {} 0).write 1 0 0x64 1 {} 0).modifyRow 0 ({ · with wrapped := true })).setCursor 1 1

theorem valid_fourOnThree : fourOnThree.Valid .primary 3 2 := by
  have empty : (new .primary 3 2 2).Valid .primary 3 2 := valid_new .primary 3 2 2
  have first := ((empty.write 0 0 0x61 1 {} 0).write 0 1 0x62 1 {} 0).write 0 2 0x63 1 {} 0
  have second := first.write 1 0 0x64 1 {} 0
  exact (second.modifyRow 0 (f := ({ · with wrapped := true })) fun _ hr =>
    hr.of_cells rfl).setCursor 1 1

/-- On two columns the line takes one more row. -/
theorem text_resize_fourOnThree :
    fourOnThree.text = [[{ key := 0x61 }, { key := 0x62 }, { key := 0x63 }, { key := 0x64 }]] ∧
      (fourOnThree.resize 2 2 true).history = 1 ∧
      (fourOnThree.resize 2 2 true).text = fourOnThree.text :=
  ⟨by decide +kernel, by decide +kernel,
    text_resize valid_fourOnThree (by decide +kernel) ⟨by decide +kernel, by decide +kernel⟩
      (by decide) (by decide) (by decide +kernel)⟩

end Grid

end Teletype
