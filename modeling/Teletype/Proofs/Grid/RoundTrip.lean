import Teletype.Proofs.Grid.ResizeText

/-!
# To another width and back

At another width a line is spread over the new rows. The empty cells this puts before glyphs of two
columns are not told from spaces when the width changes back, so that the text comes back exactly
where none was needed.
-/

namespace Teletype

open Reflow

namespace Reflow

variable {cols n : Nat} {line : List Cell}

/-- What the glyphs of a line show, one after the other. -/
def glyphKeys (line : List Cell) : List Nat := (line.filter (!·.isTail)).map Cell.key

theorem rdropWhile_map {α β : Type} {p : β → Bool} {q : α → Bool} {f : α → β}
    (h : ∀ x, p (f x) = q x) (l : List α) : (l.map f).rdropWhile p = (l.rdropWhile q).map f := by
  have same : p ∘ f = q := funext h
  rw [List.rdropWhile, List.rdropWhile, ← List.map_reverse, List.dropWhile_map, same,
    List.map_reverse]

theorem isEmpty_spread (cols n : Nat) (line : List Cell) :
    (spread cols n line).isEmpty = line.isEmpty := by
  cases line with
  | nil => rfl
  | cons c line =>
    rw [spread]
    split <;> rfl

/-- The text of rows whose lines are those of other rows, spread. -/
theorem logicalLines_spread {rows rows' : List Row}
    (h : (chains rows').map trim = (chains rows).map (spread cols n ∘ trim)) :
    logicalLines rows' = (logicalLines rows).map (spread cols n) := by
  rw [logicalLines, logicalLines, h, ← List.map_map]
  exact rdropWhile_map (isEmpty_spread cols n) _

/-- In rows of the width, the text is laid out that way already. -/
theorem seated_logicalLines {rows : List Row} (h : ∀ r ∈ rows, r.Valid cols) :
    ∀ line ∈ logicalLines rows, Seated cols 0 line := by
  intro line hline
  have mem : line ∈ (chains rows).map trim := (List.rdropWhile_prefix _ _).subset hline
  obtain ⟨whole, hwhole, rfl⟩ := List.mem_map.1 mem
  exact (seated_chains h whole hwhole).mono (prefix_trim whole)

theorem countP_isTail_spread (cols n : Nat) (line : List Cell) :
    (spread cols n line).countP Cell.isTail = line.countP Cell.isTail := by
  induction line generalizing n with
  | nil => rfl
  | cons c line ih =>
    rw [spread]
    split
    · rw [List.countP_cons_of_neg (by decide), List.countP_cons, List.countP_cons, ih]
    · rw [List.countP_cons, List.countP_cons, ih]

/-- An empty cell that was put into a line stays in it as a glyph. -/
theorem seated_of_glyphKeys {cols' m : Nat}
    (h : glyphKeys (spread cols m (spread cols' n line)) = glyphKeys line) :
    Seated cols' n line := by
  let once := spread cols' n line
  have first : line.Sublist once := sublist_spread cols' n line
  have second : once.Sublist (spread cols m once) := sublist_spread cols m once
  have glyphs : (spread cols m once).countP (!·.isTail) = line.countP (!·.isTail) := by
    have length := congrArg List.length h
    rw [glyphKeys, glyphKeys, List.length_map, List.length_map] at length
    rw [List.countP_eq_length_filter, List.countP_eq_length_filter]
    exact length
  have tails : once.countP Cell.isTail = line.countP Cell.isTail :=
    countP_isTail_spread cols' n line
  have parts (l : List Cell) : l.length = l.countP Cell.isTail + l.countP (!·.isTail) :=
    by simpa using List.length_eq_countP_add_countP Cell.isTail (l := l)
  have length : once.length ≤ line.length := by
    have := second.countP_le (p := fun c => !c.isTail)
    rw [parts once, parts line]
    omega
  exact spread_eq_self_iff.1 (first.eq_of_length_le length).symm

end Reflow

namespace Grid

variable {kind : ScreenKind} {cols rows : Nat} {g : Grid}

theorem resplit_eq (g : Grid) (rows cols : Nat) :
    g.resplit rows cols = settle cols rows (g.refit cols true).2.line (g.refit cols true).1 := rfl

/-- What settling leaves of lines is still clear after the cursor. -/
theorem clear_settle (cols rows : Nat) {p : Place} {lines : List Row} (h : Clear p lines) :
    Clear p (settle cols rows p.line lines) := by
  have kept : dropBlankEnd (p.line + 1) lines <+: lines := ⟨_, dropBlankEnd_append _ _⟩
  refine ((h.mono kept).append_vacant fun r hr => ?_).mono (List.take_prefix _ _)
  rw [List.eq_of_mem_replicate hr]
  exact Row.vacant_blank cols 0

/-- Beyond the last column there is nothing. -/
theorem clear_min (hcols : 0 < cols) {p : Place} {lines : List Row} (h : Clear p lines)
    (hlines : ∀ r ∈ lines, r.Valid cols) : Clear ⟨p.line, min p.col (cols - 1)⟩ lines := by
  intro i r hr hi c hc
  by_cases hcol : p.col ≤ cols - 1
  · rw [Nat.min_eq_left hcol] at hc
    exact h i r hr hi c hc
  · rw [Nat.min_eq_right (Nat.le_of_not_le hcol), Place.next] at hc
    split at hc
    · have width := (hlines r (List.mem_of_getElem? hr)).size
      rw [Nat.sub_add_cancel hcols, ← width, ← Array.length_toList, List.drop_length] at hc
      exact absurd hc (by simp)
    · rename_i hlater
      refine h i r hr hi c ?_
      rw [Place.next, if_neg hlater]
      exact hc

/-- With room for all lines, the resized grid has them, and the cursor on the same one. -/
theorem Valid.map_lines_resize {β : Type} {f : Row → β}
    (hf : ∀ (r : Row) seq dirty, f { r with seq := seq, dirty := dirty } = f r)
    (h : g.Valid kind cols rows) {rows' cols' : Nat} (hrows : 0 < rows') (hcols : 0 < cols')
    (hsize : ¬(rows' = g.rows ∧ cols' = g.cols))
    (hfits : (g.resplit rows' cols').length ≤ capacityFor kind rows' g.scrollback) :
    (g.resize rows' cols' true).lines.map f = (g.resplit rows' cols').map f ∧
      (g.resize rows' cols' true).history + (g.resize rows' cols' true).cursor.row =
        (g.refit cols' true).2.line ∧
      (g.resize rows' cols' true).cursor.col = min (g.refit cols' true).2.col (cols' - 1) := by
  have hsettled := length_settle cols' hrows (h.refit hcols true).2
  have same : (rows' = g.rows && cols' = g.cols) = false := by
    simpa using hsize
  rw [resplit_eq] at hfits ⊢
  unfold Grid.resize
  rw [Nat.max_eq_left hrows, Nat.max_eq_left hcols]
  dsimp only
  rw [same, if_neg Bool.false_ne_true, h.kind_eq]
  dsimp only
  generalize settle cols' rows' _ _ = lines at hsettled hfits ⊢
  generalize capacityFor kind rows' g.scrollback = capacity at hfits ⊢
  have none_dropped : lines.length - rows' - (capacity - rows') = 0 := by
    omega
  have offset : (lines.length - rows') % capacity = lines.length - rows' :=
    Nat.mod_eq_of_lt (by omega)
  rw [none_dropped, List.drop_zero, offset]
  have screen : lines.length - rows' + rows' = lines.length := by
    omega
  exact ⟨map_lines_ringOf hf rfl hfits rfl screen, by omega, rfl⟩

theorem Valid.lines_resize (h : g.Valid kind cols rows) {rows' cols' : Nat} (hrows : 0 < rows')
    (hcols : 0 < cols') (hsize : ¬(rows' = g.rows ∧ cols' = g.cols))
    (hfits : (g.resplit rows' cols').length ≤ capacityFor kind rows' g.scrollback) :
    (g.resize rows' cols' true).lines.map Row.shape = (g.resplit rows' cols').map Row.shape ∧
      (g.resize rows' cols' true).history + (g.resize rows' cols' true).cursor.row =
        (g.refit cols' true).2.line ∧
      (g.resize rows' cols' true).cursor.col = min (g.refit cols' true).2.col (cols' - 1) :=
  h.map_lines_resize (fun _ _ _ => rfl) hrows hcols hsize hfits

/-- At another size the text is spread over the new rows, and nothing shows after the cursor. -/
theorem Valid.resize_spread (h : g.Valid kind cols rows) {rows' cols' : Nat} (hrows : 0 < rows')
    (hcols : 0 < cols') (hroom : ∀ r ∈ g.lines, ∀ c ∈ r.cells, c.isHead → 2 ≤ cols')
    (hclear : g.ClearAfterCursor)
    (hfits : (g.resplit rows' cols').length ≤ capacityFor kind rows' g.scrollback) :
    (g.resize rows' cols' true).text = g.text.map (spread cols' 0) ∧
      (g.resize rows' cols' true).ClearAfterCursor := by
  by_cases hsize : rows' = g.rows ∧ cols' = g.cols
  · have same : g.resize rows' cols' true = g := by
      rw [Grid.resize, Nat.max_eq_left hrows, Nat.max_eq_left hcols]
      simp [hsize]
    rw [same]
    refine ⟨?_, hclear⟩
    have seated := seated_logicalLines h.lines
    rw [hsize.2, h.cols_eq, text, List.map_congr_left fun line hline =>
      spread_eq_self_iff.2 (seated line hline), List.map_id']
  · obtain ⟨hchains, hafter⟩ := h.refit_spread hcols hroom hclear
    obtain ⟨hlines, hline, hcol⟩ := h.lines_resize hrows hcols hsize hfits
    have settled : logicalLines (g.resplit rows' cols') = logicalLines (g.refit cols' true).1 :=
      logicalLines_settle cols' hrows hafter.below
    constructor
    · rw [text, logicalLines, chains_congr hlines, ← logicalLines, settled,
        logicalLines_spread hchains]
      rfl
    · rw [clearAfterCursor_iff, hline, hcol]
      have valid := (h.resize rows' cols' true).lines
      rw [Nat.max_eq_left hcols] at valid
      exact clear_min hcols ((clear_settle cols' rows' hafter).of_shape hlines) valid

/-- Changing the width and back restores what the glyphs of the text show, in a text with glyphs of
two columns, if and only if at the other width none of them would start in the last column of a
row. -/
theorem glyphKeys_resize_back_iff (h : g.Valid .primary cols rows)
    (hwide : ∃ line ∈ g.text, ∃ c ∈ line, c.isHead) (hclear : g.ClearAfterCursor)
    {rows' rows'' cols' : Nat} (hrows : 0 < rows') (hrows' : 0 < rows'') (hcols : 2 ≤ cols')
    (hfits : (g.resplit rows' cols').length ≤ capacityFor .primary rows' g.scrollback)
    (hfits' : ((g.resize rows' cols' true).resplit rows'' cols).length ≤
      capacityFor .primary rows'' g.scrollback) :
    ((g.resize rows' cols' true).resize rows'' cols true).text.map glyphKeys =
        g.text.map glyphKeys ↔
      ∀ line ∈ g.text, Seated cols' 0 line := by
  have seated : ∀ line ∈ g.text, Seated cols 0 line := seated_logicalLines h.lines
  have two : 2 ≤ cols := by
    obtain ⟨line, hline, c, hc, hhead⟩ := hwide
    obtain ⟨i, hi⟩ := List.mem_iff_getElem?.1 hc
    have column := seated line hline i c hi hhead
    have pos := h.cols_pos
    by_contra narrow
    rw [show cols = 1 by omega, Nat.mod_one] at column
    exact column rfl
  have wide : (g.resize rows' cols' true).Valid .primary cols' rows' := by
    have valid := h.resize rows' cols' true
    rwa [Nat.max_eq_left (by omega), Nat.max_eq_left (by omega)] at valid
  obtain ⟨there, clear⟩ := h.resize_spread hrows (by omega) (fun _ _ _ _ _ => hcols) hclear hfits
  rw [← scrollback_resize g rows' cols' true] at hfits'
  have back := (wide.resize_spread hrows' (by omega) (fun _ _ _ _ _ => two) clear hfits').1
  rw [back, there, List.map_map, List.map_map]
  constructor
  · intro restored line hline
    exact seated_of_glyphKeys (List.map_inj_left.1 restored line hline)
  · intro fits
    refine List.map_congr_left fun line hline => ?_
    rw [Function.comp_apply, Function.comp_apply, spread_eq_self_iff.2 (fits line hline),
      spread_eq_self_iff.2 (seated line hline)]

/-- A character of two columns at the given column of the first row and one of one column in the
column that is left, on a screen of three columns. -/
def wideOnThree (col : Nat) : Grid :=
  (((new .primary 3 2 2).write 0 col 0x4e2d 2 {} 0).write 0 (if col = 0 then 2 else 0) 0x61 1 {}
    0).setCursor 1 0

theorem valid_wideOnThree {col : Nat} : (wideOnThree col).Valid .primary 3 2 := by
  have empty : (new .primary 3 2 2).Valid .primary 3 2 := valid_new .primary 3 2 2
  exact ((empty.write 0 col 0x4e2d 2 {} 0).write 0 (if col = 0 then 2 else 0) 0x61 1 {} 0).setCursor
    1 0

/-- In the first two columns the wide character keeps its place on two columns. -/
theorem glyphKeys_resize_back_first :
    (wideOnThree 0).text.map glyphKeys = [[0x4e2d, 0x61]] ∧
      ((wideOnThree 0).resize 2 2 true).history = 1 ∧
      (((wideOnThree 0).resize 2 2 true).resize 2 3 true).text.map glyphKeys =
        (wideOnThree 0).text.map glyphKeys :=
  ⟨by decide +kernel, by decide +kernel,
    (glyphKeys_resize_back_iff valid_wideOnThree (by decide +kernel)
      ⟨by decide +kernel, by decide +kernel⟩ (by decide) (by decide) (by decide) (by decide +kernel)
      (by decide +kernel)).2 (by decide +kernel)⟩

/-- In the last two columns it moves to the second row of two columns, and two spaces come back. -/
theorem glyphKeys_resize_back_second :
    (wideOnThree 1).Valid .primary 3 2 ∧ (wideOnThree 1).ClearAfterCursor ∧
      (∃ line ∈ (wideOnThree 1).text, ∃ c ∈ line, c.isHead) ∧
      (wideOnThree 1).text.map glyphKeys = [[0x61, 0x4e2d]] ∧
      ((wideOnThree 1).resplit 2 2).length ≤ capacityFor .primary 2 (wideOnThree 1).scrollback ∧
      (((wideOnThree 1).resize 2 2 true).resplit 2 3).length ≤
        capacityFor .primary 2 (wideOnThree 1).scrollback ∧
      (((wideOnThree 1).resize 2 2 true).resize 2 3 true).text.map glyphKeys =
        [[0x61, 0x20, 0x20, 0x4e2d]] :=
  ⟨valid_wideOnThree, ⟨by decide +kernel, by decide +kernel⟩, by decide +kernel, by decide +kernel,
    by decide +kernel, by decide +kernel, by decide +kernel⟩

end Grid

end Teletype
