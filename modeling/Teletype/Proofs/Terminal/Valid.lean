import Teletype.Proofs.Grid.Editing
import Teletype.Proofs.Terminal.Aspects

/-!
# Valid terminals

Both screens are valid and of one size, tab stops lie on them, and no more than sixteen titles are
saved. Moving the cursor and printing keep this.
-/

namespace Teletype.Terminal

/-- A terminal whose screens have the given size. -/
structure Valid (cols rows : Nat) (t : Terminal) : Prop where
  primary : t.primary.Valid .primary cols rows
  alternate : t.alternate.Valid .alternate cols rows
  tabs : ∀ c ∈ t.tabs, c < cols
  titles : t.titleStack.length ≤ 16

variable {cols rows : Nat} {t : Terminal}

/-- A terminal stays valid where its screens, its tab stops and its saved titles stay. -/
theorem Valid.of_eq {t' : Terminal} (h : t.Valid cols rows) (hp : t'.primary = t.primary)
    (ha : t'.alternate = t.alternate) (htabs : t'.tabs = t.tabs)
    (htitles : t'.titleStack = t.titleStack) : t'.Valid cols rows :=
  ⟨hp ▸ h.primary, ha ▸ h.alternate, htabs ▸ h.tabs, htitles ▸ h.titles⟩

theorem Valid.ite {p : Prop} [Decidable p] {a b : Terminal} (ha : a.Valid cols rows)
    (hb : b.Valid cols rows) : (if p then a else b).Valid cols rows := by
  split
  · exact ha
  · exact hb

/-- An operation that alters neither screens nor tab stops nor titles keeps a terminal valid. -/
theorem Valid.of_alters {u : Terminal} {aspects : List Aspect} (h : t.Valid cols rows)
    (hu : t.Alters aspects u)
    (hapart : Aspect.apart (.tabs :: .titleStack :: Aspect.screens) aspects = true) :
    u.Valid cols rows :=
  have screens := hu.screens (Aspect.apart_mono hapart (by decide))
  h.of_eq screens.1 screens.2.1 (hu.of_apart hapart (a := .tabs) (by decide))
    (hu.of_apart hapart (a := .titleStack) (by decide))

/-! ## The grid in use -/

theorem Valid.grid (h : t.Valid cols rows) : t.grid.Valid t.screen cols rows := by
  unfold Terminal.grid
  cases t.screen with
  | primary => exact h.primary
  | alternate => exact h.alternate

/-- A change of the grid in use, given that it is valid. -/
theorem Valid.modifyGrid (h : t.Valid cols rows) {f : Grid → Grid}
    (hf : t.grid.Valid t.screen cols rows → (f t.grid).Valid t.screen cols rows) :
    (t.modifyGrid f).Valid cols rows := by
  have hg := hf h.grid
  unfold Terminal.grid at hg
  unfold Terminal.modifyGrid
  cases hs : t.screen with
  | primary =>
    simp only [hs] at hg ⊢
    exact ⟨hg, h.alternate, h.tabs, h.titles⟩
  | alternate =>
    simp only [hs] at hg ⊢
    exact ⟨h.primary, hg, h.tabs, h.titles⟩

theorem Valid.putCursor (h : t.Valid cols rows) {cursor : Cursor} (hrow : cursor.row < rows)
    (hcol : cursor.col < cols) (hpending : cursor.pendingWrap = true → cursor.col + 1 = cols) :
    (t.putCursor cursor).Valid cols rows :=
  h.modifyGrid fun hg => hg.of_cursor hrow hcol hpending

theorem Valid.cursor_row (h : t.Valid cols rows) : t.cursor.row < rows := h.grid.cursor_row

theorem Valid.cursor_col (h : t.Valid cols rows) : t.cursor.col < cols := h.grid.cursor_col

theorem Valid.note (h : t.Valid cols rows) (severity : Severity) (message : String)
    (fields : List (String × String)) : (t.note severity message fields).Valid cols rows :=
  h.of_eq rfl rfl rfl rfl

/-- Any number of steps, one after the other. -/
theorem Valid.foldl {α : Type} {f : Terminal → α → Terminal} (h : t.Valid cols rows)
    (hf : ∀ t a, t.Valid cols rows → (f t a).Valid cols rows) (l : List α) :
    (l.foldl f t).Valid cols rows :=
  List.foldlRecOn l f h fun u hu a _ => hf u a hu

/-! ## Motions -/

theorem Valid.lineFeed (h : t.Valid cols rows) : t.lineFeed.Valid cols rows := by
  unfold Terminal.lineFeed
  refine h.modifyGrid fun hg => Grid.Valid.clearPending ?_
  have := hg.rows_eq
  split
  · exact hg.scrollUp 1 _
  · split
    · exact hg.of_cursor (by dsimp only; omega) hg.cursor_col hg.pending
    · exact hg

/-- A line feed drops a pending wrap. -/
theorem pendingWrap_lineFeed (t : Terminal) : t.lineFeed.cursor.pendingWrap = false := by
  simp [Terminal.cursor, Terminal.lineFeed, Grid.clearPending]

theorem Valid.reverseIndex (h : t.Valid cols rows) : t.reverseIndex.Valid cols rows := by
  unfold Terminal.reverseIndex
  refine h.modifyGrid fun hg => Grid.Valid.clearPending ?_
  have := hg.cursor_row
  split
  · exact hg.scrollDown 1 _
  · exact hg.of_cursor (by dsimp only; omega) hg.cursor_col hg.pending

theorem Valid.carriageReturn (h : t.Valid cols rows) : t.carriageReturn.Valid cols rows :=
  h.modifyGrid fun hg => hg.toFirstColumn

theorem Valid.backspace (h : t.Valid cols rows) : t.backspace.Valid cols rows := by
  unfold Terminal.backspace
  refine h.modifyGrid fun hg => ?_
  have hrow := hg.cursor_row
  have hcol := hg.cursor_col
  have hcols := hg.cols_eq
  dsimp only
  split
  · exact hg.clearPending
  · rename_i hpending
    split
    · exact hg.of_cursor hrow (by dsimp only; omega) fun hp => absurd hp hpending
    · split
      · exact hg.of_cursor (by dsimp only; omega) (by dsimp only; omega)
          fun hp => absurd hp hpending
      · exact hg

/-- Tab stops beyond the last column count as the last column. -/
theorem tabAfter_le (tabs : List Nat) {last col : Nat} (n : Nat) (hcol : col ≤ last) :
    tabAfter tabs last n col ≤ last := by
  induction n generalizing col with
  | zero => exact hcol
  | succ n ih =>
    unfold tabAfter
    dsimp only
    split
    · exact Nat.le_refl _
    · exact ih (Nat.min_le_right _ _)

theorem tabAfter_last (tabs : List Nat) (last n : Nat) : tabAfter tabs last n last = last := by
  cases n with
  | zero => rfl
  | succ n =>
    have hnext : min ((tabs.find? (last < ·)).getD last) last = last := by
      cases hfind : tabs.find? (last < ·) with
      | none => simp
      | some c =>
        have := List.find?_some hfind
        simp only [decide_eq_true_eq] at this
        simp only [Option.getD_some]
        omega
    simp [tabAfter, hnext]

theorem tabBefore_le (tabs : List Nat) (n col : Nat) : tabBefore tabs n col ≤ col := by
  induction n generalizing col with
  | zero => exact Nat.le_refl _
  | succ n ih =>
    unfold tabBefore
    dsimp only
    split
    · exact Nat.zero_le _
    · refine Nat.le_trans (ih _) ?_
      cases hlast : (tabs.filter (· < col)).getLast? with
      | none => exact Nat.zero_le _
      | some c =>
        have := (List.mem_filter.1 (List.mem_of_getLast? hlast)).2
        simp only [decide_eq_true_eq] at this
        simp only [Option.getD_some]
        omega

theorem Valid.tabForward (h : t.Valid cols rows) (n : Nat) : (t.tabForward n).Valid cols rows := by
  have hcols := h.grid.cols_eq
  have hcol := h.cursor_col
  have hle := tabAfter_le t.tabs n (show t.cursor.col ≤ t.grid.cols - 1 by omega)
  refine h.putCursor h.cursor_row (by dsimp only; omega) fun hp => ?_
  have hlast : t.cursor.col = t.grid.cols - 1 := by
    have : t.cursor.col + 1 = cols := h.grid.pending hp
    omega
  dsimp only
  rw [hlast, tabAfter_last]
  omega

theorem Valid.tabBackward (h : t.Valid cols rows) (n : Nat) :
    (t.tabBackward n).Valid cols rows := by
  have hcol := h.cursor_col
  have hle := tabBefore_le t.tabs n t.cursor.col
  exact h.putCursor h.cursor_row (by dsimp only; omega) fun hp => absurd hp Bool.false_ne_true

theorem Valid.of_tabs (h : t.Valid cols rows) {tabs : List Nat} (htabs : ∀ c ∈ tabs, c < cols) :
    ({ t with tabs := tabs } : Terminal).Valid cols rows :=
  ⟨h.primary, h.alternate, htabs, h.titles⟩

theorem Valid.setTab (h : t.Valid cols rows) : t.setTab.Valid cols rows := by
  unfold Terminal.setTab
  dsimp only
  split
  · exact h
  · refine h.of_tabs fun c hc => ?_
    simp only [List.mem_append, List.mem_cons, List.mem_filter] at hc
    rcases hc with ⟨hc, -⟩ | rfl | ⟨hc, -⟩
    · exact h.tabs c hc
    · exact h.cursor_col
    · exact h.tabs c hc

theorem Valid.goTo (h : t.Valid cols rows) (row col : Nat) : (t.goTo row col).Valid cols rows := by
  unfold Terminal.goTo
  exact h.modifyGrid fun hg => hg.setCursor _ _

theorem Valid.cursorUp (h : t.Valid cols rows) (n : Nat) : (t.cursorUp n).Valid cols rows := by
  unfold Terminal.cursorUp
  exact h.modifyGrid fun hg => hg.setCursor _ _

theorem Valid.cursorDown (h : t.Valid cols rows) (n : Nat) : (t.cursorDown n).Valid cols rows := by
  unfold Terminal.cursorDown
  exact h.modifyGrid fun hg => hg.setCursor _ _

theorem Valid.cursorRight (h : t.Valid cols rows) (n : Nat) :
    (t.cursorRight n).Valid cols rows := by
  unfold Terminal.cursorRight
  exact h.modifyGrid fun hg => hg.setCursor _ _

theorem Valid.cursorLeft (h : t.Valid cols rows) (n : Nat) : (t.cursorLeft n).Valid cols rows := by
  unfold Terminal.cursorLeft
  exact h.modifyGrid fun hg => hg.setCursor _ _

/-! ## Printing -/

theorem Valid.wrapLine (h : t.Valid cols rows) : t.wrapLine.Valid cols rows := by
  unfold Terminal.wrapLine
  have hmarked : (t.modifyGrid (·.modifyRow t.cursor.row ({ · with wrapped := true }))).Valid
      cols rows :=
    h.modifyGrid fun hg => hg.modifyRow _ fun _ hr => hr.of_cells rfl
  have hfed := hmarked.lineFeed
  refine hfed.putCursor hfed.cursor_row hfed.grid.cols_pos fun hp => ?_
  exact absurd hp (by simp [pendingWrap_lineFeed])

theorem cursorAfter_valid {g : Grid} {kind : ScreenKind} (hg : g.Valid kind cols rows) {row : Nat}
    (hrow : row < rows) (next : Nat) :
    ({ g with cursor := cursorAfter row next g.cols } : Grid).Valid kind cols rows := by
  have hpos := hg.cols_pos
  have hcols := hg.cols_eq
  unfold cursorAfter
  split
  · exact hg.of_cursor hrow (by dsimp only; omega) fun _ => by dsimp only; omega
  · exact hg.of_cursor hrow (by dsimp only; omega) fun hp => absurd hp Bool.false_ne_true

theorem Valid.makeRoom (h : t.Valid cols rows) (width : Nat) :
    (t.makeRoom width).1.Valid cols rows :=
  makeRoom_induction (p := Valid cols rows) (fun _ hu => hu.wrapLine) h width

/-- Changing a row does not look at the cursor. -/
theorem modifyRow_cursor (g : Grid) (cursor : Cursor) (row : Nat) (f : Row → Row) :
    ({ g with cursor := cursor } : Grid).modifyRow row f =
      { g.modifyRow row f with cursor := cursor } := by
  unfold Grid.modifyRow
  dsimp only
  split <;> rfl

theorem write_cursor (g : Grid) (cursor : Cursor) (row col key width : Nat) (rendition : Rendition)
    (link : Nat) :
    ({ g with cursor := cursor } : Grid).write row col key width rendition link =
      { g.write row col key width rendition link with cursor := cursor } := by
  unfold Grid.write Grid.fits
  simp only [modifyRow_cursor]
  generalize (if width ≤ 1 then 1 else 2) = w
  split <;> rfl

/-- The room that is made is wide enough on a screen that is. -/
theorem Valid.makeRoom_fits (h : t.Valid cols rows) {width : Nat} (hwidth : width ≤ 2)
    (hwide : width = 2 → 2 ≤ cols) :
    (t.makeRoom width).2 < cols ∧ (t.makeRoom width).2 + width ≤ cols := by
  have wrapped :
      (if t.cursor.pendingWrap && t.modes.dec.autowrap then t.wrapLine else t).Valid cols rows := by
    split
    · exact h.wrapLine
    · exact h
  unfold Terminal.makeRoom
  dsimp only
  generalize (if t.cursor.pendingWrap && t.modes.dec.autowrap then t.wrapLine else t) =
    t' at wrapped ⊢
  have hcols : t'.grid.cols = cols := wrapped.grid.cols_eq
  have hcol : t'.cursor.col < cols := wrapped.cursor_col
  split
  · rename_i hfull
    simp only [Bool.and_eq_true, decide_eq_true_eq] at hfull
    have := hwide hfull.1
    split <;> dsimp only <;> omega
  · rename_i hroom
    simp only [Bool.and_eq_true, decide_eq_true_eq] at hroom
    dsimp only
    omega

/-- The grid once cells were pushed aside for a glyph. In insert mode the cursor is moved first,
which may leave it with a pending wrap. -/
theorem Valid.pushed (h : t.Valid cols rows) (width col : Nat) :
    ∃ (g' : Grid) (cursor : Cursor), g'.Valid t.screen cols rows ∧
      (if t.modes.insert then
        ({ t.grid with cursor := { t.grid.cursor with col := col } } : Grid).insertChars width
          t.rendition.background
      else t.grid) = { g' with cursor := cursor } := by
  split
  · exact ⟨_, _, h.grid.modifyRow t.grid.cursor.row fun r hr => hr.insertBlanks _ _ _,
      modifyRow_cursor ..⟩
  · exact ⟨t.grid, t.grid.cursor, h.grid, rfl⟩

theorem Valid.placeGlyph (h : t.Valid cols rows) (c : Char) (width col : Nat) :
    (t.placeGlyph c width col).Valid cols rows := by
  unfold Terminal.placeGlyph
  refine h.modifyGrid fun hg => ?_
  obtain ⟨g', cursor, hg', pushed⟩ := h.pushed width col
  have hwritten := hg'.write t.grid.cursor.row col c.toNat width t.rendition t.link
  dsimp only
  rw [pushed, write_cursor]
  exact cursorAfter_valid hwritten hg.cursor_row (col + width)

theorem Valid.printGlyph (h : t.Valid cols rows) (c : Char) (width : Nat) :
    (t.printGlyph c width).Valid cols rows := by
  unfold Terminal.printGlyph
  split
  · exact h.note ..
  · exact ((h.makeRoom width).placeGlyph c width _).of_eq rfl rfl rfl rfl

theorem Valid.composeGrid {g : Grid} {kind : ScreenKind} (hg : g.Valid kind cols rows)
    {row col : Nat} {cell : Cell} (hcell : g.cell? row col = some cell) (hkey : cell.key ≠ 0)
    (oldWidth : Nat) (glyph : Glyph) :
    (composeGrid g row col oldWidth glyph).Valid kind cols rows := by
  have hcomposed := hg.compose row col glyph.key glyph.width fun c hc => by
    rw [hcell] at hc
    exact Option.some.inj hc ▸ hkey
  have hrow : row < rows := by
    rw [← hg.rows_eq]
    by_contra hle
    simp [Grid.cell?, Grid.row?, hle] at hcell
  unfold Terminal.composeGrid
  dsimp only
  split
  · split
    · exact cursorAfter_valid hcomposed hrow _
    · exact hcomposed
  · exact hcomposed

theorem Valid.compose (h : t.Valid cols rows) {row col : Nat} (c : Char)
    (hkey : ∀ cell, t.grid.cell? row col = some cell → cell.key ≠ 0) :
    (t.compose row col c).Valid cols rows := by
  unfold Terminal.compose
  split
  · exact h
  · rename_i cell hcell
    generalize t.clusters.append cell.key c t.config.widthMethod = r
    have ht : (({ t with clusters := r.value.1 } : Terminal).noteAll r.reports).Valid cols rows :=
      h.of_eq rfl rfl rfl rfl
    dsimp only
    split
    · exact ht
    · exact ht.modifyGrid fun hg => Valid.composeGrid hg hcell (hkey cell hcell) _ _

/-- A character only joins a cell that shows a glyph. -/
theorem key_of_attaches {row col : Nat} {c : Char} {width : Nat} {cell : Cell}
    (h : t.attaches row col c width = true) (hcell : t.grid.cell? row col = some cell) :
    cell.key ≠ 0 := by
  intro hkey
  simp [attaches, hcell, hkey] at h

theorem Valid.print (h : t.Valid cols rows) (c : Char) : (t.print c).Valid cols rows := by
  have shifted : ({ t with charsets := (t.charsets.translate c).1 } : Terminal).Valid cols rows :=
    h.of_eq rfl rfl rfl rfl
  rcases t.print_cases c with ⟨row, col, c', -, hattaches, printed⟩ | printed | ⟨c', -, printed⟩
  · exact printed ▸ shifted.compose c' fun _ hcell => key_of_attaches hattaches hcell
  · exact printed ▸ shifted
  · exact printed ▸ shifted.printGlyph c' _

theorem Valid.repeatLast (h : t.Valid cols rows) (n : Nat) : (t.repeatLast n).Valid cols rows :=
  repeatLast_induction (p := Valid cols rows) (fun _ c _ hu => hu.printGlyph c _) h n

end Teletype.Terminal
