import Teletype.Proofs.Machine.Clusters
import Teletype.Proofs.Machine.Motion

/-!
# Printing in machine words

Where a glyph goes, and where the cursor goes after it.
-/

namespace Teletype.Terminal

open Machine

variable {cols rows : Nat} {t : Terminal}

def checkedWrapLine (t : Terminal) : Option Terminal := do
  let row := t.cursor.row
  let marked ← t.checkedOnGrid
      (·.checkedModifyRow row (fun _ => some ()) ({ · with wrapped := true }))
  let fed ← marked.checkedLineFeed
  return fed.putCursor { fed.cursor with col := 0 }

/-- A glyph of two columns that does not fit after the cursor goes to the next row or to the last
two columns. -/
def checkedRoomAt (t : Terminal) (autowrap : Bool) (width : Nat) : Option (Terminal × Nat) :=
  let col := t.cursor.col
  if width = 2 then do
    let next ← add .u16 col 1
    if t.grid.cols ≤ next then
      if autowrap then
        let wrapped ← t.checkedWrapLine
        return (wrapped, 0)
      else
        let col ← sub t.grid.cols 2
        return (t, col)
    else return (t, col)
  else some (t, col)

def checkedMakeRoom (t : Terminal) (width : Nat) : Option (Terminal × Nat) := do
  let autowrap := t.modes.dec.autowrap
  let wrapped ← (if t.cursor.pendingWrap && autowrap then t.checkedWrapLine
      else some t : Option Terminal)
  wrapped.checkedRoomAt autowrap width

def checkedCursorAfter (row next cols : Nat) : Option Cursor :=
  if cols ≤ next then do
    let last ← sub cols 1
    return ⟨row, last, true⟩
  else some ⟨row, next, false⟩

def checkedPlaceGlyph (t : Terminal) (c : Char) (width col : Nat) : Option Terminal :=
  let insert := t.modes.insert
  let rendition := t.rendition
  let link := t.link
  t.checkedOnGrid fun g => do
    let row := g.cursor.row
    let pushed ←
      (if insert then
        { g with cursor := { g.cursor with col := col } }.checkedInsertChars width
          rendition.background
      else some g : Option Grid)
    let written ← pushed.checkedWrite row col c.toNat width rendition link
    let next ← add .u16 col width
    let cursor ← checkedCursorAfter row next written.cols
    return { written with cursor := cursor }

def checkedPrintGlyph (t : Terminal) (c : Char) (width : Nat) : Option Terminal :=
  if width = 2 && t.grid.cols < 2 then some (t.printGlyph c width)
  else do
    let (room, col) ← t.checkedMakeRoom width
    let placed ← room.checkedPlaceGlyph c width col
    return { placed with lastPrinted := some c, composeAt := some (room.cursor.row, col) }

/-- A glyph that grew into the next column takes the cursor with it. -/
def checkedComposeGrid (g : Grid) (row col oldWidth : Nat) (glyph : Glyph) : Option Grid := do
  let (g, applied) ← g.checkedCompose row col glyph.key glyph.width
  if oldWidth < applied then
    let next ← add .u16 col applied
    if g.cols ≤ next || (g.cursor.row = row && g.cursor.col < next) then
      let cursor ← checkedCursorAfter row next g.cols
      return { g with cursor := cursor }
    else return g
  else return g

def checkedCompose (t : Terminal) (row col : Nat) (c : Char) : Option Terminal := do
  match ← t.grid.checkedCell? row col with
  | none => return t
  | some cell =>
    t.clusters.appendSteps cell.key c
    let r := t.clusters.append cell.key c t.config.widthMethod
    let joined := { t with clusters := r.value.1 }.noteAll r.reports
    match r.value.2 with
    | none => return joined
    | some glyph => joined.checkedOnGrid fun g => checkedComposeGrid g row col cell.width glyph

/-- Whether a character joins the one before depends on the cell of that one. -/
def checkedPrint (t : Terminal) (c : Char) : Option Terminal := do
  let (charsets, c) := t.charsets.translate c
  let t := { t with charsets := charsets }
  let width := Text.displayWidth c
  let joined ← (match t.composeAt with
    | some (row, col) => do
      forget (t.grid.checkedCell? row col)
      return if t.attaches row col c width then some (row, col) else none
    | none => some none : Option (Option (Nat × Nat)))
  match joined with
  | some (row, col) => t.checkedCompose row col c
  | none => if width = 0 then return t else t.checkedPrintGlyph c width

def checkedRepeatLast (t : Terminal) (n : Nat) : Option Terminal :=
  match t.lastPrinted with
  | none => some t
  | some c =>
    let width := Text.displayWidth c
    if width = 0 then some t else iterate (checkedPrintGlyph · c width) n t

theorem checkedCursorAfter_eq {row next cols : Nat} (hcols : 0 < cols) :
    checkedCursorAfter row next cols = some (cursorAfter row next cols) := by
  unfold checkedCursorAfter cursorAfter
  split
  · exact bind_eq (sub_of_le hcols) rfl
  · rfl

namespace Held

theorem checkedWrapLine (h : t.Held cols rows) : t.checkedWrapLine = some t.wrapLine := by
  have marked :
      (t.modifyGrid (·.modifyRow t.cursor.row ({ · with wrapped := true }))).Held cols rows :=
    h.modifyGrid fun hg => hg.modifyRow _ fun _ hr => hr.of_cells rfl
  refine bind_eq
    (checkedOnGrid_eq (f := (·.modifyRow t.cursor.row ({ · with wrapped := true }))) ?_) ?_
  · exact h.inBounds.checkedModifyRow _ _ fun _ _ => rfl
  · exact bind_eq marked.checkedLineFeed rfl

theorem wrapLine (h : t.Held cols rows) : t.wrapLine.Held cols rows :=
  h.next h.valid.wrapLine h.valid.alike.wrapLine

/-- The room there is once a pending wrap was carried out. -/
theorem checkedRoomAt (h : t.Held cols rows) (autowrap : Bool) {width : Nat}
    (hwide : width = 2 → 2 ≤ cols) :
    t.checkedRoomAt autowrap width = some (if width = 2 && t.grid.cols ≤ t.cursor.col + 1 then
      if autowrap then (t.wrapLine, 0) else (t, t.grid.cols - 2) else (t, t.cursor.col)) := by
  have hcols : t.grid.cols = cols := h.grid.valid.cols_eq
  have hcol : t.cursor.col < t.grid.cols := h.inBounds.cursor_col
  have hmost := h.inBounds.cols_le
  unfold Terminal.checkedRoomAt
  dsimp only
  by_cases hw : width = 2
  · simp only [hw, decide_true, Bool.true_and, if_true, decide_eq_true_eq]
    refine bind_eq (add_u16 (by omega)) ?_
    split
    · split
      · exact bind_eq h.checkedWrapLine rfl
      · exact bind_eq (sub_of_le (hcols ▸ hwide hw)) rfl
    · rfl
  · simp only [hw, decide_false, Bool.false_and, if_false, Bool.false_eq_true]

/-- A glyph of two columns needs a screen with as many. Every glyph goes where it fits. -/
theorem checkedMakeRoom (h : t.Held cols rows) {width : Nat} (hwidth : width ≤ 2)
    (hwide : width = 2 → 2 ≤ cols) :
    t.checkedMakeRoom width = some (t.makeRoom width) ∧
      (t.makeRoom width).2 < cols ∧ (t.makeRoom width).2 + width ≤ cols := by
  have hwrap :
      (if t.cursor.pendingWrap && t.modes.dec.autowrap then t.checkedWrapLine else some t) =
      some (if t.cursor.pendingWrap && t.modes.dec.autowrap then t.wrapLine else t) := by
    split
    · exact h.checkedWrapLine
    · rfl
  have wrapped :
      (if t.cursor.pendingWrap && t.modes.dec.autowrap then t.wrapLine else t).Held cols rows :=
    .ite h.wrapLine h
  exact ⟨bind_eq hwrap (wrapped.checkedRoomAt _ hwide), h.valid.makeRoom_fits hwidth hwide⟩

/-- In insert mode the cursor is moved first, and then the cells there are pushed aside. -/
theorem inBounds_pushed {g : Grid} {kind : ScreenKind} (h : g.Held kind cols rows) {col : Nat}
    (hcol : col < cols) (n : Nat) (background : Color) :
    (({ g with cursor := { g.cursor with col := col } } : Grid).insertChars n
      background).InBounds := by
  have pushed := h.modifyRow g.cursor.row (f := (·.insertBlanks col n background))
    fun _ hr => hr.insertBlanks _ _ _
  have moved := pushed.inBounds.putCursor (c := { g.cursor with col := col })
    (pushed.valid.rows_eq ▸ h.valid.cursor_row) (pushed.valid.cols_eq ▸ hcol)
  rwa [← modifyRow_cursor] at moved

theorem checkedPlaceGlyph (h : t.Held cols rows) (c : Char) {width col : Nat} (hcol : col < cols)
    (hnext : col + width ≤ cols) :
    t.checkedPlaceGlyph c width col = some (t.placeGlyph c width col) := by
  have hcols := h.grid.valid.cols_eq
  have hmost := h.inBounds.cols_le
  unfold Terminal.checkedPlaceGlyph Terminal.placeGlyph
  refine checkedOnGrid_eq ?_
  dsimp only
  have pushed : (if t.modes.insert then
        ({ t.grid with cursor := { t.grid.cursor with col := col } } : Grid).checkedInsertChars
          width t.rendition.background else some t.grid) = some (if t.modes.insert then
        ({ t.grid with cursor := { t.grid.cursor with col := col } } : Grid).insertChars width
          t.rendition.background else t.grid) ∧ (if t.modes.insert then
        ({ t.grid with cursor := { t.grid.cursor with col := col } } : Grid).insertChars width
          t.rendition.background else t.grid).InBounds := by
    split
    · have moved := h.inBounds.putCursor (c := { t.grid.cursor with col := col })
        h.inBounds.cursor_row (hcols ▸ hcol)
      exact ⟨moved.checkedInsertChars _ _, inBounds_pushed h.grid hcol _ _⟩
    · exact ⟨rfl, h.inBounds⟩
  obtain ⟨steps, inBounds⟩ := pushed
  refine bind_eq steps (bind_eq (inBounds.checkedWrite _ _ _ _ _ _) ?_)
  refine bind_eq (add_u16 (by omega)) (bind_eq (checkedCursorAfter_eq ?_) rfl)
  rw [Grid.cols_write]
  exact inBounds.cols_pos

theorem checkedPrintGlyph (h : t.Held cols rows) (c : Char) {width : Nat} (hwidth : width ≤ 2) :
    t.checkedPrintGlyph c width = some (t.printGlyph c width) := by
  have hcols := h.grid.valid.cols_eq
  unfold Terminal.checkedPrintGlyph
  split
  · rfl
  · rename_i hfits
    simp only [Bool.and_eq_true, decide_eq_true_eq] at hfits
    obtain ⟨steps, hcol, hnext⟩ := h.checkedMakeRoom hwidth (by omega)
    have room : (t.makeRoom width).1.Held cols rows :=
      h.next (h.valid.makeRoom width) (h.valid.alike.makeRoom width).1
    rw [Terminal.printGlyph, if_neg (by simpa using hfits)]
    generalize t.makeRoom width = made at steps hcol hnext room ⊢
    exact bind_eq steps (bind_eq (room.checkedPlaceGlyph c hcol hnext) rfl)

theorem printGlyph (h : t.Held cols rows) (c : Char) (width : Nat) :
    (t.printGlyph c width).Held cols rows :=
  h.next (h.valid.printGlyph c width) (h.valid.alike.printGlyph c width)

end Held

/-- A glyph that became wider has taken the next column. -/
theorem add_compose_le {r : Row} {col : Nat} {c : Cell} (hc : r.cells[col]? = some c)
    (key width : Nat) (h : c.width < (r.compose col key width).2) :
    col + (r.compose col key width).2 ≤ r.cells.size := by
  have hcol : col < r.cells.size := (Array.getElem?_eq_some_iff.1 hc).1
  rw [Row.compose, hc] at h ⊢
  dsimp only at h ⊢
  cases hhead : c.isHead with
  | true =>
    have hwidth : c.width = 2 := by
      rw [Cell.isHead, decide_eq_true_eq] at hhead
      rw [Cell.width, hhead]
      rfl
    simp [hhead, hwidth] at h
  | false =>
    simp only [Bool.false_or]
    split
    · rename_i hgrown
      simp only [Bool.and_eq_true, decide_eq_true_eq] at hgrown
      exact hgrown.2
    · exact hcol

theorem checkedComposeGrid_eq {g : Grid} (h : g.InBounds) {row col : Nat} {cell : Cell}
    (hcell : g.cell? row col = some cell) (glyph : Glyph) :
    checkedComposeGrid g row col cell.width glyph =
      some (composeGrid g row col cell.width glyph) := by
  have hmost := h.cols_le
  have grown : cell.width < (g.compose row col glyph.key glyph.width).2 →
      col + (g.compose row col glyph.key glyph.width).2 ≤ g.cols := by
    obtain ⟨r, hr, hc⟩ := Option.bind_eq_some_iff.1 hcell
    have hsize : r.cells.size = g.cols := by
      rw [Grid.row?] at hr
      split at hr
      · exact h.row_size r (Array.mem_of_getElem? hr)
      · exact absurd hr (by simp)
    rw [Grid.compose, hr]
    exact fun hwider => hsize ▸ add_compose_le hc glyph.key glyph.width hwider
  have hcols : (g.compose row col glyph.key glyph.width).1.cols = g.cols := Grid.cols_modifyRow ..
  unfold composeGrid
  refine bind_eq (h.checkedCompose row col glyph.key glyph.width) ?_
  generalize g.compose row col glyph.key glyph.width = composed at grown hcols ⊢
  obtain ⟨g', applied⟩ := composed
  dsimp only at grown hcols ⊢
  split
  · rename_i hwider
    have := grown hwider
    refine bind_eq (add_u16 (by omega)) ?_
    split
    · exact bind_eq (checkedCursorAfter_eq (hcols ▸ h.cols_pos)) rfl
    · rfl
  · rfl

namespace Held

theorem checkedCompose (h : t.Held cols rows) (row col : Nat) (c : Char) :
    t.checkedCompose row col c = some (t.compose row col c) := by
  refine bind_eq (h.inBounds.checkedCell? row col) ?_
  unfold Terminal.compose
  cases hcell : t.grid.cell? row col with
  | none => rfl
  | some cell =>
    refine bind_eq (t.clusters.appendSteps_eq cell.key c) ?_
    dsimp only
    generalize t.clusters.append cell.key c t.config.widthMethod = r
    have joined :
        (({ t with clusters := r.value.1 } : Terminal).noteAll r.reports).Held cols rows :=
      h.of_eq rfl rfl rfl rfl
    cases r.value.2 with
    | none => rfl
    | some glyph =>
      exact checkedOnGrid_eq (f := fun g => composeGrid g row col cell.width glyph)
        (checkedComposeGrid_eq joined.inBounds hcell glyph)

theorem checkedPrint (h : t.Held cols rows) (c : Char) : t.checkedPrint c = some (t.print c) := by
  have alone (u : Terminal) (hu : u.Held cols rows) (c : Char) :
      (if Text.displayWidth c = 0 then some u else u.checkedPrintGlyph c (Text.displayWidth c)) =
        some (if Text.displayWidth c = 0 then u else u.printGlyph c (Text.displayWidth c)) := by
    split
    · rfl
    · exact hu.checkedPrintGlyph c (Text.displayWidth_le_two c)
  unfold Terminal.checkedPrint Terminal.print
  generalize t.charsets.translate c = translated
  obtain ⟨charsets, c⟩ := translated
  dsimp only
  cases t.composeAt with
  | none =>
    exact alone { t with charsets := charsets, composeAt := none } (h.of_eq rfl rfl rfl rfl) c
  | some place =>
    obtain ⟨row, col⟩ := place
    have ht :
        ({ t with charsets := charsets, composeAt := some (row, col) } : Terminal).Held cols rows :=
      h.of_eq rfl rfl rfl rfl
    refine bind_eq (bind_eq (forget_of_eq (ht.inBounds.checkedCell? row col)) rfl) ?_
    generalize ({ t with charsets := charsets, composeAt := some (row, col) } : Terminal) =
      u at ht ⊢
    dsimp only
    cases u.attaches row col c (Text.displayWidth c) with
    | false => exact alone u ht c
    | true => exact ht.checkedCompose row col c

theorem checkedRepeatLast (h : t.Held cols rows) (n : Nat) :
    t.checkedRepeatLast n = some (t.repeatLast n) := by
  unfold Terminal.checkedRepeatLast Terminal.repeatLast
  cases t.lastPrinted with
  | none => rfl
  | some c =>
    dsimp only
    split
    · rfl
    · refine (iterate_eq (fun t : Terminal => t.Held cols rows) (fun t ht => ?_) n h).1
      exact ⟨ht.checkedPrintGlyph c (Text.displayWidth_le_two c), ht.printGlyph c _⟩

end Held

end Teletype.Terminal
