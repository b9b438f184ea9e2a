import Teletype.Proofs.Grid.ParagraphResize
import Teletype.Proofs.Grid.Rows
import Teletype.Proofs.Grid.Scrolling
import Teletype.Proofs.Terminal.Valid

/-!
# Typing

Typing letters on an empty screen keeps the text one line from the first row on. Where the next
letter goes is said by the cursor and its pending wrap, and the text before that place is what was
typed.
-/

namespace Teletype

open Reflow

/-- The cell of a letter. -/
def letter (b : UInt8) : Cell := { key := b.toNat }

/-- What decides how a line is read as text. -/
def Line.shape (l : Line) : Array Cell × Bool := (l.cells, l.wrapped)

namespace Grid

variable {cols rows scrollback : Nat} {g : Grid} {typed stale : List UInt8}

/-- The index that the next letter goes to. -/
def typingIndex (g : Grid) : Nat := g.cursorIndex + if g.cursor.pendingWrap then 1 else 0

/-- A primary screen of the given size. Its rows have numbers of their own, all of it scrolls, and
its ring is as large as the scrollback asks for. -/
structure Sized (cols rows scrollback : Nat) (g : Grid) : Prop where
  valid : g.Valid .primary cols rows
  numbered : Numbered g.slots.toList g.nextSeq
  scrollback_eq : g.scrollback = scrollback
  region_eq : g.region = .full rows
  capacity_eq : g.capacity = capacityFor .primary rows scrollback

/-- A screen that holds a line from the first row on, which ends in the cursor's row. -/
structure Holding (cols rows scrollback : Nat) (line : List Cell) (g : Grid) : Prop extends
    Sized cols rows scrollback g where
  holds : ∃ k, Holds cols (g.history + g.cursor.row) (line ++ padding k) (g.lines.map Row.shape)

/-- A screen that holds what was typed. Of what was there before, at most one letter is left, which
the next one overwrites. -/
structure Typing (cols rows scrollback : Nat) (typed stale : List UInt8) (g : Grid) : Prop extends
    Holding cols rows scrollback ((typed ++ stale).map letter) g where
  index_eq : g.typingIndex = typed.length
  stale_le : stale.length ≤ 1

/-! ## Shapes of lines -/

/-- An edit of a row leaves everything else alone. -/
theorem modifyRow_keeps (g : Grid) (row : Nat) (f : Row → Row) :
    (g.modifyRow row f).history = g.history ∧ (g.modifyRow row f).rows = g.rows ∧
      (g.modifyRow row f).cursor = g.cursor ∧ (g.modifyRow row f).region = g.region ∧
      (g.modifyRow row f).scrollback = g.scrollback := by
  unfold modifyRow
  split <;> exact ⟨rfl, rfl, rfl, rfl, rfl⟩

theorem map_shape_lines_eq (hroom : g.history ≤ g.capacity) :
    g.lines.map Row.shape = g.sheet.lines.map Line.shape := by
  rw [← map_line_lines hroom, List.map_map]
  rfl

/-- An edit of a row changes the shape of one line. -/
theorem map_shape_modifyRow (hroom : g.history + g.rows ≤ g.capacity) {row : Nat}
    (hrow : row < g.rows) {f : Row → Row} {k : Line → Line}
    (hf : ∀ r : Row, (f { r with dirty := true }).line = k r.line)
    {k' : Array Cell × Bool → Array Cell × Bool} (hk : ∀ l, (k l).shape = k' l.shape) :
    (g.modifyRow row f).lines.map Row.shape =
    (g.lines.map Row.shape).modify (g.history + row) k' := by
  have history := (g.modifyRow_keeps row f).1
  have capacity := capacity_modifyRow (g := g) row f
  rw [map_shape_lines_eq (by omega), map_shape_lines_eq (by omega), sheet_modifyRow hroom hrow hf]
  show (g.sheet.history ++ g.sheet.screen.modify row k).map Line.shape = _
  rw [Sheet.lines, List.map_append, List.map_append, map_modify hk]
  rw [← show (g.sheet.history.map Line.shape).length = g.history by
    rw [List.length_map, length_history (by omega)], modify_append_right (Nat.le_add_right ..),
    Nat.add_sub_cancel_left]

theorem Sized.modifyRow (h : g.Sized cols rows scrollback) {row : Nat} {f : Row → Row}
    (hvalid : (g.modifyRow row f).Valid .primary cols rows) (hf : ∀ r, (f r).seq = r.seq) :
    (g.modifyRow row f).Sized cols rows scrollback := by
  obtain ⟨-, -, -, region, scrollback⟩ := g.modifyRow_keeps row f
  exact ⟨hvalid, numbered_modifyRow h.numbered row hf, scrollback.trans h.scrollback_eq,
    region.trans h.region_eq, (capacity_modifyRow row f).trans h.capacity_eq⟩

theorem Sized.of_cursor (h : g.Sized cols rows scrollback) {cursor : Cursor}
    (hrow : cursor.row < rows) (hcol : cursor.col < cols)
    (hpending : cursor.pendingWrap = true → cursor.col + 1 = cols) :
    ({ g with cursor := cursor } : Grid).Sized cols rows scrollback :=
  ⟨h.valid.of_cursor hrow hcol hpending, h.numbered, h.scrollback_eq, h.region_eq, h.capacity_eq⟩

/-- An edit of the cursor's row that keeps its number changes the shape of one line. -/
theorem Sized.edit (h : g.Sized cols rows scrollback) {f : Row → Row}
    (hvalid : (g.modifyRow g.cursor.row f).Valid .primary cols rows) (hseq : ∀ r, (f r).seq = r.seq)
    {k : Line → Line} (hf : ∀ r : Row, (f { r with dirty := true }).line = k r.line)
    {m : Array Cell × Bool → Array Cell × Bool} (hk : ∀ l, (k l).shape = m l.shape) :
    let edited := g.modifyRow g.cursor.row f
    edited.Sized cols rows scrollback ∧ edited.cursor = g.cursor ∧ edited.history = g.history ∧
      edited.lines.map Row.shape = (g.lines.map Row.shape).modify (g.history + g.cursor.row) m := by
  obtain ⟨history, -, cursor, -⟩ := g.modifyRow_keeps g.cursor.row f
  have room : g.history + g.rows ≤ g.capacity := by rw [h.valid.rows_eq]; exact h.valid.room
  have row : g.cursor.row < g.rows := by rw [h.valid.rows_eq]; exact h.valid.cursor_row
  exact ⟨h.modifyRow hvalid hseq, cursor, history, map_shape_modifyRow room row hf hk⟩

/-! ## The next row -/

/-- Scrolling the whole screen changes only the ring. -/
theorem rotateUp_keeps {α : Type} {p : Grid → α}
    (hp : ∀ (g : Grid) (slots : Array Row) (offset view history nextSeq : Nat),
      p { g with slots, offset, view, history, nextSeq } = p g)
    (g : Grid) (n : Nat) (background : Color) : p (g.rotateUp n background) = p g := by
  have turned (n : Nat) : p (Nat.repeat (turn background) n g) = p g := by
    induction n with
    | zero => rfl
    | succ n ih => exact (hp (Nat.repeat (turn background) n g) _ _ _ _ _).trans ih
  have followed (g : Grid) (atBottom : Bool) : p (g.followView atBottom) = p g := by
    unfold followView
    split
    · exact hp g _ _ _ _ _
    · split
      · exact hp g _ _ _ _ _
      · rfl
  have marked (g : Grid) : p g.markScreenDirty = p g := hp g _ _ _ _ _
  unfold rotateUp
  dsimp only
  split
  · rfl
  · exact (marked _).trans ((followed _ _).trans (turned _))

/-- The whole screen scrolls up by one row as long as the scrollback has room: one more blank
line. -/
theorem rotateUp_line (h : g.Scrollable) (hroom : g.history + 1 + g.rows ≤ g.capacity) :
    (g.rotateUp 1 .default).history = g.history + 1 ∧
      (g.rotateUp 1 .default).capacity = g.capacity ∧
      Numbered (g.rotateUp 1 .default).slots.toList (g.rotateUp 1 .default).nextSeq ∧
      (g.rotateUp 1 .default).lines.map Row.shape =
        g.lines.map Row.shape ++ [Row.blankShape g.cols] := by
  have shows := h.rotateUp 1 .default
  have pos := h.rows_pos
  rw [Nat.min_eq_left (by omega)] at shows
  have room := shows.scrollable.room
  have history := length_history (g := g) (by omega)
  have limit : (g.sheet.history ++ g.sheet.screen.take 1).length ≤ g.sheet.limit := by
    show _ ≤ g.capacity - g.rows
    rw [List.length_append, List.length_take, history]
    omega
  have newest := Sheet.newest_of_le limit
  refine ⟨?_, ?_, shows.scrollable.numbered, ?_⟩
  · rw [← length_history (g := g.rotateUp 1 .default) (by omega), shows.sheet_eq]
    show (Sheet.newest g.sheet.limit (g.sheet.history ++ g.sheet.screen.take 1)).length = _
    rw [newest, List.length_append, List.length_take, history, length_screen (by omega)]
    omega
  · have limits : (g.rotateUp 1 .default).capacity - (g.rotateUp 1 .default).rows =
        g.capacity - g.rows :=
      congrArg Sheet.limit shows.sheet_eq
    rw [rows_rotateUp] at limits room
    omega
  · rw [map_shape_lines_eq (by omega), map_shape_lines_eq (by omega), shows.sheet_eq]
    show (Sheet.newest g.sheet.limit (g.sheet.history ++ g.sheet.screen.take 1) ++
      (g.sheet.screen.drop 1 ++ g.sheet.blanks 1 .default)).map Line.shape = _
    rw [newest, List.append_assoc, ← List.append_assoc (g.sheet.screen.take 1),
      List.take_append_drop, ← List.append_assoc, List.map_append]
    rfl

theorem Sized.rotateUp (h : g.Sized cols rows scrollback)
    (hroom : g.history + 1 + g.rows ≤ g.capacity) :
    (g.rotateUp 1 .default).Sized cols rows scrollback := by
  obtain ⟨-, capacity, numbered, -⟩ := rotateUp_line (h.valid.scrollable h.numbered) hroom
  have scrollback := rotateUp_keeps (p := Grid.scrollback) (fun _ _ _ _ _ _ => rfl) g 1 .default
  have region := rotateUp_keeps (p := Grid.region) (fun _ _ _ _ _ _ => rfl) g 1 .default
  exact ⟨h.valid.rotateUp 1 .default, numbered, scrollback.trans h.scrollback_eq,
    region.trans h.region_eq, capacity.trans h.capacity_eq⟩

/-- The grid with the text of the cursor's row going on in the next row. -/
def markWrapped (g : Grid) : Grid := g.modifyRow g.cursor.row ({ · with wrapped := true })

/-- The grid with the cursor in the next row, which scrolls at the end of the screen. -/
def feedLine (g : Grid) : Grid :=
  if g.cursor.row + 1 = g.region.bottom then g.scrollUp 1 .default
  else if g.cursor.row + 1 < g.rows
    then { g with cursor := { g.cursor with row := g.cursor.row + 1 } }
  else g

/-- The start of the next row, which the text of this one goes on in. -/
def nextRow (g : Grid) : Grid :=
  let next := g.markWrapped.feedLine
  { next with cursor := { next.clearPending.cursor with col := 0 } }

variable {line : List Cell}

/-- A grid holds its lines in whatever column the cursor is. -/
theorem Holding.of_cursor (h : g.Holding cols rows scrollback line) {cursor : Cursor}
    (hrow : cursor.row = g.cursor.row) (hcol : cursor.col < cols)
    (hpending : cursor.pendingWrap = true → cursor.col + 1 = cols) :
    ({ g with cursor := cursor } : Grid).Holding cols rows scrollback line :=
  ⟨h.toSized.of_cursor (by rw [hrow]; exact h.valid.cursor_row) hcol hpending,
    by dsimp only; rw [hrow]; exact h.holds⟩

theorem Holding.length_lines (h : g.Holding cols rows scrollback line) :
    (g.lines.map Row.shape).length = g.history + rows := by
  rw [List.length_map, Grid.length_lines h.valid.capacity_pos, lineCount, h.valid.rows_eq]

/-- Marking the cursor's row changes nothing else. -/
theorem Sized.markWrapped (h : g.Sized cols rows scrollback) :
    g.markWrapped.Sized cols rows scrollback ∧ g.markWrapped.cursor = g.cursor ∧
      g.markWrapped.history = g.history ∧
      g.markWrapped.lines.map Row.shape =
        (g.lines.map Row.shape).modify (g.history + g.cursor.row) fun r => (r.1, true) :=
  h.edit (f := ({ · with wrapped := true }))
    (h.valid.modifyRow g.cursor.row fun _ hr => hr.of_cells rfl)
    (fun _ => rfl) (k := fun l => { l with wrapped := true }) (fun _ => rfl)
    (m := fun r => (r.1, true)) fun _ => rfl

/-- Once the cursor's row is marked, the line goes on in the row after it, which may be a new
one. -/
theorem Holding.markWrapped (h : g.Holding cols rows scrollback line) {m : Nat}
    (hm : g.cursor.row + 1 < rows + m) :
    ∃ k, Holds cols (g.history + g.cursor.row + 1) (line ++ padding k)
      (g.markWrapped.lines.map Row.shape ++ List.replicate m (Row.blankShape cols)) := by
  obtain ⟨k, hlines⟩ := h.holds
  obtain ⟨-, -, -, shapes⟩ := h.toSized.markWrapped
  refine ⟨k + cols, ?_⟩
  rw [shapes, ← padding_append, ← List.append_assoc]
  exact hlines.wrap m (by rw [h.length_lines]; omega)

/-- In the last row of the screen, feeding a line scrolls the whole screen. -/
theorem feedLine_bottom (h : g.region = .full g.rows) (hbottom : g.cursor.row + 1 = g.rows) :
    g.feedLine = g.rotateUp 1 .default := by
  have full : g.region.isFull g.rows = true := by
    rw [h]
    simp [Region.isFull, Region.full]
  unfold feedLine scrollUp
  rw [if_pos full, if_pos (by rw [h]; exact hbottom)]

theorem feedLine_inside (h : g.region = .full g.rows) (hinside : g.cursor.row + 1 < g.rows) :
    g.feedLine = { g with cursor := { g.cursor with row := g.cursor.row + 1 } } := by
  unfold feedLine
  rw [if_neg (by rw [h]; exact Nat.ne_of_lt hinside), if_pos hinside]

/-- Feeding a line puts the cursor in the row after the one it was in, which is a new one at the end
of the screen. -/
theorem Sized.feedLine (h : g.Sized cols rows scrollback)
    (hroom : g.history + g.cursor.row + 2 ≤ g.capacity) :
    g.feedLine.Sized cols rows scrollback ∧ g.feedLine.cursor.col = g.cursor.col ∧
      g.feedLine.history + g.feedLine.cursor.row = g.history + g.cursor.row + 1 ∧
      ∃ m, g.cursor.row + 1 < rows + m ∧
        g.feedLine.lines.map Row.shape =
          g.lines.map Row.shape ++ List.replicate m (Row.blankShape cols) := by
  have hrows := h.valid.rows_eq
  have row := h.valid.cursor_row
  have region : g.region = .full g.rows := by rw [h.region_eq, hrows]
  by_cases hbottom : g.cursor.row + 1 = rows
  · have room : g.history + 1 + g.rows ≤ g.capacity := by omega
    obtain ⟨history, -, -, scrolled⟩ := rotateUp_line (h.valid.scrollable h.numbered) room
    have cursor : (g.rotateUp 1 .default).cursor = g.cursor :=
      rotateUp_keeps (p := Grid.cursor) (fun _ _ _ _ _ _ => rfl) g 1 .default
    rw [feedLine_bottom region (by rw [hrows]; exact hbottom)]
    refine ⟨h.rotateUp room, by rw [cursor], by rw [history, cursor]; omega, 1, by omega, ?_⟩
    rw [scrolled, h.valid.cols_eq]
    rfl
  · have inside : g.cursor.row + 1 < rows := by omega
    rw [feedLine_inside region (by rw [hrows]; exact inside)]
    exact ⟨h.of_cursor inside h.valid.cursor_col h.valid.pending, rfl,
      (Nat.add_assoc ..).symm, 0, inside, (List.append_nil _).symm⟩

/-- The line goes on in the next row if there is room for one more. -/
theorem Holding.feedLine (h : g.Holding cols rows scrollback line)
    (hroom : g.history + g.cursor.row + 1 < scrollback + rows) :
    let next := g.markWrapped.feedLine
    next.Holding cols rows scrollback line ∧
      next.history + next.cursor.row = g.history + g.cursor.row + 1 := by
  obtain ⟨sized, hcursor, hhistory, -⟩ := h.toSized.markWrapped
  have room : g.markWrapped.history + g.markWrapped.cursor.row + 2 ≤ g.markWrapped.capacity := by
    rw [sized.capacity_eq, hhistory, hcursor]
    exact Nat.le_trans hroom (le_nextPowerOfTwo (scrollback + rows))
  obtain ⟨fed, -, line_eq, m, hm, shapes⟩ := sized.feedLine room
  rw [hcursor] at hm
  rw [hhistory, hcursor] at line_eq
  refine ⟨⟨fed, ?_⟩, line_eq⟩
  rw [line_eq, shapes]
  exact h.markWrapped hm

/-- With a pending wrap, the next letter goes to the start of the next row. -/
theorem Typing.nextRow (h : g.Typing cols rows scrollback typed stale)
    (hpending : g.cursor.pendingWrap = true) (hroom : typed.length < cols * (scrollback + rows)) :
    g.nextRow.Typing cols rows scrollback typed stale ∧ g.nextRow.cursor.pendingWrap = false := by
  have length : cols * (g.history + g.cursor.row + 1) = typed.length := by
    have index := h.index_eq
    have last := h.valid.pending hpending
    rw [typingIndex, if_pos hpending, cursorIndex, h.valid.cols_eq] at index
    rw [← index, Nat.mul_succ, Nat.mul_comm]
    omega
  have below : g.history + g.cursor.row + 1 < scrollback + rows := by
    rw [← length] at hroom
    exact Nat.lt_of_mul_lt_mul_left hroom
  obtain ⟨hnext, hline⟩ := h.toHolding.feedLine below
  refine ⟨⟨hnext.of_cursor rfl hnext.valid.cols_pos fun hp => absurd hp Bool.false_ne_true, ?_,
    h.stale_le⟩, rfl⟩
  show (g.markWrapped.feedLine.history + g.markWrapped.feedLine.cursor.row) *
    g.markWrapped.feedLine.cols + 0 + 0 = typed.length
  rw [hline, hnext.valid.cols_eq, Nat.mul_comm]
  exact length

/-! ## The next letter -/

/-- Writes a letter where the cursor is. -/
def typeLetter (g : Grid) (b : UInt8) : Grid :=
  let written := g.write g.cursor.row g.cursor.col b.toNat 1 {} 0
  { written with cursor := Terminal.cursorAfter g.cursor.row (g.cursor.col + 1) written.cols }

theorem write_eq (h : g.Valid .primary cols rows) (key : Nat) (rendition : Rendition) (link : Nat) :
    g.write g.cursor.row g.cursor.col key 1 rendition link =
      g.modifyRow g.cursor.row (·.write g.cursor.col key 1 rendition link) := by
  have fits : g.fits g.cursor.row g.cursor.col 1 = true := by
    have row := h.cursor_row
    have col := h.cursor_col
    rw [← h.rows_eq] at row
    rw [← h.cols_eq] at col
    simp [Grid.fits, row, col]
  show (if g.fits g.cursor.row g.cursor.col 1 then _ else g) = _
  rw [if_pos fits]
  rfl

/-- Among narrow glyphs no glyph is cut in half. -/
theorem splitAt_narrow {cells : Array Cell} (h : ∀ c ∈ cells, c.extent = .narrow) (col : Nat) :
    Row.splitAt cells col = cells := by
  unfold Row.splitAt
  split
  · rfl
  · rename_i c hc
    rw [h c (Array.mem_of_getElem? hc)]

/-- A letter is written over what is left of the text or after it. -/
theorem set_letter {k : Nat} (hstale : stale.length ≤ 1) (hk : 0 < stale.length + k) (b : UInt8) :
    ∃ k', ((typed ++ stale).map letter ++ padding k).set typed.length (letter b) =
      (typed ++ [b] ++ []).map letter ++ padding k' := by
  cases stale with
  | nil =>
    obtain ⟨k, rfl⟩ : ∃ k', k = k' + 1 := ⟨k - 1, by simp at hk; omega⟩
    refine ⟨k, ?_⟩
    rw [List.set_append_right _ _ (by simp)]
    simp [padding, List.replicate_succ]
  | cons b' stale =>
    obtain rfl : stale = [] :=
      List.eq_nil_of_length_eq_zero (by rw [List.length_cons] at hstale; omega)
    refine ⟨k, ?_⟩
    rw [List.map_append, List.append_assoc, List.set_append_right _ _ (by simp)]
    simp

/-- Writes a glyph of one column in a row of such glyphs. -/
def writeShape (col : Nat) (c : Cell) (shape : Array Cell × Bool) : Array Cell × Bool :=
  ((Row.splitAt shape.1 col).setIfInBounds col c, shape.2)

/-- A letter written where the cursor is changes one line. -/
theorem Sized.write (h : g.Sized cols rows scrollback) (b : UInt8) :
    let written := g.write g.cursor.row g.cursor.col b.toNat 1 {} 0
    written.Sized cols rows scrollback ∧ written.cursor = g.cursor ∧ written.history = g.history ∧
      written.lines.map Row.shape =
        (g.lines.map Row.shape).modify (g.history + g.cursor.row)
          (writeShape g.cursor.col (letter b)) := by
  have valid := h.valid.write g.cursor.row g.cursor.col b.toNat 1 {} 0
  rw [write_eq h.valid] at valid ⊢
  exact h.edit valid (fun _ => rfl)
    (k := fun l => { l with
      cells := (Row.splitAt l.cells g.cursor.col).setIfInBounds g.cursor.col (letter b) })
    (fun _ => rfl) fun _ => rfl

/-- A letter written where the cursor is replaces a cell of the line. -/
theorem Holding.write (h : g.Holding cols rows scrollback line)
    (hline : ∀ c ∈ line, c.extent = .narrow) (b : UInt8) {line' : List Cell}
    (hset : ∀ k, g.cursorIndex < line.length + k →
      ∃ k', (line ++ padding k).set g.cursorIndex (letter b) = line' ++ padding k') :
    let written := g.write g.cursor.row g.cursor.col b.toNat 1 {} 0
    written.cursor = g.cursor ∧ written.history = g.history ∧
      written.Holding cols rows scrollback line' := by
  obtain ⟨k, hlines⟩ := h.holds
  obtain ⟨sized, hcursor, hhistory, shapes⟩ := h.toSized.write b
  have index : g.cursorIndex = (g.history + g.cursor.row) * cols + g.cursor.col := by
    rw [cursorIndex, h.valid.cols_eq]
  refine ⟨hcursor, hhistory, sized, ?_⟩
  have whole : ∀ r ∈ g.lines.map Row.shape, writeShape g.cursor.col (letter b) r =
      (r.1.setIfInBounds g.cursor.col (letter b), r.2) := by
    intro r hr
    rw [writeShape, splitAt_narrow]
    intro c hc
    rcases hlines.mem r hr c hc with hc | rfl
    · exact narrow_append_padding hline k c hc
    · rfl
  have set := hlines.set whole
  have length := hlines.length_line
  rw [Nat.succ_mul] at length
  have col := h.valid.cursor_col
  obtain ⟨k', hset'⟩ := hset k (by omega)
  rw [← index, hset'] at set
  exact ⟨k', by rw [hhistory, hcursor, shapes]; exact set⟩

theorem letter_narrow (bytes : List UInt8) : ∀ c ∈ bytes.map letter, c.extent = .narrow := by
  intro c hc
  obtain ⟨b, -, rfl⟩ := List.mem_map.1 hc
  rfl

/-- The cursor after some columns of a row, the last one included. -/
theorem cursorAfter_spec (row : Nat) {next cols : Nat} (hnext : next ≤ cols) (hcols : 0 < cols) :
    let cursor := Terminal.cursorAfter row next cols
    cursor.row = row ∧ cursor.col < cols ∧ (cursor.pendingWrap = true → cursor.col + 1 = cols) ∧
      cursor.col + (if cursor.pendingWrap then 1 else 0) = next := by
  unfold Terminal.cursorAfter
  split
  · refine ⟨rfl, Nat.sub_lt hcols Nat.one_pos, fun _ => Nat.sub_add_cancel hcols, ?_⟩
    show cols - 1 + 1 = next
    omega
  · exact ⟨rfl, by dsimp only; omega, fun hp => absurd hp Bool.false_ne_true, rfl⟩

/-- Typing a letter writes it where the cursor is, and moves the cursor on. -/
theorem typeLetter_eq (h : g.Valid .primary cols rows) (b : UInt8) :
    g.typeLetter b = { g.write g.cursor.row g.cursor.col b.toNat 1 {} 0 with
      cursor := Terminal.cursorAfter g.cursor.row (g.cursor.col + 1) cols } :=
  congrArg (fun n => { g.write g.cursor.row g.cursor.col b.toNat 1 {} 0 with
    cursor := Terminal.cursorAfter g.cursor.row (g.cursor.col + 1) n }) (h.write ..).cols_eq

/-- A letter that is typed without a pending wrap goes where the cursor is, which moves on. -/
theorem Typing.typeLetter (h : g.Typing cols rows scrollback typed stale)
    (hpending : g.cursor.pendingWrap = false) (b : UInt8) :
    (g.typeLetter b).Typing cols rows scrollback (typed ++ [b]) [] ∧
      (0 < (g.typeLetter b).cursor.col ∨ (g.typeLetter b).cursor.pendingWrap = true) := by
  have index : g.cursorIndex = typed.length := by
    have index := h.index_eq
    rwa [typingIndex, hpending] at index
  have set (k : Nat) (hk : g.cursorIndex < ((typed ++ stale).map letter).length + k) :
      ∃ k', ((typed ++ stale).map letter ++ padding k).set g.cursorIndex (letter b) =
        (typed ++ [b] ++ []).map letter ++ padding k' := by
    rw [index, List.length_map, List.length_append] at hk
    rw [index]
    exact set_letter h.stale_le (by omega) b
  obtain ⟨hcursor, hhistory, hwritten⟩ := h.toHolding.write (letter_narrow _) b set
  obtain ⟨hrow, hcol, hlast, hnext⟩ := cursorAfter_spec g.cursor.row
    (Nat.succ_le_of_lt h.valid.cursor_col) h.valid.cols_pos
  rw [typeLetter_eq h.valid]
  generalize Terminal.cursorAfter g.cursor.row (g.cursor.col + 1) cols =
    cursor at hrow hcol hlast hnext
  refine ⟨⟨hwritten.of_cursor (hrow.trans (by rw [hcursor])) hcol hlast, ?_, Nat.zero_le _⟩, ?_⟩
  · show ((g.write g.cursor.row g.cursor.col b.toNat 1 {} 0).history + cursor.row) *
      (g.write g.cursor.row g.cursor.col b.toNat 1 {} 0).cols + cursor.col +
        (if cursor.pendingWrap then 1 else 0) = _
    rw [hhistory, hrow, hwritten.valid.cols_eq, Nat.add_assoc, hnext, List.length_append, ← index,
      cursorIndex, h.valid.cols_eq]
    rfl
  · dsimp only
    cases hpending : cursor.pendingWrap with
    | true => exact .inr rfl
    | false =>
      rw [hpending] at hnext
      exact .inl (by simp at hnext; omega)

/-- Types a letter, in the next row if a wrap is pending. -/
def typeNext (g : Grid) (b : UInt8) : Grid :=
  (if g.cursor.pendingWrap then g.nextRow else g).typeLetter b

/-- A letter that there is room for comes after what was typed. -/
theorem Typing.typeNext (h : g.Typing cols rows scrollback typed stale)
    (hroom : typed.length < cols * (scrollback + rows)) (b : UInt8) :
    (g.typeNext b).Typing cols rows scrollback (typed ++ [b]) [] ∧
      (0 < (g.typeNext b).cursor.col ∨ (g.typeNext b).cursor.pendingWrap = true) := by
  unfold Grid.typeNext
  split
  · rename_i hpending
    obtain ⟨hnext, hplain⟩ := h.nextRow hpending hroom
    exact hnext.typeLetter hplain b
  · rename_i hpending
    exact h.typeLetter (Bool.eq_false_of_not_eq_true hpending) b

theorem letter_isEmpty (b : UInt8) (h : b ≠ 0x20) : (letter b).isEmpty = false := by
  have key : ¬b.toNat = 0x20 := fun heq => h (UInt8.toNat_inj.1 heq)
  simp [Cell.isEmpty, Cell.isBlank, letter, key]

/-- The line that the cursor is on reads what was typed, and what is left after it. -/
theorem Typing.cursorLine (h : g.Typing cols rows scrollback typed stale)
    (hspace : ∀ b ∈ typed ++ stale, b ≠ 0x20) : g.cursorLine = (typed ++ stale).map letter := by
  obtain ⟨k, hlines⟩ := h.holds
  rw [Grid.cursorLine, hlines.lineAt_eq, trim_append_of_empty (padding_isEmpty k), trim]
  refine List.rdropWhile_eq_self_iff.2 fun hne => ?_
  obtain ⟨b, hb, hlast⟩ := List.mem_map.1 (List.getLast_mem hne)
  rw [← hlast, letter_isEmpty b (hspace b hb)]
  exact Bool.false_ne_true

/-- After a letter a wrap is pending if and only if what was typed fills its rows. -/
theorem Typing.pendingWrap_iff (h : g.Typing cols rows scrollback typed stale)
    (hinside : 0 < g.cursor.col ∨ g.cursor.pendingWrap = true) :
    g.cursor.pendingWrap = true ↔ cols ∣ typed.length := by
  have index := h.index_eq
  rw [typingIndex, cursorIndex, h.valid.cols_eq] at index
  constructor
  · intro hpending
    have last := h.valid.pending hpending
    rw [if_pos hpending, Nat.add_assoc, last, ← Nat.succ_mul] at index
    exact ⟨_, index.symm.trans (Nat.mul_comm _ _)⟩
  · intro hfull
    by_contra hpending
    have col := h.valid.cursor_col
    rw [if_neg hpending, Nat.add_zero, Nat.mul_comm] at index
    rw [← index, Nat.dvd_add_right (Nat.dvd_mul_right cols _)] at hfull
    exact absurd (Nat.le_of_dvd (hinside.resolve_right hpending) hfull) (Nat.not_le.2 col)

/-- A cell of the screen is a cell of a line. -/
theorem Valid.mem_lines_of_cell (h : g.Valid .primary cols rows) {row col : Nat} {c : Cell}
    (hc : g.cell? row col = some c) : ∃ r ∈ g.lines, c ∈ r.cells := by
  obtain ⟨r, hr, hcell⟩ := Option.bind_eq_some_iff.1 hc
  have room := h.room
  have hline : g.line? (g.history + row) = some r := (line?_eq_row? (by omega) row).trans hr
  refine ⟨r, List.mem_filterMap.2 ⟨g.history + row, List.mem_range.2 ?_, hline⟩,
    Array.mem_of_getElem? hcell⟩
  by_contra hbeyond
  rw [line?, if_neg hbeyond] at hline
  exact absurd hline (by simp)

/-- The screen shows letters and blanks. -/
theorem Typing.cell (h : g.Typing cols rows scrollback typed stale) {row col : Nat} {c : Cell}
    (hc : g.cell? row col = some c) : c = {} ∨ ∃ b ∈ typed ++ stale, c = letter b := by
  obtain ⟨k, hlines⟩ := h.holds
  obtain ⟨r, hr, hcell⟩ := h.valid.mem_lines_of_cell hc
  rcases hlines.mem _ (List.mem_map_of_mem hr) c hcell with hc | hc
  · rcases List.mem_append.1 hc with hc | hc
    · obtain ⟨b, hb, rfl⟩ := List.mem_map.1 hc
      exact .inr ⟨b, hb, rfl⟩
    · exact .inl (eq_of_mem_padding hc)
  · exact .inl hc

/-! ## An empty screen and another size -/

theorem map_shape_new (cols rows scrollback : Nat) :
    (new .primary cols rows scrollback).lines.map Row.shape =
      List.replicate (max rows 1) (Row.blankShape (max cols 1)) := by
  have valid := valid_new .primary cols rows scrollback
  refine List.eq_replicate_iff.2 ⟨?_, fun shape hshape => ?_⟩
  · rw [List.length_map, Grid.length_lines valid.capacity_pos]
    exact Nat.zero_add _
  · obtain ⟨r, hr, rfl⟩ := List.mem_map.1 hshape
    obtain ⟨seq, -, rfl⟩ := Array.mem_map.1 (mem_slots_of_mem_lines hr)
    rfl

theorem sized_new (cols rows scrollback : Nat) :
    (new .primary cols rows scrollback).Sized (max cols 1) (max rows 1) scrollback :=
  ⟨valid_new .primary cols rows scrollback, (scrollable_new ..).numbered, rfl,
    rfl, by simp [capacity, new]⟩

theorem typing_new (cols rows scrollback : Nat) :
    (new .primary cols rows scrollback).Typing (max cols 1) (max rows 1) scrollback [] [] := by
  refine ⟨⟨sized_new cols rows scrollback, max cols 1, ?_⟩, ?_, Nat.zero_le 1⟩
  · have blank := Holds.blank (max cols 1) (max rows 1 - 1)
    rw [map_shape_new]
    rwa [Nat.sub_add_cancel (Nat.le_max_right rows 1)] at blank
  · show (0 + 0) * max cols 1 + 0 + 0 = 0
    rw [Nat.zero_mul]

/-- Another size drops the region and the pending wrap. -/
theorem resize_resets {rows' cols' : Nat} (hsize : ¬(max rows' 1 = g.rows ∧ max cols' 1 = g.cols))
    (reflow : Bool) :
    (g.resize rows' cols' reflow).region = .full (max rows' 1) ∧
      (g.resize rows' cols' reflow).cursor.pendingWrap = false := by
  unfold Grid.resize
  dsimp only
  rw [if_neg (by simpa using hsize)]
  exact ⟨rfl, rfl⟩

theorem Sized.resize (h : g.Sized cols rows scrollback) {rows' cols' : Nat}
    (hsize : ¬(max rows' 1 = g.rows ∧ max cols' 1 = g.cols)) :
    (g.resize rows' cols' true).Sized (max cols' 1) (max rows' 1) scrollback := by
  have valid := h.valid.resize rows' cols' true
  have capacity := capacity_resize (g := g)
    (by rw [h.capacity_eq, h.valid.kind_eq, h.valid.rows_eq, h.scrollback_eq]) rows' cols' true
  rw [valid.rows_eq, h.valid.kind_eq, h.scrollback_eq] at capacity
  exact ⟨valid, numbered_resize h.numbered rows' cols' true,
    (scrollback_resize ..).trans h.scrollback_eq, (resize_resets hsize true).1, capacity⟩

/-- The line ends before the cursor or on it. -/
theorem Typing.length_bounds (h : g.Typing cols rows scrollback typed stale) :
    g.cursorIndex ≤ (typed ++ stale).length ∧ (typed ++ stale).length ≤ g.cursorIndex + 1 := by
  obtain ⟨k, hlines⟩ := h.holds
  have index := h.index_eq
  have stale_le := h.stale_le
  have length := hlines.length_line
  rw [List.length_map, List.length_append, Nat.succ_mul] at length
  rw [List.length_append]
  unfold typingIndex at index
  cases hpending : g.cursor.pendingWrap with
  | false =>
    rw [hpending, if_neg Bool.false_ne_true] at index
    omega
  | true =>
    -- the row is full, so nothing is left after what was typed
    have last := h.valid.pending hpending
    rw [hpending, if_pos rfl] at index
    rw [cursorIndex, h.valid.cols_eq] at index ⊢
    omega

/-- At another size the letters before the cursor are what was typed. The pending wrap is dropped:
then the last letter is left after them. -/
theorem Typing.resize (h : g.Typing cols rows scrollback typed stale) {rows' cols' : Nat}
    (hsize : ¬(max rows' 1 = rows ∧ max cols' 1 = cols))
    (hroom : g.cursorIndex < max cols' 1 * (scrollback + max rows' 1)) :
    (g.resize rows' cols' true).Typing (max cols' 1) (max rows' 1) scrollback
      ((typed ++ stale).take g.cursorIndex) ((typed ++ stale).drop g.cursorIndex) := by
  obtain ⟨k, hlines⟩ := h.holds
  obtain ⟨hbefore, hafter⟩ := h.length_bounds
  rw [← h.valid.rows_eq, ← h.valid.cols_eq] at hsize
  rw [← h.scrollback_eq] at hroom
  obtain ⟨k', holds, index⟩ := h.valid.resize_holds hlines (letter_narrow _)
    (by rw [List.length_map]; exact hafter) (Nat.le_max_right rows' 1) (Nat.le_max_right cols' 1)
    hsize hroom
  rw [resize_max] at holds index
  refine ⟨⟨h.toSized.resize hsize, k', ?_⟩, ?_, ?_⟩
  · rw [List.take_append_drop]
    exact holds
  · rw [typingIndex, (resize_resets hsize true).2, if_neg Bool.false_ne_true, index,
      List.length_take, Nat.min_eq_left hbefore]
    rfl
  · rw [List.length_drop]
    omega

end Grid

end Teletype
