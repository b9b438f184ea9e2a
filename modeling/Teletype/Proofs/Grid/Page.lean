import Teletype.Proofs.Grid.Typing
import Teletype.Proofs.Reply.Framing

/-!
# Pages of text

Lines of text that are written on an empty screen are cut into rows: a row is done when it is full
and its line goes on, or when its line ends. What was written can be read off the rows, and the
screen holds them from the first one on.
-/

namespace Teletype

open Reflow (padding eq_of_mem_padding)

section

variable {α β : Type}

theorem map_intercalate (f : α → β) (separator : List α) (l : List (List α)) :
    (separator.intercalate l).map f = (separator.map f).intercalate (l.map (List.map f)) := by
  induction l with
  | nil => rfl
  | cons part l ih =>
    cases l with
    | nil => rw [List.map_singleton, List.intercalate_singleton, List.intercalate_singleton]
    | cons next l =>
      rw [List.intercalate_cons_cons, List.map_append, List.map_append, ih]
      exact List.intercalate_cons_cons.symm

theorem forall_mem_intercalate {P : α → Prop} {separator : List α} (hs : ∀ a ∈ separator, P a)
    {l : List (List α)} (h : ∀ part ∈ l, ∀ a ∈ part, P a) : ∀ a ∈ separator.intercalate l, P a := by
  induction l with
  | nil => exact nofun
  | cons part l ih =>
    obtain ⟨hpart, hrest⟩ := List.forall_mem_cons.1 h
    cases l with
    | nil =>
      rw [List.intercalate_singleton]
      exact hpart
    | cons next l =>
      rw [List.intercalate_cons_cons, List.forall_mem_append, List.forall_mem_append]
      exact ⟨⟨hpart, hs⟩, ih hrest⟩

end

/-- Text cut into rows. -/
structure Page where
  /-- The rows that are done, each with whether its line goes on in the next one. -/
  above : List (List UInt8 × Bool) := []
  /-- The row being written. -/
  row : List UInt8 := []

namespace Page

variable {cols : Nat} {p : Page} {b : UInt8}

/-- The row is done, and the next one is begun. -/
def advance (p : Page) (goesOn : Bool) : Page := ⟨p.above ++ [(p.row, goesOn)], []⟩

/-- One more character of the line, in the next row if this one is full. -/
def put (cols : Nat) (p : Page) (b : UInt8) : Page :=
  if p.row.length < cols then { p with row := p.row ++ [b] } else { p.advance true with row := [b] }

/-- A line, or the rest of it. -/
def write (cols : Nat) (p : Page) (line : List UInt8) : Page := line.foldl (put cols) p

/-- Several lines, each but the last one ended. -/
def writeLines (cols : Nat) (p : Page) : List (List UInt8) → Page
  | [] => p
  | [line] => p.write cols line
  | line :: next :: lines => writeLines cols ((p.write cols line).advance false) (next :: lines)

/-! ## What was written -/

/-- What was written. -/
def text (p : Page) : List UInt8 :=
  p.above.flatMap (fun r => if r.2 then r.1 else r.1 ++ [0x0a]) ++ p.row

theorem mem_text {r : List UInt8 × Bool} (hr : r ∈ p.above ++ [(p.row, false)]) (hb : b ∈ r.1) :
    b ∈ p.text := by
  rcases List.mem_append.1 hr with hr | hr
  · refine List.mem_append_left _ (List.mem_flatMap.2 ⟨r, hr, ?_⟩)
    split
    · exact hb
    · exact List.mem_append_left _ hb
  · rw [List.mem_singleton.1 hr] at hb
    exact List.mem_append_right _ hb

theorem text_put (cols : Nat) (p : Page) (b : UInt8) : (p.put cols b).text = p.text ++ [b] := by
  unfold put text advance
  split
  · exact (List.append_assoc ..).symm
  · rw [List.flatMap_append, List.flatMap_singleton, if_pos rfl]

theorem text_advance (p : Page) : (p.advance false).text = p.text ++ [0x0a] := by
  unfold text advance
  rw [List.flatMap_append, List.flatMap_singleton, if_neg Bool.false_ne_true, List.append_nil,
    List.append_assoc]

theorem text_write (p : Page) (line : List UInt8) : (p.write cols line).text = p.text ++ line := by
  induction line generalizing p with
  | nil => exact (List.append_nil _).symm
  | cons b line ih =>
    rw [write, List.foldl_cons, ← write, ih, text_put, List.append_assoc, List.singleton_append]

theorem text_writeLines (p : Page) (lines : List (List UInt8)) :
    (p.writeLines cols lines).text = p.text ++ [0x0a].intercalate lines := by
  fun_induction writeLines cols p lines with
  | case1 p => exact (List.append_nil _).symm
  | case2 p line => rw [text_write, List.intercalate_singleton]
  | case3 p line next lines ih =>
    rw [ih, text_advance, text_write, List.intercalate_cons_cons]
    simp only [List.append_assoc]

/-! ## How many rows there are -/

theorem above_put_le (cols : Nat) (p : Page) (b : UInt8) :
    p.above.length ≤ (p.put cols b).above.length := by
  unfold put advance
  split
  · exact Nat.le_refl _
  · rw [List.length_append]
    exact Nat.le_add_right _ _

theorem above_write_le (cols : Nat) (p : Page) (line : List UInt8) :
    p.above.length ≤ (p.write cols line).above.length := by
  induction line generalizing p with
  | nil => exact Nat.le_refl _
  | cons b line ih => exact Nat.le_trans (above_put_le cols p b) (ih _)

theorem above_writeLines_le (p : Page) (lines : List (List UInt8)) :
    p.above.length ≤ (p.writeLines cols lines).above.length := by
  fun_induction writeLines cols p lines with
  | case1 p => exact Nat.le_refl _
  | case2 p line => exact above_write_le cols p line
  | case3 p line next lines ih =>
    have more :
        (p.write cols line).above.length ≤ ((p.write cols line).advance false).above.length := by
      rw [advance, List.length_append]
      exact Nat.le_add_right _ _
    exact Nat.le_trans (Nat.le_trans (above_write_le cols p line) more) ih

/-- Rows that are full are counted by the characters in them. -/
theorem length_put (hcols : 0 < cols) (hrow : p.row.length ≤ cols) (b : UInt8) :
    0 < (p.put cols b).row.length ∧ (p.put cols b).row.length ≤ cols ∧
      (p.put cols b).above.length * cols + (p.put cols b).row.length =
        p.above.length * cols + p.row.length + 1 := by
  unfold put advance
  split
  · simp only [List.length_append, List.length_singleton]
    omega
  · simp only [List.length_append, List.length_singleton, Nat.add_mul]
    omega

theorem length_write (hcols : 0 < cols) (hrow : p.row.length ≤ cols) (line : List UInt8) :
    (line ≠ [] → 0 < (p.write cols line).row.length) ∧ (p.write cols line).row.length ≤ cols ∧
      (p.write cols line).above.length * cols + (p.write cols line).row.length =
        p.above.length * cols + p.row.length + line.length := by
  induction line using List.reverseRecOn with
  | nil => exact ⟨fun h => absurd rfl h, hrow, rfl⟩
  | append_singleton line b ih =>
    obtain ⟨-, inside, count⟩ := ih
    obtain ⟨begun, inside', count'⟩ := length_put hcols inside b
    rw [write, List.foldl_append, ← write]
    refine ⟨fun _ => begun, inside', count'.trans ?_⟩
    rw [count, List.length_append, List.length_singleton]
    omega

/-- The rows that a line takes before its last one. -/
theorem above_write (hcols : 0 < cols) (hrow : p.row = []) (line : List UInt8) :
    (p.write cols line).above.length = p.above.length + (line.length - 1) / cols := by
  obtain ⟨begun, inside, count⟩ :=
    length_write hcols (p := p) (by rw [hrow]; exact Nat.zero_le cols) line
  cases line with
  | nil => simp [write]
  | cons b line =>
    have begun := begun (List.cons_ne_nil b line)
    obtain ⟨more, hmore⟩ := Nat.exists_eq_add_of_le (above_write_le cols p (b :: line))
    rw [hmore, hrow, Nat.add_mul, List.length_nil] at count
    rw [hmore, Nat.div_eq_of_lt_le (m := (b :: line).length - 1) (k := more)]
    · omega
    · rw [Nat.add_mul]
      omega

/-- All lines together fill as many rows as they take one by one. -/
theorem above_writeLines (hcols : 0 < cols) (hrow : p.row = []) {lines : List (List UInt8)}
    (hne : lines ≠ []) : (p.writeLines cols lines).above.length + 1 =
      p.above.length + (lines.map fun line => (line.length - 1) / cols + 1).sum := by
  fun_induction writeLines cols p lines with
  | case1 p => exact absurd rfl hne
  | case2 p line =>
    rw [above_write hcols hrow, List.map_singleton, List.sum_singleton]
    omega
  | case3 p line next lines ih =>
    rw [ih rfl (List.cons_ne_nil _ _)]
    have length : ((p.write cols line).advance false).above.length =
        (p.write cols line).above.length + 1 := by
      rw [advance, List.length_append, List.length_singleton]
    rw [length, above_write hcols hrow, List.map_cons, List.sum_cons, List.map_cons, List.sum_cons,
      List.map_cons, List.sum_cons]
    omega

/-! ## Where rows end -/

/-- All of it is printable. A row that goes on is full, and one that does not go on does not end in
a space. -/
structure Fits (cols : Nat) (p : Page) : Prop where
  row_le : p.row.length ≤ cols
  row_printable : ∀ b ∈ p.row, Printable b
  printable : ∀ r ∈ p.above, ∀ b ∈ r.1, Printable b
  full : ∀ r ∈ p.above, r.2 = true → r.1.length = cols
  ended : ∀ r ∈ p.above, r.2 = false → r.1.getLast? ≠ some 0x20

theorem fits_empty (cols : Nat) :
    ({} : Page).Fits cols := ⟨Nat.zero_le _, nofun, nofun, nofun, nofun⟩

theorem Fits.advance (h : p.Fits cols) {goesOn : Bool} (hfull : goesOn = true → p.row.length = cols)
    (hended : goesOn = false → p.row.getLast? ≠ some 0x20) : (p.advance goesOn).Fits cols where
  row_le := Nat.zero_le _
  row_printable := nofun
  printable := List.forall_mem_append.2 ⟨h.printable, List.forall_mem_singleton.2 h.row_printable⟩
  full := List.forall_mem_append.2 ⟨h.full, List.forall_mem_singleton.2 hfull⟩
  ended := List.forall_mem_append.2 ⟨h.ended, List.forall_mem_singleton.2 hended⟩

theorem Fits.put (h : p.Fits cols) (hcols : 0 < cols) (hb : Printable b) :
    (p.put cols b).Fits cols := by
  have inside := (length_put hcols h.row_le b).2.1
  unfold Page.put at inside ⊢
  split
  · rename_i hroom
    rw [if_pos hroom] at inside
    exact { h with
      row_le := inside
      row_printable := List.forall_mem_append.2 ⟨h.row_printable, List.forall_mem_singleton.2 hb⟩ }
  · rename_i hfull
    have full : p.row.length = cols := Nat.le_antisymm h.row_le (Nat.le_of_not_lt hfull)
    have advanced : (p.advance true).Fits cols := h.advance (fun _ => full) nofun
    exact { advanced with
      row_le := hcols
      row_printable := List.forall_mem_singleton.2 hb }

theorem Fits.write (h : p.Fits cols) (hcols : 0 < cols) {line : List UInt8}
    (hline : ∀ b ∈ line, Printable b) : (p.write cols line).Fits cols := by
  induction line generalizing p with
  | nil => exact h
  | cons b line ih =>
    obtain ⟨hb, hline⟩ := List.forall_mem_cons.1 hline
    exact ih (h.put hcols hb) hline

/-- The last row of a line ends as the line does. -/
theorem getLast?_write (p : Page) (line : List UInt8) :
    (p.write cols line).row.getLast? = line.getLast?.or p.row.getLast? := by
  induction line using List.reverseRecOn with
  | nil => rfl
  | append_singleton line b _ =>
    have last (q : Page) : (q.put cols b).row.getLast? = some b := by
      unfold put advance
      split
      · exact List.getLast?_concat
      · rfl
    rw [write, List.foldl_append, ← write, List.getLast?_concat]
    exact last _

theorem Fits.writeLines (h : p.Fits cols) (hcols : 0 < cols) (hrow : p.row = [])
    {lines : List (List UInt8)} (hlines : ∀ line ∈ lines, ∀ b ∈ line, Printable b)
    (hends : ∀ line ∈ lines, line.getLast? ≠ some 0x20) :
    (p.writeLines cols lines).Fits cols ∧ (p.writeLines cols lines).row.getLast? ≠ some 0x20 := by
  have ended (p : Page) (hrow : p.row = []) (line : List UInt8)
      (hline : line.getLast? ≠ some 0x20) : (p.write cols line).row.getLast? ≠ some 0x20 := by
    rwa [getLast?_write, hrow, List.getLast?_nil, Option.or_none]
  fun_induction Page.writeLines cols p lines with
  | case1 p =>
    rw [hrow]
    exact ⟨h, nofun⟩
  | case2 p line =>
    exact ⟨h.write hcols (hlines line List.mem_cons_self),
      ended p hrow line (hends line List.mem_cons_self)⟩
  | case3 p line next lines ih =>
    rw [List.forall_mem_cons] at hlines hends
    exact ih ((h.write hcols hlines.1).advance nofun fun _ => ended p hrow line hends.1) rfl
      hlines.2 hends.2

/-! ## The rows on a screen -/

/-- The shape of a row with the text at its start. -/
def shape (cols : Nat) (r : List UInt8 × Bool) : Array Cell × Bool :=
  ((r.1.map letter ++ padding (cols - r.1.length)).toArray, r.2)

/-- The shapes of the rows. -/
def shapes (cols : Nat) (p : Page) : List (Array Cell × Bool) :=
  (p.above ++ [(p.row, false)]).map (shape cols)

theorem shape_nil (cols : Nat) : shape cols ([], false) = Row.blankShape cols := by
  simp [shape, Row.blankShape, padding]

theorem shapes_eq (cols : Nat) (p : Page) :
    p.shapes cols = p.above.map (shape cols) ++ [shape cols (p.row, false)] := List.map_append

/-- Blank rows below a page are the rows of a longer one. -/
theorem Fits.below (h : p.Fits cols) (hlast : p.row.getLast? ≠ some 0x20) (k : Nat) :
    ∃ q : Page, q.Fits cols ∧ q.row.getLast? ≠ some 0x20 ∧
      q.shapes cols = p.shapes cols ++ List.replicate k (Row.blankShape cols) ∧
      q.text = p.text ++ List.replicate k 0x0a := by
  induction k with
  | zero => exact ⟨p, h, hlast, (List.append_nil _).symm, (List.append_nil _).symm⟩
  | succ k ih =>
    obtain ⟨q, fits, last, shapes, text⟩ := ih
    refine ⟨q.advance false, fits.advance nofun fun _ => last, nofun, ?_, ?_⟩
    · rw [List.replicate_succ', ← List.append_assoc, ← shapes, Page.shapes, Page.shapes,
        Page.advance, List.map_append, List.map_singleton, shape_nil]
    · rw [text_advance, text, List.replicate_succ', List.append_assoc]

end Page

/-- A change of the element after some others. -/
theorem modify_length_append {α : Type} (l : List α) (a : α) (rest : List α) (f : α → α) :
    (l ++ a :: rest).modify l.length f = l ++ f a :: rest := by
  rw [modify_append_right (Nat.le_refl _), Nat.sub_self, List.modify_zero_cons]

namespace Grid

variable {cols rows scrollback : Nat} {g : Grid} {p : Page}

/-- A screen that holds a page from its first row on, with the cursor where the next character
goes. -/
structure Paged (cols rows scrollback : Nat) (p : Page) (g : Grid) : Prop extends
    Sized cols rows scrollback g where
  shapes_eq : ∃ k, g.lines.map Row.shape = p.shapes cols ++ List.replicate k (Row.blankShape cols)
  line_eq : g.history + g.cursor.row = p.above.length
  col_eq : g.cursor.col + (if g.cursor.pendingWrap then 1 else 0) = p.row.length

theorem paged_new (cols rows scrollback : Nat) :
    (new .primary cols rows scrollback).Paged (max cols 1) (max rows 1) scrollback {} := by
  refine ⟨sized_new cols rows scrollback, ⟨max rows 1 - 1, ?_⟩, rfl, rfl⟩
  rw [map_shape_new, Page.shapes_eq, List.map_nil, List.nil_append, Page.shape_nil,
    List.singleton_append, ← List.replicate_succ, Nat.sub_add_cancel (Nat.le_max_right rows 1)]

/-- When the row being written is done, feeding a line gives a blank one after it. -/
theorem Paged.below {goesOn : Bool} {k : Nat} (h : g.Sized cols rows scrollback)
    (hshapes : g.lines.map Row.shape =
      p.above.map (Page.shape cols) ++ Page.shape cols (p.row, goesOn) ::
        List.replicate k (Row.blankShape cols))
    (hline : g.history + g.cursor.row = p.above.length) (hroom : p.above.length + 2 ≤ g.capacity)
    {cursor : Cursor} (hrow : cursor.row = g.feedLine.cursor.row) (hcol : cursor.col = 0)
    (hpending : cursor.pendingWrap = false) :
    ({ g.feedLine with cursor := cursor } : Grid).Paged cols rows scrollback
      (p.advance goesOn) := by
  obtain ⟨fed, -, line, m, hm, shapes⟩ := h.feedLine (by rw [hline]; exact hroom)
  have positive := h.valid.cols_pos
  have blank : ∃ n, k + m = n + 1 := by
    have length := congrArg List.length hshapes
    rw [List.length_map, Grid.length_lines h.valid.capacity_pos, lineCount, List.length_append,
      List.length_map, List.length_cons, List.length_replicate, h.valid.rows_eq] at length
    exact ⟨k + m - 1, by omega⟩
  obtain ⟨n, blank⟩ := blank
  refine ⟨fed.of_cursor (hrow ▸ fed.valid.cursor_row) (hcol ▸ positive) (by simp [hpending]),
    ⟨n, ?_⟩, ?_, ?_⟩
  · refine shapes.trans ?_
    rw [hshapes, List.append_assoc, List.cons_append, List.replicate_append_replicate, blank,
      List.replicate_succ, Page.shapes_eq, Page.advance, List.map_append, Page.shape_nil]
    simp
  · rw [Page.advance, List.length_append, List.length_singleton, ← hline, hrow]
    exact line
  · show cursor.col + (if cursor.pendingWrap then 1 else 0) = 0
    rw [hcol, hpending]
    rfl

/-- A change of the line that the cursor is on is one of the row being written. -/
theorem Paged.map_modify (h : g.Paged cols rows scrollback p)
    (m : Array Cell × Bool → Array Cell × Bool) :
    ∃ k, (g.lines.map Row.shape).modify (g.history + g.cursor.row) m =
      p.above.map (Page.shape cols) ++ m (Page.shape cols (p.row, false)) ::
      List.replicate k (Row.blankShape cols) := by
  obtain ⟨k, hshapes⟩ := h.shapes_eq
  refine ⟨k, ?_⟩
  rw [hshapes, Page.shapes_eq, h.line_eq, List.append_assoc, List.singleton_append,
    ← List.length_map (f := Page.shape cols), modify_length_append]

/-- A row that is full goes on in the next one. -/
theorem Paged.nextRow (h : g.Paged cols rows scrollback p)
    (hroom : p.above.length + 2 ≤ g.capacity) :
    g.nextRow.Paged cols rows scrollback (p.advance true) := by
  obtain ⟨sized, cursor, history, marked⟩ := h.toSized.markWrapped
  obtain ⟨k, shapes⟩ := h.map_modify fun r => (r.1, true)
  have line : g.markWrapped.history + g.markWrapped.cursor.row = p.above.length := by
    rw [history, cursor, h.line_eq]
  have room : p.above.length + 2 ≤ g.markWrapped.capacity := by
    rw [sized.capacity_eq, ← h.capacity_eq]
    exact hroom
  exact .below sized (marked.trans shapes) line room rfl rfl rfl

/-- The cursor at the start of the next row, for the next line. -/
def endLine (g : Grid) : Grid := g.toFirstColumn.feedLine.clearPending

theorem Paged.endLine (h : g.Paged cols rows scrollback p)
    (hroom : p.above.length + 2 ≤ g.capacity) :
    g.endLine.Paged cols rows scrollback (p.advance false) := by
  obtain ⟨k, hshapes⟩ := h.shapes_eq
  rw [Page.shapes_eq, List.append_assoc, List.singleton_append] at hshapes
  have sized : g.toFirstColumn.Sized cols rows scrollback :=
    h.toSized.of_cursor h.valid.cursor_row h.valid.cols_pos nofun
  have col : g.toFirstColumn.feedLine.cursor.col = 0 :=
    (sized.feedLine (Nat.le_trans (Nat.add_le_add_right (Nat.le_of_eq h.line_eq) 2) hroom)).2.1
  exact .below sized hshapes h.line_eq hroom rfl col rfl

/-- A character is written over the first blank of a row that is not full. -/
theorem writeShape_shape {row : List UInt8} (hroom : row.length < cols) (b : UInt8) :
    writeShape row.length (letter b) (Page.shape cols (row, false)) =
      Page.shape cols (row ++ [b], false) := by
  have narrow : ∀ c ∈ (Page.shape cols (row, false)).1, c.extent = .narrow := fun c hc =>
    Reflow.narrow_append_padding (letter_narrow row) _ c (List.mem_toArray.1 hc)
  obtain ⟨blanks, hblanks⟩ : ∃ m, cols = row.length + (m + 1) := ⟨cols - row.length - 1, by omega⟩
  have length : (row.map letter).length = row.length := by rw [List.length_map]
  have before : cols - row.length = blanks + 1 := by omega
  have after : cols - (row ++ [b]).length = blanks := by
    rw [List.length_append, List.length_singleton]; omega
  rw [writeShape, splitAt_narrow narrow, Page.shape, Page.shape, before, after,
    List.setIfInBounds_toArray, ← length, List.set_append_right _ _ (Nat.le_refl _), Nat.sub_self,
    padding, List.replicate_succ,
    List.set_cons_zero, List.map_append, List.append_assoc]
  rfl

/-- A character that is typed without a pending wrap goes where the cursor is, which moves on. -/
theorem Paged.typeLetter (h : g.Paged cols rows scrollback p)
    (hpending : g.cursor.pendingWrap = false) (b : UInt8) :
    (g.typeLetter b).Paged cols rows scrollback { p with row := p.row ++ [b] } := by
  have col : g.cursor.col = p.row.length := by simpa [hpending] using h.col_eq
  obtain ⟨sized, -, history, written⟩ := h.toSized.write b
  obtain ⟨k, shapes⟩ := h.map_modify (writeShape g.cursor.col (letter b))
  obtain ⟨hrow, hcol, hlast, hnext⟩ :=
    cursorAfter_spec g.cursor.row (Nat.succ_le_of_lt h.valid.cursor_col) h.valid.cols_pos
  rw [typeLetter_eq h.valid]
  generalize Terminal.cursorAfter g.cursor.row (g.cursor.col + 1) cols =
    after at hrow hcol hlast hnext
  refine ⟨sized.of_cursor (hrow ▸ h.valid.cursor_row) hcol hlast,
    ⟨k, (written.trans shapes).trans ?_⟩, ?_, ?_⟩
  · rw [col, writeShape_shape (col ▸ h.valid.cursor_col), Page.shapes_eq, List.append_assoc]
    rfl
  · show (g.write g.cursor.row g.cursor.col b.toNat 1 {} 0).history + after.row = p.above.length
    rw [history, hrow, h.line_eq]
  · rw [List.length_append, ← col]
    exact hnext

/-- The next character is typed, in the next row if a wrap is pending. -/
theorem Paged.typeNext (h : g.Paged cols rows scrollback p) (b : UInt8)
    (hroom : (p.put cols b).above.length < g.capacity) :
    (g.typeNext b).Paged cols rows scrollback (p.put cols b) := by
  have col := h.col_eq
  unfold Grid.typeNext
  unfold Page.put at hroom ⊢
  by_cases hpending : g.cursor.pendingWrap = true
  · have last := h.valid.pending hpending
    have full : ¬p.row.length < cols := by
      rw [← col, if_pos hpending]
      omega
    rw [if_neg full] at hroom ⊢
    rw [if_pos hpending]
    rw [Page.advance, List.length_append] at hroom
    exact (h.nextRow hroom).typeLetter rfl b
  · have room : p.row.length < cols := by
      rw [← col, if_neg hpending]
      exact h.valid.cursor_col
    rw [if_pos room, if_neg hpending]
    exact h.typeLetter (Bool.eq_false_of_not_eq_true hpending) b

/-- The screen shows what was written and blanks. -/
theorem Paged.cell (h : g.Paged cols rows scrollback p) {row col : Nat} {c : Cell}
    (hc : g.cell? row col = some c) : c = {} ∨ ∃ b ∈ p.text, c = letter b := by
  obtain ⟨k, hshapes⟩ := h.shapes_eq
  obtain ⟨r, hr, hcell⟩ := h.valid.mem_lines_of_cell hc
  have mem : r.shape ∈ p.shapes cols ++ List.replicate k (Row.blankShape cols) :=
    hshapes ▸ List.mem_map_of_mem hr
  rcases List.mem_append.1 mem with mem | mem
  · obtain ⟨s, hs, hshape⟩ := List.mem_map.1 mem
    have cells : (s.1.map letter ++ padding (cols - s.1.length)).toArray = r.cells :=
      congrArg Prod.fst hshape
    rw [← cells, List.mem_toArray] at hcell
    rcases List.mem_append.1 hcell with hc | hc
    · obtain ⟨b, hb, rfl⟩ := List.mem_map.1 hc
      exact .inr ⟨b, Page.mem_text hs hb, rfl⟩
    · exact .inl (eq_of_mem_padding hc)
  · have cells : r.cells = Array.replicate cols {} :=
      congrArg Prod.fst (List.eq_of_mem_replicate mem)
    rw [cells] at hcell
    exact .inl (Array.eq_of_mem_replicate hcell)

end Grid

end Teletype
