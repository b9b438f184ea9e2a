import Teletype.Grid.Basic
import Teletype.Report

/-!
# Writing and erasing

What printing and the editing functions do to the cells at the cursor and to whole rows.
-/

namespace Teletype.Grid

/-- Erases columns of a row. -/
def eraseInRow (g : Grid) (row first last : Nat) (background : Color) : Grid :=
  g.modifyRow row (·.eraseRange first last background)

/-- Erases a row, which keeps its number. -/
def eraseRow (background : Color) (g : Grid) (row : Nat) : Grid :=
  g.modifyRow row fun r => r.reset background r.seq

/-- Erases the rows from `first` up to but not including `last`. -/
def eraseRows (g : Grid) (first last : Nat) (background : Color) : Grid :=
  (List.range' first (last - first)).foldl (eraseRow background) g

/-- Ends the text of a row on that row. -/
def clearWrap (g : Grid) (row : Nat) : Grid := g.modifyRow row ({ · with wrapped := false })

/-- Drops the scrollback. -/
def eraseScrollback (g : Grid) : Grid :=
  let first := g.offset + g.capacity - g.history
  { g with
    slots := (List.range g.history).foldl
      (fun slots i =>
        slots.modify ((first + i) % g.capacity) (·.reset .default (g.nextSeq + i)))
      g.slots
    nextSeq := g.nextSeq + g.history
    history := 0
    view := g.offset }

/-- Erases from the cursor to the end of its row. -/
def eraseRight (g : Grid) (background : Color) : Grid :=
  (g.eraseInRow g.cursor.row g.cursor.col g.cols background).clearWrap g.cursor.row

/-- Erases from the start of the cursor's row up to the cursor. -/
def eraseLeft (g : Grid) (background : Color) : Grid :=
  g.eraseInRow g.cursor.row 0 (g.cursor.col + 1) background

/-- Erases a part of the display: 0 below the cursor, 1 above it, 2 the screen, 3 the scrollback. -/
def eraseDisplay (g : Grid) (mode : Nat) (background : Color) : Reported Grid :=
  match mode with
  | 0 => ⟨(g.eraseRight background).eraseRows (g.cursor.row + 1) g.rows background, []⟩
  | 1 => ⟨(g.eraseRows 0 g.cursor.row background).eraseLeft background, []⟩
  | 2 => ⟨g.eraseRows 0 g.rows background, []⟩
  | 3 => ⟨g.eraseScrollback, []⟩
  | mode => ⟨g, [⟨.debug, "unknown ED mode", [("mode", toString mode)]⟩]⟩

/-- Erases a part of the cursor's row: 0 right of the cursor, 1 left of it, 2 all of it. -/
def eraseLine (g : Grid) (mode : Nat) (background : Color) : Reported Grid :=
  match mode with
  | 0 => ⟨g.eraseRight background, []⟩
  | 1 => ⟨g.eraseLeft background, []⟩
  | 2 => ⟨eraseRow background g g.cursor.row, []⟩
  | mode => ⟨g, [⟨.debug, "unknown EL mode", [("mode", toString mode)]⟩]⟩

/-- Erases `n` cells from the cursor on, at least one. -/
def eraseChars (g : Grid) (n : Nat) (background : Color) : Grid :=
  g.eraseInRow g.cursor.row g.cursor.col (min (g.cursor.col + max n 1) g.cols) background

/-- Starts every row anew and takes the cursor home. -/
def clearAll (g : Grid) : Grid :=
  { g with
    slots := g.slots.mapIdx fun i r => r.reset .default (g.nextSeq + i)
    nextSeq := g.nextSeq + g.capacity
    history := 0
    view := g.offset
    region := .full g.rows
    cursor := {}
    saved := {} }

/-- Fills the screen with a character in the default rendition. -/
def fill (g : Grid) (c : Char) : Grid :=
  (List.range g.rows).foldl
    (fun g row => g.modifyRow row fun r =>
      { r with wrapped := false, cells := Array.replicate r.cells.size (.ofChar c) })
    g

/-- Inserts `n` blank cells at the cursor. -/
def insertChars (g : Grid) (n : Nat) (background : Color) : Grid :=
  g.modifyRow g.cursor.row (·.insertBlanks g.cursor.col n background)

/-- Takes `n` cells out at the cursor. -/
def deleteChars (g : Grid) (n : Nat) (background : Color) : Grid :=
  g.modifyRow g.cursor.row (·.deleteCells g.cursor.col n background)

/-- Whether a glyph of the given width fits at a place. -/
def fits (g : Grid) (row col width : Nat) : Bool :=
  row < g.rows && col < g.cols && (width ≠ 2 || col + 1 < g.cols)

/-- Writes a glyph of one or two columns at a place if it fits there. -/
def write (g : Grid) (row col key width : Nat) (rendition : Rendition) (link : Nat) : Grid :=
  let width := if width ≤ 1 then 1 else 2
  if g.fits row col width then g.modifyRow row (·.write col key width rendition link) else g

/-- Replaces the glyph of a cell by a cluster. The answer is the width that the glyph now has, or 0
if there is no such cell. -/
def compose (g : Grid) (row col key width : Nat) : Grid × Nat :=
  let applied := match g.row? row with
    | some r => (r.compose col key width).2
    | none => 0
  (g.modifyRow row fun r => (r.compose col key width).1, applied)

end Teletype.Grid
