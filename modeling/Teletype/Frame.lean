import Teletype.Terminal.Basic

/-!
# Frames

What a renderer is given to draw.
-/

namespace Teletype

/-- The state of a terminal as it is drawn. -/
structure Frame where
  /-- The number of the terminal. -/
  id : Nat
  cols : Nat
  rows : Nat
  /-- The rows in view. -/
  lines : List Row
  cursor : Cursor
  cursorVisible : Bool
  title : String
  /-- The alternate screen is in use. -/
  alternate : Bool

namespace Frame

/-- The frame that shows a terminal as it is. -/
def capture (id : Nat) (t : Terminal) : Frame :=
  { id
    cols := t.grid.cols
    rows := t.grid.rows
    lines := t.grid.displayed
    cursor := t.cursor
    cursorVisible := t.modes.dec.cursorVisible
    title := t.title
    alternate := t.isAlternate }

/-- How many rows changed since the frame before. -/
def dirtyRows (f : Frame) : Nat := f.lines.countP Row.dirty

/-- The report on the frame, which is the `n`th of all. -/
def report (f : Frame) (n : Nat) : Report :=
  ⟨.debug, "frame",
    [("id", toString f.id), ("frame", toString n), ("size", s!"{f.cols}x{f.rows}"),
      ("dirty", toString f.dirtyRows), ("cursor", s!"{f.cursor.row},{f.cursor.col}"),
      ("alternate", toString f.alternate)]⟩

end Frame

end Teletype
