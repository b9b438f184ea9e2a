import Teletype.Grid.Basic
import Teletype.Grid.Reflow

/-!
# Changing the size

Blank rows below the cursor go first. Then the last rows become the screen, unless the cursor would
be above it, and the rest becomes scrollback, as much of it as fits.
-/

namespace Teletype.Grid

/-- The list without the blank rows at its end, but for its first `keep` rows. -/
def dropBlankEnd (keep : Nat) (rows : List Row) : List Row :=
  rows.take keep ++ ((rows.drop keep).reverse.dropWhile Row.isBlank).reverse

/-- The lines and the cursor after the width has changed. -/
def refit (g : Grid) (cols : Nat) (reflow : Bool) : List Row × Reflow.Place :=
  let cursor : Reflow.Place := ⟨g.history + g.cursor.row, g.cursor.col⟩
  if reflow && cols ≠ g.cols then Reflow.rows g.lines cols cursor
  else (g.lines.map (·.fit cols), ⟨cursor.line, min cursor.col (cols - 1)⟩)

/-- The lines that a screen of the given height keeps when the cursor is on the given line. -/
def settle (cols rows line : Nat) (lines : List Row) : List Row :=
  let lines := dropBlankEnd (line + 1) lines
  let lines := lines ++ List.replicate (rows - lines.length) (Row.blank cols .default 0)
  lines.take (line + rows)

/-- The ring of the given size with the lines in its first slots, all rows numbered anew. -/
def ringOf (capacity cols firstSeq : Nat) (lines : List Row) : Array Row :=
  (lines.zipIdx.map fun (row, i) => { row with seq := firstSeq + i, dirty := true }).toArray
    ++ (Array.range (capacity - lines.length)).map fun i =>
      Row.blank cols .default (firstSeq + lines.length + i)

/-- Changes the size. With `reflow` the text is cut anew at another width; else rows are cut off or
filled up. -/
def resize (g : Grid) (rows cols : Nat) (reflow : Bool) : Grid :=
  let rows := max rows 1
  let cols := max cols 1
  if rows = g.rows && cols = g.cols then g
  else
    let (lines, cursor) := g.refit cols reflow
    let lines := settle cols rows cursor.line lines
    let capacity := capacityFor g.kind rows g.scrollback
    let drop := lines.length - rows - (capacity - rows)
    let lines := lines.drop drop
    let history := lines.length - rows
    let slots := ringOf capacity cols g.nextSeq lines
    let saved := g.saved.cursor
    { g with
      slots, cols, rows, history
      offset := history % capacity
      view := history % capacity
      region := .full rows
      cursor := ⟨cursor.line - drop - history, min cursor.col (cols - 1), false⟩
      saved := { g.saved with
        cursor := ⟨min saved.row (rows - 1), min saved.col (cols - 1), false⟩ }
      nextSeq := g.nextSeq + slots.size }

end Teletype.Grid
