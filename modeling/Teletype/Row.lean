import Teletype.Cell

/-!
# Rows

A row of cells, and what editing does to it. Where an edit cuts a glyph of two columns in half, the
half that is left becomes blank.
-/

namespace Teletype

/-- One row. -/
structure Row where
  cells : Array Cell
  /-- The number that the row got when it was last started anew. -/
  seq : Nat
  /-- The row changed since the last frame. -/
  dirty : Bool := true
  /-- A shell prompt starts on this row. -/
  prompt : Bool := false
  /-- The text goes on in the next row. -/
  wrapped : Bool := false
  deriving DecidableEq

namespace Row

/-- A row of `cols` cells that show nothing. -/
def blank (cols : Nat) (background : Color) (seq : Nat) : Row :=
  { cells := Array.replicate cols (.blank background), seq := seq }

/-- Whether nothing shows in the row, and its text does not go on. -/
def isBlank (r : Row) : Bool := !r.wrapped && r.cells.all Cell.isEmpty

/-- The row started anew with the given number. -/
def reset (r : Row) (background : Color) (seq : Nat) : Row :=
  blank r.cells.size background seq

/-- Erases the cell at a column to its own background if `test` holds of it. -/
def eraseIf (cells : Array Cell) (col : Nat) (test : Cell → Bool) : Array Cell :=
  cells.modify col fun c => if test c then c.eraseKept else c

/-- Makes blank what is left of a glyph of two columns when the cell at `col` is overwritten. -/
def splitAt (cells : Array Cell) (col : Nat) : Array Cell :=
  match cells[col]? with
  | none => cells
  | some c =>
    match c.extent with
    | .narrow => cells
    | .head => cells.modify (col + 1) Cell.eraseKept
    | .tail => if col = 0 then cells else cells.modify (col - 1) Cell.eraseKept

/-- The cells with those from `first` up to but not including `last` replaced by blanks. -/
def blankRange (cells : Array Cell) (first last : Nat) (background : Color) : Array Cell :=
  cells.extract 0 first ++ Array.replicate (last - first) (.blank background)
    ++ cells.extract last cells.size

/-- Erases the columns from `first` up to but not including `last`. -/
def eraseRange (r : Row) (first last : Nat) (background : Color) : Row :=
  let last := min last r.cells.size
  if last ≤ first then r
  else
    let cells := match r.cells[first]? with
      | some c =>
        if c.isTail && 0 < first then r.cells.modify (first - 1) Cell.eraseKept else r.cells
      | none => r.cells
    let cells := eraseIf cells last Cell.isTail
    { r with cells := blankRange cells first last background, dirty := true }

/-- Erases the cell at a column to the given background if `test` holds of it. -/
def blankIf (cells : Array Cell) (col : Nat) (test : Cell → Bool) (background : Color) :
    Array Cell :=
  cells.modify col fun c => if test c then .blank background else c

/-- Whether a right half stands at the column. -/
def isTailAt (cells : Array Cell) (col : Nat) : Bool :=
  match cells[col]? with
  | some c => c.isTail
  | none => false

/-- Moves the cells from a column on to the right by `n`; the last ones come to that column. -/
def rotateRight (cells : Array Cell) (col n : Nat) : Array Cell :=
  cells.extract 0 col ++ cells.extract (cells.size - n) cells.size
    ++ cells.extract col (cells.size - n)

/-- Moves the cells from a column on to the left by `n`; those at that column come to the end. -/
def rotateLeft (cells : Array Cell) (col n : Nat) : Array Cell :=
  cells.extract 0 col ++ cells.extract (col + n) cells.size ++ cells.extract col (col + n)

/-- Makes room for `n` blank cells at a column; the cells pushed past the end are lost. -/
def insertBlanks (r : Row) (col n : Nat) (background : Color) : Row :=
  let size := r.cells.size
  if size ≤ col || n = 0 then r
  else
    let n := min n (size - col)
    let cut := isTailAt r.cells col
    let cells :=
      if cut && 0 < col then r.cells.modify (col - 1) (·.erase background) else r.cells
    let cells := blankRange (rotateRight cells col n) col (col + n) background
    let cells := if cut then blankIf cells (col + n) Cell.isTail background else cells
    { r with cells := blankIf cells (size - 1) Cell.isHead background }

/-- Takes `n` cells out at a column; blanks fill up the end. -/
def deleteCells (r : Row) (col n : Nat) (background : Color) : Row :=
  let size := r.cells.size
  if size ≤ col || n = 0 then r
  else
    let n := min n (size - col)
    let cells :=
      if isTailAt r.cells col && 0 < col then r.cells.modify (col - 1) (·.erase background)
      else r.cells
    let cells := blankRange (rotateLeft cells col n) (size - n) size background
    { r with cells := blankIf cells col Cell.isTail background }

/-- Writes a glyph of one or two columns, if it fits. -/
def write (r : Row) (col : Nat) (key width : Nat) (rendition : Rendition) (link : Nat) : Row :=
  let cells := splitAt r.cells col
  let head : Cell := ⟨key, .ofWidth width, rendition, link⟩
  if width = 2 then
    let cells := splitAt cells (col + 1)
    let cells := (cells.setIfInBounds col head).setIfInBounds (col + 1) (.tail rendition link)
    { r with cells := cells }
  else { r with cells := cells.setIfInBounds col head }

/-- Replaces the glyph at a column by a cluster. A narrow glyph that grows takes the next column if
there is one. The answer is the width that the glyph now has. -/
def compose (r : Row) (col : Nat) (key width : Nat) : Row × Nat :=
  match r.cells[col]? with
  | none => (r, 0)
  | some c =>
    let grown := 2 ≤ width && col + 1 < r.cells.size
    let cells :=
      if grown && !c.isHead then
        (splitAt r.cells (col + 1)).setIfInBounds (col + 1) (.tail c.rendition c.link)
      else r.cells
    let width := if c.isHead || grown then 2 else 1
    ({ r with cells := cells.modify col (·.setKey key width) }, width)

/-- The row cut off or filled up to `cols` columns. -/
def fit (r : Row) (cols : Nat) : Row :=
  if cols < r.cells.size then
    let cells := r.cells.extract 0 cols
    { r with cells := eraseIf cells (cols - 1) Cell.isHead }
  else { r with cells := r.cells ++ Array.replicate (cols - r.cells.size) {} }

end Row

end Teletype
