import Teletype.Row

/-!
# Reflow

When the width changes, rows whose text goes on are joined into logical lines, and each line is cut
anew. The cursor stays on its character.
-/

namespace Teletype.Reflow

/-- A place among rows: the row and the column. -/
structure Place where
  line : Nat
  col : Nat
  deriving DecidableEq

/-- A logical line while it is cut into rows. -/
structure Cutting where
  /-- The finished rows. -/
  rows : Array Row
  /-- The cells of the row being filled. -/
  current : Array Cell := #[]
  /-- Where the cursor went, once that is known. -/
  cursor : Option Place := none

namespace Cutting

/-- Finishes the row being filled. -/
def finishRow (s : Cutting) (cols : Nat) (wrapped : Bool) : Cutting :=
  { s with
    rows := s.rows.push
      { cells := s.current ++ Array.replicate (cols - s.current.size) {}
        seq := 0
        wrapped := wrapped }
    current := #[] }

/-- Puts the cursor `back` columns before the next cell. -/
def placeCursor (s : Cutting) (back : Nat) : Cutting :=
  { s with cursor := some ⟨s.rows.size, s.current.size - back⟩ }

/-- Starts a new row if `width` more columns do not fit. -/
def makeRoom (s : Cutting) (cols width : Nat) : Cutting :=
  if cols < s.current.size + width then s.finishRow cols true else s

/-- Adds a cell to the row being filled. -/
def add (s : Cutting) (c : Cell) : Cutting := { s with current := s.current.push c }

/-- Cuts the cells of a line, of which the first is at index `i`, following the cursor at index
`target`. A glyph of two columns is never cut in half; on a screen of one column it is erased. -/
def cells (cols : Nat) (target : Option Nat) (i : Nat) (s : Cutting) : List Cell → Cutting
  | [] => s
  | c :: rest =>
    if c.isTail then
      let s := if target = some i && s.cursor.isNone then s.placeCursor 1 else s
      cells cols target (i + 1) s rest
    else if c.isHead && 2 ≤ cols then
      let s := s.makeRoom cols 2
      let s := if target = some i then s.placeCursor 0 else s
      let s := (s.add c).add (rest.head?.getD (.tail c.rendition 0))
      let s := if target = some (i + 1) then s.placeCursor 1 else s
      cells cols target (i + 2) s rest.tail
    else
      let s := s.makeRoom cols 1
      let s := if target = some i then s.placeCursor 0 else s
      if c.isHead then cells cols target (i + 2) (s.add c.eraseKept) rest.tail
      else cells cols target (i + 1) (s.add c) rest
termination_by l => l.length
decreasing_by all_goals (simp only [List.length_cons, List.length_tail]; omega)

/-- Puts the cursor at a column that may lie beyond the row being filled: further rows are added
until it lies on one. -/
def placeBeyond (s : Cutting) (cols col : Nat) : Cutting :=
  if 0 < cols ∧ cols ≤ col then (s.finishRow cols true).placeBeyond cols (col - cols)
  else { s with cursor := some ⟨s.rows.size, col⟩ }
termination_by col

end Cutting

/-- Cuts a logical line into rows of `cols` cells, which follow `rows`. The cursor is at index
`target` of the line, if it is on it. -/
def cutLine (cols : Nat) (line : List Cell) (target : Option Nat) (rows : Array Row) :
    Array Row × Option Place :=
  let s := Cutting.cells cols target 0 { rows := rows } line
  let s := match s.cursor, target with
    | none, some index => s.placeBeyond cols (s.current.size + (index - line.length))
    | _, _ => s
  let s := s.finishRow cols false
  (s.rows, s.cursor)

/-- Rows while they are joined into logical lines. -/
structure Joining where
  /-- The rows of the finished lines. -/
  rows : Array Row := #[]
  /-- Where the cursor went. -/
  cursor : Place := ⟨0, 0⟩
  /-- The cells of the line being joined. -/
  line : Array Cell := #[]
  /-- The line being joined starts with a prompt. -/
  prompt : Bool := false
  /-- The cursor's index in the line being joined, if it is on it. -/
  target : Option Nat := none

namespace Joining

/-- The line without the empty cells at its end, but for those up to the cursor. -/
def trimmed (s : Joining) : List Cell :=
  let keep := match s.target with
    | some index => index + 1
    | none => 0
  let line := s.line.toList
  line.take keep ++ ((line.drop keep).reverse.dropWhile Cell.isEmpty).reverse

/-- Cuts the given cells as the line being joined. -/
def cut (s : Joining) (cols : Nat) (line : List Cell) : Joining :=
  let (rows, place) := cutLine cols line s.target s.rows
  { s with rows := rows, cursor := place.getD s.cursor }

/-- Marks the row at an index as the start of a prompt, or not. -/
def markPrompt (s : Joining) (index : Nat) : Joining :=
  { s with rows := s.rows.modify index ({ · with prompt := s.prompt }) }

/-- Joins one row, with the cursor's column if the cursor is on it. -/
def addRow (cols : Nat) (s : Joining) (row : Row) (cursor : Option Nat) : Joining :=
  let s := if s.line.isEmpty && s.target.isNone then { s with prompt := row.prompt } else s
  let s := match cursor with
    | some col => { s with target := some (s.line.size + col) }
    | none => s
  let s := { s with line := s.line ++ row.cells }
  if row.wrapped then s
  else
    let next := (s.cut cols s.trimmed).markPrompt s.rows.size
    { rows := next.rows, cursor := next.cursor }

/-- Cuts a last line that lacks its end. -/
def finish (cols : Nat) (s : Joining) : Joining :=
  if s.line.isEmpty && s.target.isNone then s else s.cut cols s.line.toList

end Joining

/-- The rows of `old` cut anew at `cols` columns, and where the cursor went. -/
def rows (old : List Row) (cols : Nat) (cursor : Place) : List Row × Place :=
  let joined := old.zipIdx.foldl
    (fun s (row, i) => s.addRow cols row (if i = cursor.line then some cursor.col else none))
    ({} : Joining)
  let joined := joined.finish cols
  (joined.rows.toList, joined.cursor)

end Teletype.Reflow
