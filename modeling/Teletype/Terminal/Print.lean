import Teletype.Grid.Edit
import Teletype.Terminal.Motion
import Teletype.Text.Quoted

/-!
# Printing

A character goes into a cell of its own or joins the one before it. After the last column was
written the cursor stays there with a pending wrap, and the next character starts a new row.
-/

namespace Teletype.Terminal

/-- Goes to the start of the next row, which the text of this one goes on in. -/
def wrapLine (t : Terminal) : Terminal :=
  let row := t.cursor.row
  let t := (t.modifyGrid (·.modifyRow row ({ · with wrapped := true }))).lineFeed
  t.putCursor { t.cursor with col := 0 }

/-- The cursor after the columns up to but not including `next` of a row were written. -/
def cursorAfter (row next cols : Nat) : Cursor :=
  if cols ≤ next then ⟨row, cols - 1, true⟩ else ⟨row, next, false⟩

/-- Makes room for a glyph at the cursor. The answer is the column where it goes. -/
def makeRoom (t : Terminal) (width : Nat) : Terminal × Nat :=
  let autowrap := t.modes.dec.autowrap
  let t := if t.cursor.pendingWrap && autowrap then t.wrapLine else t
  let col := t.cursor.col
  if width = 2 && t.grid.cols ≤ col + 1 then
    if autowrap then (t.wrapLine, 0) else (t, t.grid.cols - 2)
  else (t, col)

/-- Writes a glyph at a column of the cursor's row, pushing cells aside in insert mode. -/
def placeGlyph (t : Terminal) (c : Char) (width col : Nat) : Terminal :=
  let insert := t.modes.insert
  let rendition := t.rendition
  let link := t.link
  t.modifyGrid fun g =>
    let row := g.cursor.row
    let g :=
      if insert then
        { g with cursor := { g.cursor with col := col } }.insertChars width rendition.background
      else g
    let g := g.write row col c.toNat width rendition link
    { g with cursor := cursorAfter row (col + width) g.cols }

/-- Prints a glyph of one or two columns in a cell of its own. -/
def printGlyph (t : Terminal) (c : Char) (width : Nat) : Terminal :=
  if width = 2 && t.grid.cols < 2 then
    t.note .debug "wide character does not fit" [("ch", Text.Quoted.char c)]
  else
    let (t, col) := t.makeRoom width
    let row := t.cursor.row
    { t.placeGlyph c width col with lastPrinted := some c, composeAt := some (row, col) }

/-- Whether a character joins the cell at a place. Marks always do; other characters do if they
belong to the same cluster and clusters are wanted. -/
def attaches (t : Terminal) (row col : Nat) (c : Char) (width : Nat) : Bool :=
  match t.grid.cell? row col with
  | none => false
  | some cell =>
    if cell.key = 0 then false
    else if width = 0 then true
    else if !t.modes.dec.graphemeShaping then false
    else if c.toNat < 0x80 && cell.key < 0x80 then false
    else t.clusters.extends? cell.key c

/-- The grid after the glyph at a place became a cluster. A glyph that grew takes the cursor with
it. -/
def composeGrid (g : Grid) (row col oldWidth : Nat) (glyph : Glyph) : Grid :=
  let (g, applied) := g.compose row col glyph.key glyph.width
  if oldWidth < applied then
    let next := col + applied
    if g.cols ≤ next || (g.cursor.row = row && g.cursor.col < next) then
      { g with cursor := cursorAfter row next g.cols }
    else g
  else g

/-- Adds a character to the cell at a place. -/
def compose (t : Terminal) (row col : Nat) (c : Char) : Terminal :=
  match t.grid.cell? row col with
  | none => t
  | some cell =>
    let r := t.clusters.append cell.key c t.config.widthMethod
    let t := { t with clusters := r.value.1 }.noteAll r.reports
    match r.value.2 with
    | none => t
    | some glyph => t.modifyGrid fun g => composeGrid g row col cell.width glyph

/-- Prints a character through the character set in use. A mark that has nothing to join is
dropped. -/
def print (t : Terminal) (c : Char) : Terminal :=
  let (charsets, c) := t.charsets.translate c
  let t := { t with charsets := charsets }
  let width := Text.displayWidth c
  let joined := match t.composeAt with
    | some (row, col) => if t.attaches row col c width then some (row, col) else none
    | none => none
  match joined with
  | some (row, col) => t.compose row col c
  | none => if width = 0 then t else t.printGlyph c width

/-- Prints the last printed character `n` times more. -/
def repeatLast (t : Terminal) (n : Nat) : Terminal :=
  match t.lastPrinted with
  | none => t
  | some c =>
    let width := Text.displayWidth c
    if width = 0 then t else Nat.repeat (printGlyph · c width) n t

end Teletype.Terminal
