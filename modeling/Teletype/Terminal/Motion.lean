import Teletype.Grid.Scroll
import Teletype.Terminal.Basic

/-!
# Moving the cursor

Every motion keeps the cursor on the screen. In origin mode rows are counted from the top of the
scroll region.
-/

namespace Teletype.Terminal

/-- Goes to the next row, scrolling at the end of the region. -/
def lineFeed (t : Terminal) : Terminal :=
  let background := t.rendition.background
  t.modifyGrid fun g =>
    let row := g.cursor.row
    let g :=
      if row + 1 = g.region.bottom then g.scrollUp 1 background
      else if row + 1 < g.rows then { g with cursor := { g.cursor with row := row + 1 } }
      else g
    g.clearPending

/-- Goes to the row above, scrolling at the start of the region. -/
def reverseIndex (t : Terminal) : Terminal :=
  let background := t.rendition.background
  t.modifyGrid fun g =>
    let row := g.cursor.row
    let g :=
      if row = g.region.top then g.scrollDown 1 background
      else { g with cursor := { g.cursor with row := row - 1 } }
    g.clearPending

/-- Goes to the first column. -/
def carriageReturn (t : Terminal) : Terminal := t.modifyGrid Grid.toFirstColumn

/-- One column back, which in reverse wrap mode may lead to the row above. -/
def backspace (t : Terminal) : Terminal :=
  let reverseWrap := t.modes.dec.reverseWrap
  t.modifyGrid fun g =>
    let c := g.cursor
    if c.pendingWrap then g.clearPending
    else if 0 < c.col then { g with cursor := { c with col := c.col - 1 } }
    else if reverseWrap && 0 < c.row then
      { g with cursor := { c with row := c.row - 1, col := g.cols - 1 } }
    else g

/-- The column after `n` steps to the next tab stop, or the last column. -/
def tabAfter (tabs : List Nat) (last : Nat) : Nat → Nat → Nat
  | 0, col => col
  | n + 1, col =>
    let next := min ((tabs.find? (col < ·)).getD last) last
    if next = last then last else tabAfter tabs last n next

/-- The column after `n` steps to the previous tab stop, or the first column. -/
def tabBefore (tabs : List Nat) : Nat → Nat → Nat
  | 0, col => col
  | n + 1, col =>
    let next := ((tabs.filter (· < col)).getLast?).getD 0
    if next = 0 then 0 else tabBefore tabs n next

/-- Goes to the `n`-th next tab stop. -/
def tabForward (t : Terminal) (n : Nat) : Terminal :=
  t.putCursor { t.cursor with col := tabAfter t.tabs (t.grid.cols - 1) n t.cursor.col }

/-- Goes to the `n`-th previous tab stop. -/
def tabBackward (t : Terminal) (n : Nat) : Terminal :=
  t.putCursor { t.cursor with col := tabBefore t.tabs n t.cursor.col, pendingWrap := false }

/-- Sets a tab stop at the cursor. -/
def setTab (t : Terminal) : Terminal :=
  let col := t.cursor.col
  if t.tabs.contains col then t
  else { t with tabs := t.tabs.filter (· < col) ++ col :: t.tabs.filter (col < ·) }

/-- The rows that the cursor can be sent to, with both ends in. -/
def addressableRows (t : Terminal) : Nat × Nat :=
  let g := t.grid
  if t.modes.dec.origin then (g.region.top, g.region.bottom - 1) else (0, g.rows - 1)

/-- To a place counted from the origin. -/
def goTo (t : Terminal) (row col : Nat) : Terminal :=
  let (top, bottom) := t.addressableRows
  t.modifyGrid (·.setCursor (min (top + row) bottom) col)

/-- Up by at most `n` rows, in origin mode only as far as the region. -/
def cursorUp (t : Terminal) (n : Nat) : Terminal :=
  let top := t.addressableRows.1
  t.modifyGrid fun g => g.setCursor (g.cursor.row - min n (g.cursor.row - top)) g.cursor.col

/-- Down by at most `n` rows, in origin mode only as far as the region. -/
def cursorDown (t : Terminal) (n : Nat) : Terminal :=
  let bottom := t.addressableRows.2
  t.modifyGrid fun g => g.setCursor (g.cursor.row + min n (bottom - g.cursor.row)) g.cursor.col

/-- Right by at most `n` columns. -/
def cursorRight (t : Terminal) (n : Nat) : Terminal :=
  t.modifyGrid fun g => g.setCursor g.cursor.row (g.cursor.col + n)

/-- Left by at most `n` columns. -/
def cursorLeft (t : Terminal) (n : Nat) : Terminal :=
  t.modifyGrid fun g => g.setCursor g.cursor.row (g.cursor.col - n)

/-- Where the cursor is, counted from 1 and in origin mode from the region. -/
def reportedPosition (t : Terminal) : Nat × Nat :=
  let row := if t.modes.dec.origin then t.cursor.row - t.grid.region.top else t.cursor.row
  (row + 1, t.cursor.col + 1)

end Teletype.Terminal
