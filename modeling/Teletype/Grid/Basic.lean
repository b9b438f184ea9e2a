import Teletype.Charset
import Teletype.Row

/-!
# The grid

A screen and the lines that scrolled off it, kept in a ring of rows. The screen is a run of slots
from `offset` on; the `history` slots before it hold the scrollback. Rows of the screen are counted
from 0 at its top, lines from 0 at the oldest scrollback line.
-/

namespace Teletype

/-- Which of its two screens a terminal shows. -/
inductive ScreenKind where
  /-- The screen with a scrollback. -/
  | primary
  /-- The screen of full-screen applications. -/
  | alternate
  deriving DecidableEq

/-- A place on the screen. -/
structure Cursor where
  row : Nat := 0
  col : Nat := 0
  /-- The last column was just written: the next character goes to the next line first. -/
  pendingWrap : Bool := false
  deriving DecidableEq

/-- What saving the cursor keeps. -/
structure SavedCursor where
  cursor : Cursor := {}
  rendition : Rendition := {}
  charsets : Charsets := {}
  origin : Bool := false
  autowrap : Bool := true
  deriving DecidableEq

/-- The rows that scroll: from `top` up to but not including `bottom`. -/
structure Region where
  top : Nat
  bottom : Nat
  deriving DecidableEq

namespace Region

/-- The whole screen. -/
def full (rows : Nat) : Region := ⟨0, rows⟩

/-- Whether the region is the whole screen. -/
def isFull (r : Region) (rows : Nat) : Bool := r.top = 0 && r.bottom = rows

/-- Whether the region has the row. -/
def contains (r : Region) (row : Nat) : Bool := r.top ≤ row && row < r.bottom

end Region

/-- A screen with its scrollback. -/
structure Grid where
  kind : ScreenKind
  /-- The ring. -/
  slots : Array Row
  cols : Nat
  /-- The height of the screen. -/
  rows : Nat
  /-- The slot of the top row of the screen. -/
  offset : Nat
  /-- The slot of the top row displayed, which is `offset` unless the view is scrolled back. -/
  view : Nat
  /-- How many scrollback lines there are. -/
  history : Nat
  /-- How many scrollback lines were asked for. -/
  scrollback : Nat
  region : Region
  cursor : Cursor
  saved : SavedCursor
  /-- The number of the next row that is started anew. -/
  nextSeq : Nat

namespace Grid

/-- The least power of two that is at least `n`. -/
def nextPowerOfTwo (n : Nat) : Nat := if n ≤ 1 then 1 else Nat.pow 2 ((n - 1).log2 + 1)

/-- The size of the ring: room for the scrollback, rounded up to a power of two, or on the
alternate screen just the screen. -/
def capacityFor (kind : ScreenKind) (rows scrollback : Nat) : Nat :=
  match kind with
  | .primary => nextPowerOfTwo (scrollback + rows)
  | .alternate => rows

/-- An empty grid of at least one row and column. -/
def new (kind : ScreenKind) (cols rows scrollback : Nat) : Grid :=
  let cols := max cols 1
  let rows := max rows 1
  let capacity := capacityFor kind rows scrollback
  { kind, cols, rows, scrollback
    slots := (Array.range capacity).map fun seq => Row.blank cols .default seq
    offset := 0
    view := 0
    history := 0
    region := .full rows
    cursor := {}
    saved := {}
    nextSeq := capacity }

/-- How many rows the ring has. -/
def capacity (g : Grid) : Nat := g.slots.size

/-- The slot of a row of the screen. -/
def slotOf (g : Grid) (row : Nat) : Nat := (g.offset + row) % g.capacity

/-- The slot of a line. -/
def slotOfLine (g : Grid) (line : Nat) : Nat :=
  (g.offset + g.capacity - g.history + line) % g.capacity

/-- How many lines there are: the scrollback and the screen. -/
def lineCount (g : Grid) : Nat := g.history + g.rows

/-- A row of the screen. -/
def row? (g : Grid) (row : Nat) : Option Row :=
  if row < g.rows then g.slots[g.slotOf row]? else none

/-- A cell of the screen. -/
def cell? (g : Grid) (row col : Nat) : Option Cell := (g.row? row).bind (·.cells[col]?)

/-- A line. -/
def line? (g : Grid) (line : Nat) : Option Row :=
  if line < g.lineCount then g.slots[g.slotOfLine line]? else none

/-- All lines, the oldest first. -/
def lines (g : Grid) : List Row := (List.range g.lineCount).filterMap g.line?

/-- The rows that are displayed, from the top. -/
def displayed (g : Grid) : List Row :=
  (List.range g.rows).filterMap fun row => g.slots[(g.view + row) % g.capacity]?

/-- Changes a row of the screen, which is dirty from then on. -/
def modifyRow (g : Grid) (row : Nat) (f : Row → Row) : Grid :=
  if row < g.rows then
    { g with slots := g.slots.modify (g.slotOf row) fun r => f { r with dirty := true } }
  else g

/-- Marks every row of the ring. -/
def markAllDirty (g : Grid) : Grid :=
  { g with slots := g.slots.map fun r => { r with dirty := true } }

/-- Takes the marks off. -/
def clearDirty (g : Grid) : Grid :=
  { g with slots := g.slots.map fun r => { r with dirty := false } }

/-- Whether a row of the screen is marked. -/
def anyDirty (g : Grid) : Bool :=
  (List.range g.rows).any fun row => ((g.row? row).map Row.dirty).getD false

/-- Moves the cursor to a place, or as near to it as the screen allows. -/
def setCursor (g : Grid) (row col : Nat) : Grid :=
  { g with cursor := ⟨min row (g.rows - 1), min col (g.cols - 1), false⟩ }

/-- Drops a pending wrap. -/
def clearPending (g : Grid) : Grid :=
  { g with cursor := { g.cursor with pendingWrap := false } }

/-- Changes the rows that scroll; an empty region is ignored. -/
def setRegion (g : Grid) (top bottom : Nat) : Grid :=
  let bottom := min bottom g.rows
  if top < bottom then { g with region := ⟨top, bottom⟩ } else g

end Grid

end Teletype
