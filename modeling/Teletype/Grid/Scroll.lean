import Teletype.Grid.Basic

/-!
# Scrolling

When the whole screen scrolls up, the ring turns and the top row becomes the newest line of the
scrollback. In every other case rows move within the region, and those that leave it are lost.
-/

namespace Teletype.Grid

/-- Swaps two rows of the screen. -/
def swapRows (g : Grid) (a b : Nat) : Grid :=
  { g with slots := g.slots.swapIfInBounds (g.slotOf a) (g.slotOf b) }

/-- Starts a row of the screen anew, with the next number. -/
def resetRow (background : Color) (g : Grid) (row : Nat) : Grid :=
  { g with
    slots := g.slots.modify (g.slotOf row) (·.reset background g.nextSeq)
    nextSeq := g.nextSeq + 1 }

/-- Marks a row of the screen. -/
def markRow (g : Grid) (row : Nat) : Grid :=
  { g with slots := g.slots.modify (g.slotOf row) fun r => { r with dirty := true } }

/-- Swaps each row between `top` and `bottom` with the one `n` below it, from the top on, as long as
there is one. -/
def swapUp (g : Grid) (top bottom n : Nat) : Grid :=
  (List.range' top (bottom - n - top)).foldl (fun g row => g.swapRows row (row + n)) g

/-- Swaps each row between `top` and `bottom` with the one `n` above it, from the bottom on, as long
as there is one. -/
def swapDown (g : Grid) (top bottom n : Nat) : Grid :=
  (List.range' (top + n) (bottom - (top + n))).reverse.foldl
    (fun g row => g.swapRows row (row - n)) g

/-- Starts `n` rows from `top` on anew. -/
def resetRows (g : Grid) (top n : Nat) (background : Color) : Grid :=
  (List.range' top n).foldl (resetRow background) g

/-- Marks the rows between `top` and `bottom`. -/
def markRows (g : Grid) (top bottom : Nat) : Grid :=
  (List.range' top (bottom - top)).foldl markRow g

/-- Marks every row of the screen. -/
def markScreenDirty (g : Grid) : Grid :=
  let offset := g.offset
  let mark (slots : Array Row) (row : Nat) : Array Row :=
    slots.modify ((offset + row) % slots.size) fun r => { r with dirty := true }
  { g with slots := (List.range g.rows).foldl mark g.slots }

/-- Moves the rows between `top` and `bottom` up by `n`. The rows that are pushed out come to the
end and are started anew there. -/
def shiftUp (g : Grid) (top bottom n : Nat) (background : Color) : Grid :=
  let bottom := min bottom g.rows
  if bottom ≤ top ∨ n = 0 then g
  else
    let n := min n (bottom - top)
    ((g.swapUp top bottom n).resetRows (bottom - n) n background).markRows top bottom

/-- Moves the rows between `top` and `bottom` down by `n`. The rows that are pushed out come to the
beginning and are started anew there. -/
def shiftDown (g : Grid) (top bottom n : Nat) (background : Color) : Grid :=
  let bottom := min bottom g.rows
  if bottom ≤ top ∨ n = 0 then g
  else
    let n := min n (bottom - top)
    ((g.swapDown top bottom n).resetRows top n background).markRows top bottom

/-- Turns the ring by one row: the top row joins the scrollback, if it may have one more line or
gives up its oldest, and a blank row appears at the bottom. -/
def turn (background : Color) (g : Grid) : Grid :=
  let offset := (g.offset + 1) % g.capacity
  let exposed := (offset + (g.rows - 1)) % g.capacity
  let history := min (g.history + 1) (g.capacity - g.rows)
  let seq := g.nextSeq
  { g with
    slots := g.slots.modify exposed (·.reset background seq)
    offset, history
    nextSeq := seq + 1 }

/-- Where the view is after the ring was turned: at the screen if it was there before, else on the
lines it showed, as long as they exist. -/
def followView (g : Grid) (atBottom : Bool) : Grid :=
  if atBottom then { g with view := g.offset }
  else if g.history < (g.offset + g.capacity - g.view) % g.capacity then
    { g with view := (g.offset + g.capacity - g.history) % g.capacity }
  else g

/-- Scrolls the whole screen up by `n` rows. -/
def rotateUp (g : Grid) (n : Nat) (background : Color) : Grid :=
  let n := min n g.rows
  if n = 0 then g
  else
    let atBottom := decide (g.view = g.offset)
    ((Nat.repeat (turn background) n g).followView atBottom).markScreenDirty

/-- Scrolls the region up by `n` rows. -/
def scrollUp (g : Grid) (n : Nat) (background : Color) : Grid :=
  if g.region.isFull g.rows then g.rotateUp n background
  else g.shiftUp g.region.top g.region.bottom n background

/-- Scrolls the region down by `n` rows. -/
def scrollDown (g : Grid) (n : Nat) (background : Color) : Grid :=
  g.shiftDown g.region.top g.region.bottom n background

/-- Moves the cursor to the first column. -/
def toFirstColumn (g : Grid) : Grid :=
  { g with cursor := { g.cursor with col := 0, pendingWrap := false } }

/-- Inserts `n` blank rows at the cursor, if the region has it. -/
def insertLines (g : Grid) (n : Nat) (background : Color) : Grid :=
  if g.region.contains g.cursor.row then
    (g.shiftDown g.cursor.row g.region.bottom n background).toFirstColumn
  else g

/-- Takes `n` rows out at the cursor, if the region has it. -/
def deleteLines (g : Grid) (n : Nat) (background : Color) : Grid :=
  if g.region.contains g.cursor.row then
    (g.shiftUp g.cursor.row g.region.bottom n background).toFirstColumn
  else g

end Teletype.Grid
