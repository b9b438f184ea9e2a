import Teletype.Rendition

/-!
# Cells

A cell is one column of one row. Its key names what it shows: a character by its code point, or a
cluster of characters by its place in the cluster table. A glyph two columns wide takes two cells:
a head with the key, and a tail with the key 0.
-/

namespace Teletype

/-- How much of a glyph a cell shows. -/
inductive Extent where
  /-- A glyph of one column. -/
  | narrow
  /-- The left half of a glyph of two columns. -/
  | head
  /-- The right half of a glyph of two columns. -/
  | tail
  deriving DecidableEq

/-- The columns that a glyph takes from this cell on. -/
def Extent.width : Extent → Nat
  | .narrow => 1
  | .head => 2
  | .tail => 0

/-- The extent of the first cell of a glyph of the given width. -/
def Extent.ofWidth (width : Nat) : Extent := if width = 2 then .head else .narrow

/-- One column of one row. -/
structure Cell where
  key : Nat := 0x20
  extent : Extent := .narrow
  rendition : Rendition := {}
  /-- The number of the cell's hyperlink, or 0. -/
  link : Nat := 0
  deriving DecidableEq

/-- The keys from here on name clusters. -/
def clusterBase : Nat := 0x40000000

/-- Whether a number is a code point that a text can hold. -/
def isScalar (n : Nat) : Bool := n < 0xd800 || (0xdfff < n && n < 0x110000)

/-- The character of a code point. -/
def scalar? (n : Nat) : Option Char := if isScalar n then some (Char.ofNat n) else none

namespace Cell

/-- A cell that shows a character in the default rendition. -/
def ofChar (c : Char) : Cell := { key := c.toNat }

/-- A cell that shows nothing on the given background. -/
def blank (background : Color) : Cell := { rendition := .blank background }

/-- The right half of a glyph. -/
def tail (rendition : Rendition) (link : Nat) : Cell :=
  { key := 0, extent := .tail, rendition := rendition, link := link }

/-- The cell erased to the given background. -/
def erase (_ : Cell) (background : Color) : Cell := blank background

/-- The cell erased to its own background. -/
def eraseKept (c : Cell) : Cell := blank c.rendition.background

/-- The cell with another glyph in the same rendition. -/
def setKey (c : Cell) (key width : Nat) : Cell :=
  { c with key := key, extent := .ofWidth width }

/-- Whether the cell is the left half of a glyph. -/
def isHead (c : Cell) : Bool := c.extent = .head

/-- Whether the cell is the right half of a glyph. -/
def isTail (c : Cell) : Bool := c.extent = .tail

/-- The columns that the cell's glyph takes, or 0 for a right half. -/
def width (c : Cell) : Nat := c.extent.width

/-- Whether the cell shows a cluster. -/
def isCluster (c : Cell) : Bool := clusterBase ≤ c.key

/-- The character that the cell shows, if it shows just one. -/
def char? (c : Cell) : Option Char :=
  if c.key = 0 || c.isCluster then none else scalar? c.key

/-- Whether the cell shows nothing but its colours. -/
def isBlank (c : Cell) : Bool :=
  c.key = 0x20 && c.rendition.isPlain && c.rendition.underline = .none && c.link = 0

/-- Whether the cell shows nothing, on the default background. -/
def isEmpty (c : Cell) : Bool := c.isBlank && c.rendition.background = .default

end Cell

end Teletype
