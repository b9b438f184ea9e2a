import Teletype.Clusters
import Teletype.Grid.Basic
import Teletype.Text.CharClass

/-!
# Selections

A stretch of the lines of a grid, scrollback included, from one place to another with both ends in
it. A selection can be grown to a word or a line, and its text taken out.
-/

namespace Teletype

/-- A place in the lines of a grid. -/
structure LinePlace where
  line : Nat
  col : Nat
  deriving DecidableEq

/-- The place of a cell of the screen. -/
def LinePlace.ofScreen (g : Grid) (row col : Nat) : LinePlace := ⟨g.history + row, col⟩

/-- Whether `a` does not come after `b` in reading order. -/
def LinePlace.notAfter (a b : LinePlace) : Bool :=
  a.line < b.line || (a.line = b.line && a.col ≤ b.col)

/-- The cells from one place to another. -/
structure Selection where
  first : LinePlace
  last : LinePlace
  deriving DecidableEq

/-- The classes of characters that words are made of. -/
inductive WordClass where
  | word | blank | other
  deriving DecidableEq

/-- The class of a character. The signs common in code and paths belong to words. -/
def WordClass.of (c : Char) : WordClass :=
  if Text.isBlank c then .blank
  else if Text.isAlphanumeric c || "_-./\\:@".toList.contains c then .word
  else .other

namespace Selection

/-- The selection with its ends in reading order. -/
def ordered (s : Selection) : Selection :=
  if s.first.notAfter s.last then s else ⟨s.last, s.first⟩

/-- A cell by its place. -/
def cell? (g : Grid) (line col : Nat) : Option Cell := (g.line? line).bind (·.cells[col]?)

/-- The class of a cell. Clusters belong to words; no cell is blank. -/
def classAt (g : Grid) (line col : Nat) : WordClass :=
  match cell? g line col with
  | none => .blank
  | some c => if c.isCluster then .word else .of (c.char?.getD ' ')

/-- The column where the glyph at a column starts. -/
def glyphStart (g : Grid) (line col : Nat) : Nat :=
  match cell? g line col with
  | some c => if c.isTail then col - 1 else col
  | none => col

/-- The column where the glyph that starts at a column ends. -/
def glyphEnd (g : Grid) (line col : Nat) : Nat :=
  match cell? g line col with
  | some c => if c.isHead then min (col + 1) (g.cols - 1) else col
  | none => col

theorem glyphStart_le (g : Grid) (line col : Nat) : glyphStart g line col ≤ col := by
  unfold glyphStart; split
  · split <;> omega
  · exact Nat.le_refl _

theorem le_glyphEnd (g : Grid) (line : Nat) {col : Nat} (h : col < g.cols) :
    col ≤ glyphEnd g line col := by
  unfold glyphEnd; split
  · split <;> omega
  · exact Nat.le_refl _

/-- The first column of the run of glyphs of one class that ends at `col`. -/
def runStart (g : Grid) (line : Nat) (kind : WordClass) (col : Nat) : Nat :=
  if h : 0 < col then
    let before := glyphStart g line (col - 1)
    have : before < col := Nat.lt_of_le_of_lt (glyphStart_le ..) (Nat.sub_lt h Nat.one_pos)
    if classAt g line before = kind then runStart g line kind before else col
  else col
termination_by col

/-- The last column of the run of glyphs of one class of which one ends at `col`. -/
def runEnd (g : Grid) (line : Nat) (kind : WordClass) (col : Nat) : Nat :=
  if h : col + 1 < g.cols then
    have := le_glyphEnd g line h
    if classAt g line (col + 1) = kind then runEnd g line kind (glyphEnd g line (col + 1))
    else col
  else col
termination_by g.cols - col

/-- The run of glyphs of one class around a place. -/
def wordAt (g : Grid) (place : LinePlace) : Selection :=
  let line := min place.line (g.lineCount - 1)
  let col := glyphStart g line (min place.col (g.cols - 1))
  let kind := classAt g line col
  ⟨⟨line, runStart g line kind col⟩, ⟨line, runEnd g line kind (glyphEnd g line col)⟩⟩

/-- A whole line. -/
def lineAt (g : Grid) (line : Nat) : Selection :=
  let line := min line (g.lineCount - 1)
  ⟨⟨line, 0⟩, ⟨line, g.cols - 1⟩⟩

/-- The characters of a run of cells; the right half of a glyph adds none. -/
def textOf (clusters : Clusters) (cells : List Cell) : List Char :=
  cells.flatMap fun c => if c.isTail then [] else clusters.text c.key

/-- The characters without the spaces at their end. -/
def trimSpaces (chars : List Char) : List Char := (chars.reverse.dropWhile (· = ' ')).reverse

/-- What one line adds to the text of an ordered selection: its part of the cells, without spaces
at the end and with a line feed, unless the text of the line goes on. -/
def lineText (s : Selection) (g : Grid) (clusters : Clusters) (lastLine line : Nat) : List Char :=
  match g.line? line with
  | none => []
  | some row =>
    let first :=
      if line = min s.first.line (g.lineCount - 1) then min s.first.col (g.cols - 1) else 0
    let last := if line = lastLine then min s.last.col (g.cols - 1) else g.cols - 1
    let chars := textOf clusters (row.cells.extract first (last + 1)).toList
    let chars := if !row.wrapped || line = lastLine then trimSpaces chars else chars
    if line ≠ lastLine && !row.wrapped then chars ++ ['\n'] else chars

/-- The text of a selection. -/
def text (s : Selection) (g : Grid) (clusters : Clusters) : String :=
  let s := s.ordered
  let first := min s.first.line (g.lineCount - 1)
  let last := min s.last.line (g.lineCount - 1)
  String.ofList
    ((List.range' first (last + 1 - first)).flatMap (s.lineText g clusters last))

end Selection

end Teletype
