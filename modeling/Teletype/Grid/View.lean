import Teletype.Grid.Basic

/-!
# Looking back

The view moves between the oldest line of the scrollback and the screen. Prompts are places to
jump to.
-/

namespace Teletype.Grid

/-- How many lines the view is above the screen. -/
def viewDistance (g : Grid) : Nat := (g.offset + g.capacity - g.view) % g.capacity

/-- Whether the view shows the screen. -/
def viewAtBottom (g : Grid) : Bool := g.view = g.offset

/-- The line at the top of the view. -/
def viewTop (g : Grid) : Nat := g.history - g.viewDistance

/-- Moves the view to a slot, which changes all that is displayed. -/
def setView (g : Grid) (view : Nat) : Grid := { g with view := view % g.capacity }.markAllDirty

/-- Moves the view up by at most `n` lines. The answer is by how many. -/
def viewUp (g : Grid) (n : Nat) : Grid × Nat :=
  let moved := min n (g.history - g.viewDistance)
  (if moved = 0 then g else g.setView (g.view + g.capacity - moved), moved)

/-- Moves the view down by at most `n` lines. The answer is by how many. -/
def viewDown (g : Grid) (n : Nat) : Grid × Nat :=
  let moved := min n g.viewDistance
  (if moved = 0 then g else g.setView (g.view + moved), moved)

/-- Moves the view to the screen. -/
def viewToBottom (g : Grid) : Grid := if g.viewAtBottom then g else g.setView g.offset

/-- Whether a prompt starts on the line. -/
def isPrompt (g : Grid) (line : Nat) : Bool := ((g.line? line).map Row.prompt).getD false

/-- The nearest prompt above the view, if there is one. -/
def promptAbove? (g : Grid) : Option Nat := (List.range g.viewTop).reverse.find? g.isPrompt

/-- The nearest prompt below the top line of the view, if there is one. -/
def promptBelow? (g : Grid) : Option Nat :=
  (List.range' (g.viewTop + 1) (g.lineCount - (g.viewTop + 1))).find? g.isPrompt

/-- Moves the view up to the nearest prompt above it. The answer is whether there is one. -/
def previousPrompt (g : Grid) : Grid × Bool :=
  match g.promptAbove? with
  | none => (g, false)
  | some line => ((g.viewUp (g.viewTop - line)).1, true)

/-- Moves the view down to the nearest prompt below its top, or to the screen if the prompt is
there. The answer is whether there is one. -/
def nextPrompt (g : Grid) : Grid × Bool :=
  match g.promptBelow? with
  | none => (g, false)
  | some line => ((g.viewDown (line - g.viewTop)).1, true)

end Teletype.Grid
