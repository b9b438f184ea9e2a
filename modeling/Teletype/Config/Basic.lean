import Teletype.Clusters
import Teletype.Color.Basic

/-!
# Configuration

The settings that a terminal is made with.
-/

namespace Teletype

/-- The shape of the cursor. -/
inductive CursorShape where
  | block | underline | beam
  deriving DecidableEq

/-- The shape with the given name. -/
def CursorShape.ofName? : String → Option CursorShape
  | "block" => some .block
  | "underline" => some .underline
  | "beam" => some .beam
  | _ => none

/-- How a window is first shown. -/
inductive WindowMode where
  | windowed | maximized | fullscreen
  deriving DecidableEq

/-- The window mode with the given name. -/
def WindowMode.ofName? : String → Option WindowMode
  | "windowed" => some .windowed
  | "maximized" => some .maximized
  | "fullscreen" => some .fullscreen
  | _ => none

/-- A size in columns and rows, or in pixels across and down. -/
structure Size where
  width : Nat
  height : Nat
  deriving DecidableEq

/-- The size with at least one column and row. -/
def Size.atLeastOne (s : Size) : Size := ⟨max s.width 1, max s.height 1⟩

/-- The settings of a terminal. Times are in nanoseconds. -/
structure Config where
  /-- The name that applications know the terminal by. -/
  term : String := "ferroterm"
  scrollback : Nat := 1000
  lowerDelay : Nat := 500000
  upperDelay : Nat := 16666666
  syncTimeout : Nat := 1000000000
  shaping : Bool := true
  widthMethod : WidthMethod := .double
  sixel : Bool := true
  palette : Palette := .standard
  foreground : Nat := 0xffffff
  background : Nat := 0x000000
  cursorShape : CursorShape := .block
  cursorBlink : Bool := false
  /-- Text is cut anew when the width changes. -/
  reflow : Bool := true
  /-- The first size, in columns and rows. -/
  size : Size := ⟨80, 24⟩
  /-- The size of a cell in pixels. -/
  cellSize : Size := ⟨8, 16⟩
  /-- Where applications find the terminal's description. -/
  terminfoDir : Option String := none
  /-- The name of this host. -/
  hostname : Option String := none
  title : Option String := none
  appId : Option String := none
  windowMode : WindowMode := .windowed
  deriving DecidableEq

/-- The configuration with another first size. -/
def Config.withSize (c : Config) (size : Size) : Config := { c with size := size.atLeastOne }

end Teletype
