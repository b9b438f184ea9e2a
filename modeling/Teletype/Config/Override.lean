import Teletype.Config.Basic
import Teletype.Report
import Teletype.Text.Numeral
import Teletype.Text.Split

/-!
# Overrides

Settings given as `key=value`. An unknown key or a value that cannot be read leaves the
configuration as it is.
-/

namespace Teletype.Config

open Teletype.Text

/-- The words for on and off. -/
def readBool? : String → Option Bool
  | "yes" | "true" | "on" | "1" => some true
  | "no" | "false" | "off" | "0" => some false
  | _ => none

/-- The width method with the given name. -/
def readMethod? : String → Option WidthMethod
  | "max" => some .max
  | "double-width" => some .double
  | "wcswidth" => some .wcswidth
  | _ => none

/-- A size such as `80x24`, with both numbers positive. -/
def readSize? (value : String) : Option Size := do
  let (width, height) ← cutAt? 'x' value.toList
  let width ← Numeral.read? 10 Numeral.max16 (trim width)
  let height ← Numeral.read? 10 Numeral.max16 (trim height)
  if 0 < width && 0 < height then some ⟨width, height⟩ else none

/-- The columns and rows of a window of the given size in pixels. -/
def cellsIn (c : Config) (pixels : Size) : Size :=
  Size.atLeastOne ⟨pixels.width / max c.cellSize.width 1, pixels.height / max c.cellSize.height 1⟩

/-- The configuration with one setting changed, if the key is known and the value can be read. -/
def set? (c : Config) (key value : String) : Option Config :=
  match key with
  | "term" => some { c with term := value }
  | "scrollback.lines" =>
    (Numeral.decimal? Numeral.max64 value).map fun n => { c with scrollback := n }
  | "tweak.delayed-render-lower" =>
    (Numeral.decimal? Numeral.max64 value).map fun n => { c with lowerDelay := n }
  | "tweak.delayed-render-upper" =>
    (Numeral.decimal? Numeral.max64 value).map fun n => { c with upperDelay := n }
  | "tweak.grapheme-shaping" => (readBool? value).map fun b => { c with shaping := b }
  | "tweak.grapheme-width-method" => (readMethod? value).map fun m => { c with widthMethod := m }
  | "tweak.sixel" => (readBool? value).map fun b => { c with sixel := b }
  | "cursor.style" => (CursorShape.ofName? value).map fun s => { c with cursorShape := s }
  | "cursor.blink" => (readBool? value).map fun b => { c with cursorBlink := b }
  | "title" => some { c with title := some value }
  | "app-id" => some { c with appId := some value }
  | "initial-window-size-chars" => (readSize? value).map fun s => { c with size := s }
  | "initial-window-size-pixels" =>
    (readSize? value).map fun s => { c with size := c.cellsIn s }
  | "initial-window-mode" => (WindowMode.ofName? value).map fun m => { c with windowMode := m }
  | _ => none

/-- Changes one setting. The answer is whether it could be changed. -/
def override (c : Config) (key value : String) : Reported (Config × Bool) :=
  match c.set? key value with
  | some c => ⟨(c, true), []⟩
  | none => ⟨(c, false),
      [⟨.warning, "ignoring configuration override", [("key", key), ("value", value)]⟩]⟩

/-- Changes settings in order. The answer is which of them could be changed. -/
def overrideEach (c : Config) : List (String × String) → Reported (Config × List Bool)
  | [] => ⟨(c, []), []⟩
  | (key, value) :: rest =>
    let r := c.override key value
    let more := overrideEach r.value.1 rest
    ⟨(more.value.1, r.value.2 :: more.value.2), r.reports ++ more.reports⟩

/-- Changes the setting that an item such as `key=value` names. Blanks around either do not
count. -/
def overrideItem (c : Config) (item : String) : Reported Config :=
  match cutAt? '=' item.toList with
  | some (key, value) =>
    let r := c.override (String.ofList (trim key)) (String.ofList (trim value))
    ⟨r.value.1, r.reports⟩
  | none => ⟨c, [⟨.warning, "override is not of the form key=value", [("item", item)]⟩]⟩

/-- Changes the settings that the items name, in order. -/
def overrideAll (c : Config) : List String → Reported Config
  | [] => ⟨c, []⟩
  | item :: rest =>
    let r := c.overrideItem item
    let more := overrideAll r.value rest
    ⟨more.value, r.reports ++ more.reports⟩

end Teletype.Config
