import Teletype.Grid.Edit
import Teletype.Grid.Resize
import Teletype.Grid.View
import Teletype.Terminal.Motion

/-!
# Screens

Saving the cursor, changing between the two screens, resetting the terminal and changing its size.
-/

namespace Teletype.Terminal

/-- Saves the cursor with the rendition, the character sets and the modes that go with it. -/
def saveCursor (t : Terminal) : Terminal :=
  let saved : SavedCursor :=
    { cursor := t.cursor
      rendition := t.rendition
      charsets := t.charsets
      origin := t.modes.dec.origin
      autowrap := t.modes.dec.autowrap }
  t.modifyGrid ({ · with saved := saved })

/-- Restores what was saved last. A pending wrap comes back only if the column does. -/
def restoreCursor (t : Terminal) : Terminal :=
  let saved := t.grid.saved
  let dec := { t.modes.dec with origin := saved.origin, autowrap := saved.autowrap }
  let t := { t with
    rendition := saved.rendition
    charsets := saved.charsets
    modes := { t.modes with dec := dec } }
  t.modifyGrid fun g =>
    let g := g.setCursor saved.cursor.row saved.cursor.col
    if g.cursor.col = saved.cursor.col then
      { g with cursor := { g.cursor with pendingWrap := saved.cursor.pendingWrap } }
    else g

/-- Goes to the alternate screen, which is blank then. The cursor stays where it is; with `save` it
is saved first. -/
def enterAlternate (t : Terminal) (save : Bool) : Terminal :=
  if t.isAlternate then t
  else
    let t := if save then t.saveCursor else t
    let cursor := t.primary.cursor
    let region := t.primary.region
    let g := (t.alternate.setRegion region.top region.bottom).setCursor cursor.row cursor.col
    let g := (g.eraseRows 0 g.rows .default).markAllDirty
    { t with screen := .alternate, alternate := g }.note .debug "entered alternate screen"

/-- Returns to the primary screen. With `restore` the cursor saved there is restored. -/
def leaveAlternate (t : Terminal) (restore : Bool) : Terminal :=
  if t.isAlternate then
    let cursor := t.alternate.cursor
    let region := t.alternate.region
    let g := (t.primary.setRegion region.top region.bottom).setCursor cursor.row cursor.col
    let t := { t with screen := .primary, primary := g }
    let t := if restore then t.restoreCursor else t
    { t with primary := t.primary.markAllDirty }.note .debug "left alternate screen"
  else t

/-- Resets modes and rendition, and keeps the text. -/
def softReset (t : Terminal) : Terminal :=
  let rows := t.rows
  let dec := { t.modes.dec with
    autowrap := true
    cursorVisible := true
    origin := false
    appCursorKeys := false
    appKeypad := false }
  let t := { t with
    modes := { t.modes with dec := dec, insert := false, newline := false }
    rendition := {}
    charsets := {}
    link := 0
    schedule := t.schedule.endSync }
  t.modifyGrid fun g => { g.setRegion 0 rows with saved := {} }.clearPending

/-- Returns to the state after power-on, but for what the host was told. -/
def hardReset (t : Terminal) : Terminal :=
  let t := t.leaveAlternate false
  { t with
    primary := t.primary.clearAll.viewToBottom
    alternate := t.alternate.clearAll
    rendition := {}
    charsets := {}
    modes := { dec := { graphemeShaping := t.config.shaping } }
    tabs := standardTabs 0 t.cols
    clusters := t.clusters.clear
    links := {}
    link := 0
    colors := .ofConfig t.config
    titleStack := []
    cursorShape := t.config.cursorShape
    cursorBlink := t.config.cursorBlink
    lastPrinted := none
    savedModes := []
    schedule := t.schedule.endSync.requestImmediate }

/-- Fills the screen for the alignment of its picture. -/
def alignmentTest (t : Terminal) : Terminal :=
  let rows := t.rows
  t.modifyGrid fun g => ((g.fill 'E').setRegion 0 rows).setCursor 0 0

/-- The tab stops after the width has changed: those beyond it go, and new columns get the
standard ones. -/
def tabsFor (t : Terminal) (cols : Nat) : List Nat :=
  t.tabs.filter (· < cols) ++ if t.cols < cols then standardTabs t.cols cols else []

/-- Changes the size of both screens, which is at least one row and column. -/
def resize (t : Terminal) (cols rows : Nat) : Terminal :=
  let cols := max cols 1
  let rows := max rows 1
  if cols = t.cols && rows = t.rows then t
  else
    let t := { t with
      tabs := t.tabsFor cols
      primary := t.primary.resize rows cols t.config.reflow
      alternate := t.alternate.resize rows cols false
      composeAt := none
      schedule := t.schedule.requestImmediate }
    (t.modifyGrid Grid.markAllDirty).note .debug "terminal resized"
      [("cols", toString cols), ("rows", toString rows)]

end Teletype.Terminal
