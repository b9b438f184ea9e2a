import Teletype.Clusters
import Teletype.Config.Basic
import Teletype.Control.Decoder
import Teletype.Grid.Basic
import Teletype.Link
import Teletype.Modes
import Teletype.Reply
import Teletype.Schedule
import Teletype.Text.Split

/-!
# The state of a terminal

Both screens, the modes and settings that output can change, the tables that cells refer to, and
what is waiting to be taken by the host: replies for the application, events and reports.
-/

namespace Teletype

/-- Something that the host should know. -/
inductive Event where
  | bell
  | title (text : String)
  /-- The application's working directory. -/
  | directory (path : String)
  | notification (title body : String)
  /-- A write to the clipboards that the targets name. -/
  | clipboard (targets : String) (data : List UInt8)
  /-- A visual bell. -/
  | flash
  deriving DecidableEq

/-- How reports write an event. -/
def Event.describe : Event → String
  | .bell => "Bell"
  | .title t => "TitleChanged(" ++ Text.Quoted.text t ++ ")"
  | .directory path => "CwdChanged(" ++ Text.Quoted.text path ++ ")"
  | .notification t body =>
    "Notify \x7b title: " ++ Text.Quoted.text t ++ ", body: " ++ Text.Quoted.text body ++ " \x7d"
  | .clipboard targets data =>
    "ClipboardSet \x7b targets: " ++ Text.Quoted.text targets ++ ", data: "
      ++ Text.Quoted.list (data.map toString) ++ " \x7d"
  | .flash => "Flash"

/-- What is sent to the decoder of Sixel images. -/
inductive ImageItem where
  | start (p1 p2 p3 : Nat)
  | data (byte : UInt8)
  | finish
  deriving DecidableEq

/-- The colours in force. -/
structure Colors where
  palette : Palette
  foreground : Nat
  background : Nat
  /-- The colour of the cursor; without one the cell below it is drawn inverted. -/
  cursor : Option Nat := none
  deriving DecidableEq

/-- The colours that a configuration sets. -/
def Colors.ofConfig (c : Config) : Colors :=
  { palette := c.palette, foreground := c.foreground, background := c.background }

/-- The schedule of a terminal with the given configuration, when nothing is due. -/
def Schedule.ofConfig (c : Config) : Schedule :=
  { lowerDelay := c.lowerDelay, upperDelay := c.upperDelay, syncTimeout := c.syncTimeout }

/-- A terminal. -/
structure Terminal where
  config : Config
  decoder : Control.Decoder
  primary : Grid
  alternate : Grid
  /-- The screen in use. -/
  screen : ScreenKind := .primary
  rendition : Rendition := {}
  charsets : Charsets := {}
  modes : Modes := {}
  /-- The columns with a tab stop, in ascending order. -/
  tabs : List Nat
  clusters : Clusters := {}
  links : Links := {}
  /-- The number of the link that printed cells get, or 0. -/
  link : Nat := 0
  /-- The bytes of the replies that were not taken yet. -/
  replies : Array UInt8 := #[]
  schedule : Schedule
  colors : Colors
  title : String
  /-- Saved titles, the last one first. -/
  titleStack : List String := []
  directory : Option String := none
  pointerShape : Option String := none
  clipboard : Option (List UInt8) := none
  cursorShape : CursorShape
  cursorBlink : Bool
  /-- The character that was printed last. -/
  lastPrinted : Option Char := none
  /-- The cell of the character that was printed last, if nothing else happened since. -/
  composeAt : Option (Nat × Nat) := none
  /-- Saved private modes by number. -/
  savedModes : List (Nat × Bool) := []
  /-- The title and body of a notification of which more is to come. -/
  pendingNotification : Option (String × String) := none
  /-- The events that were not taken yet. -/
  events : Array Event := #[]
  bells : Nat := 0
  /-- What the image decoder was sent and that was not taken yet, if there is a decoder. -/
  images : Option (Array ImageItem) := none
  /-- The reports that were not taken yet. -/
  reports : Array Report := #[]
  /-- A colour specification could not be cut into channels. The host must not go on with the
  terminal. -/
  fault : Bool := false

namespace Terminal

/-- Tab stops at every eighth column from `first` on and below `cols`. -/
def standardTabs (first cols : Nat) : List Nat :=
  ((List.range (cols / 8 + 1)).map (· * 8)).filter fun c => 0 < c && first ≤ c && c < cols

/-- A terminal with the given configuration. -/
def new (config : Config) : Terminal :=
  let primary := Grid.new .primary config.size.width config.size.height config.scrollback
  { config, primary
    decoder := { sixel := config.sixel }
    alternate := Grid.new .alternate config.size.width config.size.height 0
    modes := { dec := { graphemeShaping := config.shaping } }
    tabs := standardTabs 0 primary.cols
    schedule := .ofConfig config
    colors := .ofConfig config
    title := config.title.getD ""
    cursorShape := config.cursorShape
    cursorBlink := config.cursorBlink }

/-- The width of the screens. -/
def cols (t : Terminal) : Nat := t.primary.cols

/-- The height of the screens. -/
def rows (t : Terminal) : Nat := t.primary.rows

/-- Whether the alternate screen is in use. -/
def isAlternate (t : Terminal) : Bool := t.screen = .alternate

/-- The grid in use. -/
def grid (t : Terminal) : Grid :=
  match t.screen with
  | .primary => t.primary
  | .alternate => t.alternate

/-- Changes the grid in use. -/
def modifyGrid (t : Terminal) (f : Grid → Grid) : Terminal :=
  match t.screen with
  | .primary => { t with primary := f t.primary }
  | .alternate => { t with alternate := f t.alternate }

/-- The cursor of the grid in use. -/
def cursor (t : Terminal) : Cursor := t.grid.cursor

/-- Moves the cursor of the grid in use without regard to the screen. -/
def putCursor (t : Terminal) (cursor : Cursor) : Terminal :=
  t.modifyGrid ({ · with cursor := cursor })

/-- Adds a report. -/
def note (t : Terminal) (severity : Severity) (message : String)
    (fields : List (String × String) := []) : Terminal :=
  { t with reports := t.reports.push ⟨severity, message, fields⟩ }

/-- Adds reports. -/
def noteAll (t : Terminal) (reports : List Report) : Terminal :=
  { t with reports := t.reports ++ reports }

/-- Adds a reply. -/
def reply (t : Terminal) (r : Reply) : Terminal :=
  { t with replies := t.replies ++ r.encode }

/-- Adds an event. -/
def emit (t : Terminal) (e : Event) : Terminal := { t with events := t.events.push e }

/-- Gives the window another title. -/
def setTitle (t : Terminal) (title : String) : Terminal :=
  if t.title = title then t else { t with title := title }.emit (.title title)

/-- The text of a row of the screen without the blanks at its end. -/
def rowText (t : Terminal) (row : Nat) : String :=
  match t.grid.row? row with
  | none => ""
  | some r =>
    String.ofList (Text.trimEnd (r.cells.toList.flatMap fun c => t.clusters.text c.key))

/-- The text of the screen, without the empty rows at its end. -/
def screenText (t : Terminal) : List String :=
  (((List.range t.rows).map t.rowText).reverse.dropWhile String.isEmpty).reverse

/-- Takes the bytes of the replies. -/
def takeReplies (t : Terminal) : Terminal × List UInt8 :=
  ({ t with replies := #[] }, t.replies.toList)

/-- Takes the events. -/
def takeEvents (t : Terminal) : Terminal × List Event :=
  ({ t with events := #[] }, t.events.toList)

/-- Takes the reports. -/
def takeReports (t : Terminal) : Terminal × List Report :=
  ({ t with reports := #[] }, t.reports.toList)

/-- Takes what the image decoder was sent. -/
def takeImages (t : Terminal) : Terminal × List ImageItem :=
  ({ t with images := t.images.map fun _ => #[] }, (t.images.getD #[]).toList)

end Terminal

end Teletype
