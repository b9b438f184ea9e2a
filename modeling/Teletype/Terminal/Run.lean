import Teletype.Sgr
import Teletype.Terminal.Answer
import Teletype.Terminal.Command
import Teletype.Terminal.OperatingCommand
import Teletype.Terminal.Print

/-!
# Running a terminal

Output goes through the decoder, and each action that it completes is carried out in order.
-/

namespace Teletype.Terminal

/-- Changes the grid in use, which may have something to report. -/
def modifyGridReported (t : Terminal) (f : Grid → Reported Grid) : Terminal :=
  let r := f t.grid
  (t.modifyGrid fun _ => r.value).noteAll r.reports

/-- Takes tab stops away: 0 the one at the cursor, 3 all of them. -/
def clearTab (t : Terminal) (mode : Nat) : Terminal :=
  match mode with
  | 0 =>
    let col := t.cursor.col
    { t with tabs := t.tabs.filter (· ≠ col) }
  | 3 => { t with tabs := [] }
  | _ => t.note .debug "TBC: unknown mode" [("mode", toString mode)]

/-- Edits the lines of the region from the cursor on. -/
def editLines (t : Terminal) (edit : Grid → Nat → Color → Grid) (n : Nat) : Terminal :=
  let background := t.rendition.background
  t.modifyGrid fun g =>
    if g.region.contains g.cursor.row then
      edit g (min n (g.region.bottom - g.cursor.row)) background
    else g

/-- Scrolls the region. -/
def scrollBy (t : Terminal) (scroll : Grid → Nat → Color → Grid) (n : Nat) : Terminal :=
  let background := t.rendition.background
  t.modifyGrid fun g => scroll g (min n (g.region.bottom - g.region.top)) background

/-- Edits cells at the cursor, which drops a pending wrap. -/
def editCells (t : Terminal) (edit : Grid → Nat → Color → Grid) (n : Nat) : Terminal :=
  let background := t.rendition.background
  t.modifyGrid fun g => (edit g n background).clearPending

/-- Erases at the cursor, which drops a pending wrap. -/
def eraseBy (t : Terminal) (erase : Grid → Nat → Color → Reported Grid) (mode : Nat) : Terminal :=
  let background := t.rendition.background
  (t.modifyGridReported fun g => erase g mode background).modifyGrid Grid.clearPending

/-- Chooses the rows that scroll and goes to the origin. A region of fewer than two rows is
ignored. -/
def chooseRegion (t : Terminal) (top bottom : Nat) : Terminal :=
  let rows := t.grid.rows
  let bottom := if bottom = 0 then rows else min bottom rows
  if top < bottom then (t.modifyGrid (·.setRegion (top - 1) bottom)).goTo 0 0 else t

/-- Selects a rendition. -/
def selectRendition (t : Terminal) (params : Control.Params) : Terminal :=
  let r := t.rendition.select params
  { t with rendition := r.value }.noteAll r.reports

/-- The report on a sequence that is not carried out. -/
def ignoreSequence (t : Terminal) (message sequence : String) : Terminal :=
  t.note .debug message [("sequence", sequence)]

/-- Carries out a command. -/
def run (now : Instant) (t : Terminal) : Command → Terminal
  | .nothing => t
  | .bell => { t with bells := t.bells + 1 }.emit .bell
  | .backspace => t.backspace
  | .carriageReturn => t.carriageReturn
  | .lineFeed => if t.modes.newline then t.lineFeed.carriageReturn else t.lineFeed
  | .index => t.lineFeed
  | .reverseIndex => t.reverseIndex
  | .nextRow => t.carriageReturn.lineFeed
  | .setTab => t.setTab
  | .clearTab mode => t.clearTab mode
  | .tabForward n => t.tabForward n
  | .tabBackward n => t.tabBackward n
  | .cursorUp n => t.cursorUp n
  | .cursorDown n => t.cursorDown n
  | .cursorRight n => t.cursorRight n
  | .cursorLeft n => t.cursorLeft n
  | .cursorNextLine n => (t.cursorDown n).carriageReturn
  | .cursorPreviousLine n => (t.cursorUp n).carriageReturn
  | .toColumn col => t.modifyGrid fun g => g.setCursor g.cursor.row col
  | .toRow row => t.goTo row t.cursor.col
  | .toPlace row col => t.goTo row col
  | .insertChars n => t.editCells Grid.insertChars n
  | .deleteChars n => t.editCells Grid.deleteChars n
  | .eraseChars n => t.editCells Grid.eraseChars n
  | .insertLines n => t.editLines Grid.insertLines n
  | .deleteLines n => t.editLines Grid.deleteLines n
  | .eraseDisplay mode => t.eraseBy Grid.eraseDisplay mode
  | .eraseLine mode => t.eraseBy Grid.eraseLine mode
  | .scrollUp n => t.scrollBy Grid.scrollUp n
  | .scrollDown n => t.scrollBy Grid.scrollDown n
  | .repeatLast n => t.repeatLast n
  | .setRegion top bottom => t.chooseRegion top bottom
  | .saveCursor => t.saveCursor
  | .restoreCursor => t.restoreCursor
  | .selectCharset slot => { t with charsets := t.charsets.select slot }
  | .shiftOnce slot => { t with charsets := t.charsets.shiftOnce slot }
  | .designate slot set => { t with charsets := t.charsets.designate slot set }
  | .appKeypad on => t.switchDec (.flag .appKeypad) on
  | .selectRendition params => t.selectRendition params
  | .setAnsiModes numbers on => numbers.foldl (setAnsiMode on) t
  | .setDecModes numbers on => numbers.foldl (setDecMode now on) t
  | .saveDecModes numbers => numbers.foldl saveDecMode t
  | .restoreDecModes numbers => numbers.foldl (restoreDecMode now) t
  | .cursorStyle style => t.chooseCursor style
  | .windowOperation op arg => t.windowOperation op arg
  | .alignmentTest => t.alignmentTest
  | .softReset => t.softReset
  | .hardReset => t.hardReset
  | .askPrimaryAttributes => t.reply (.primaryAttributes t.config.sixel)
  | .askSecondaryAttributes => t.reply .secondaryAttributes
  | .askTertiaryAttributes => t.reply .tertiaryAttributes
  | .askVersion => t.reply .version
  | .askStatus what => t.answerStatus what
  | .askPrivatePosition => t.answerPrivatePosition
  | .askDecMode number => t.reply (.decMode number (t.decModeStatus number))
  | .askAnsiMode number => t.reply (.ansiMode number (t.modes.ansiStatus number))
  | .marginsUnsupported s => t.ignoreSequence "DECSLRM without DECLRMM" s
  | .overflowed s => t.ignoreSequence "CSI parameter overflow, ignoring" s
  | .unknownControl byte =>
    t.note .debug "unhandled control" [("byte", "0x" ++ Text.Numeral.hex 2 byte.toNat)]
  | .unknownEscape s => t.ignoreSequence "unhandled ESC" s
  | .unknownSequence s => t.ignoreSequence "unhandled CSI" s

/-- Sends an item to the image decoder, if there is one. -/
def sendImage (t : Terminal) (item : ImageItem) : Terminal :=
  { t with images := t.images.map (·.push item) }

/-- Carries out what is not printing. -/
def act (now : Instant) (t : Terminal) : Control.Action → Terminal
  | .print _ => t
  | .execute byte => t.run now (.ofControl byte)
  | .escape s => t.run now (.ofEscape s)
  | .control s => t.run now (.ofSequence s)
  | .command data bell => t.operate data bell
  | .imageStart p1 p2 p3 => t.sendImage (.start p1 p2 p3)
  | .imageData byte => t.sendImage (.data byte)
  | .imageEnd => t.sendImage .finish
  | .request r => serve now t r

/-- Carries out one action. Anything but printing keeps the next mark from joining the character
printed last. -/
def perform (now : Instant) (t : Terminal) : Control.Action → Terminal
  | .print c => t.print c
  | action => act now { t with composeAt := none } action

/-- Reads output that arrived at an instant. -/
def feed (t : Terminal) (bytes : List UInt8) (now : Instant) : Terminal :=
  let (decoder, actions) := t.decoder.feed bytes
  let (decoder, reports) := decoder.takeReports
  let t := actions.foldl (perform now) ({ t with decoder := decoder }.noteAll reports)
  if bytes.isEmpty then t else { t with schedule := t.schedule.onOutput now }

end Teletype.Terminal
