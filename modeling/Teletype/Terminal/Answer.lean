import Teletype.Terminal.Switch

/-!
# Answering

Replies to questions about the terminal, its settings and its window.
-/

namespace Teletype.Terminal

/-- Answers a question about the status: 5 is whether all is well, 6 is where the cursor is. -/
def answerStatus (t : Terminal) (what : Nat) : Terminal :=
  match what with
  | 5 => t.reply .healthy
  | 6 =>
    let (row, col) := t.reportedPosition
    t.reply (.position false row col)
  | _ => t.note .debug "DSR: unknown status" [("status", toString what)]

/-- Answers where the cursor is in the private form. -/
def answerPrivatePosition (t : Terminal) : Terminal :=
  let (row, col) := t.reportedPosition
  t.reply (.position true row col)

/-- Saves the title. The oldest of sixteen saved titles gives way to another one. -/
def pushTitle (t : Terminal) : Terminal :=
  { t with titleStack := (t.title :: t.titleStack).take 16 }

/-- Restores the title that was saved last. -/
def popTitle (t : Terminal) : Terminal :=
  match t.titleStack with
  | [] => t
  | title :: rest => { t with titleStack := rest }.setTitle title

/-- What cannot be done to a window. -/
def ignoreWindowOperation (t : Terminal) (op : Nat) : Terminal :=
  let field := [("op", toString op)]
  if (1 ≤ op && op ≤ 10) || op = 20 || op = 21 || op = 24 then
    t.note .warning "unimplemented: window operation" field
  else t.note .debug "ignoring window operation" field

/-- Answers a question about the window, or saves or restores its title. Some operations take an
argument that must be 0 or 2. -/
def windowOperation (t : Terminal) (op arg : Nat) : Terminal :=
  let cell := t.config.cellSize
  let applies := arg = 0 || arg = 2
  match op with
  | 11 => t.reply .windowOpen
  | 13 => if applies then t.reply .windowPosition else t.ignoreWindowOperation op
  | 14 => t.reply (.textPixels (t.rows * cell.height) (t.cols * cell.width))
  | 15 => t.reply .screenPixels
  | 16 => t.reply (.cellPixels cell.height cell.width)
  | 18 => t.reply (.textCells t.rows t.cols)
  | 19 => t.reply .screenCells
  | 22 => if applies then t.pushTitle else t.ignoreWindowOperation op
  | 23 => if applies then t.popTitle else t.ignoreWindowOperation op
  | _ => t.ignoreWindowOperation op

/-- Chooses the cursor's shape: 0 is the configured one, and of each pair the first blinks. -/
def chooseCursor (t : Terminal) (style : Nat) : Terminal :=
  let choose (shape : CursorShape) :=
    { t with cursorShape := shape, cursorBlink := style % 2 = 1 }
  match style with
  | 0 => { t with cursorShape := t.config.cursorShape, cursorBlink := t.config.cursorBlink }
  | 1 | 2 => choose .block
  | 3 | 4 => choose .underline
  | 5 | 6 => choose .beam
  | _ => t.note .debug "DECSCUSR: unknown style" [("style", toString style)]

/-- The settings that a request can name. -/
structure Settings where
  rendition : Rendition
  region : Region
  cursorShape : CursorShape
  cursorBlink : Bool

/-- The setting with the given name, as the end of the sequence that sets it. -/
def Settings.find? (s : Settings) (name : List UInt8) : Option Setting :=
  if name = Text.Utf8.encode "m" then some (.rendition s.rendition)
  else if name = Text.Utf8.encode "r" then some (.region (s.region.top + 1) s.region.bottom)
  else if name = Text.Utf8.encode " q" then some (.cursorStyle s.cursorShape s.cursorBlink)
  else none

/-- The answer to a request for a setting. -/
def Settings.answer (s : Settings) (name : List UInt8) : Reported Reply :=
  match s.find? name with
  | some setting => ⟨.setting (some setting), []⟩
  | none => ⟨.setting none,
      [⟨.debug, "DECRQSS: unsupported setting", [("request", Text.Utf8.decodeLenient name)]⟩]⟩

/-- The settings in force. -/
def settings (t : Terminal) : Settings :=
  ⟨t.rendition, t.grid.region, t.cursorShape, t.cursorBlink⟩

/-- The answer to a question about one capability by the hexadecimal form of its name. -/
def capabilityAnswer (terminalName : String) (name : List UInt8) : Reported Reply :=
  match (Text.Hex.decode? name).bind Capability.find? with
  | some value => ⟨.capability name (some value) terminalName, []⟩
  | none => ⟨.capability name none terminalName,
      [⟨.debug, "XTGETTCAP: unknown capability", [("name", Text.Utf8.decodeLenient name)]⟩]⟩

/-- The answers to a request for capabilities: one for each name between semicolons. -/
def capabilityAnswers (terminalName : String) (names : List UInt8) : List (Reported Reply) :=
  (Text.splitAt 0x3b names).map (capabilityAnswer terminalName)

/-- Gives an answer with its report. -/
def give (t : Terminal) (r : Reported Reply) : Terminal := (t.reply r.value).noteAll r.reports

/-- Does what a device control string asks for. -/
def serve (now : Instant) (t : Terminal) : Control.DeviceRequest → Terminal
  | .setting name => t.give (t.settings.answer name)
  | .capabilities names => (capabilityAnswers t.config.term names).foldl give t
  | .beginSync => t.beginSync now
  | .endSync => t.endSync

end Teletype.Terminal
