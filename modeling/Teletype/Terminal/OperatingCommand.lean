import Teletype.Terminal.Basic
import Teletype.Text.Percent

/-!
# Operating system commands

Titles, colours, links, the clipboard, notifications and marks of the shell. A command is a number,
and after a semicolon what the number demands. A question is answered with the terminator that it
came with.
-/

namespace Teletype.Terminal

open Teletype.Text

/-- The number that digits write, if it has thirty-two bits and nothing else stands there. -/
def number? (digits : List UInt8) : Option Nat :=
  if digits.all fun b => 0x30 ≤ b && b ≤ 0x39 then
    Numeral.read? 10 Numeral.max32 (Control.charsOf digits)
  else none

/-- A question mark stands for a question. -/
def isQuestion (payload : List UInt8) : Bool := payload = [0x3f]

/-- Marks every row of the screen in use as changed. -/
def repaint (t : Terminal) : Terminal := t.modifyGrid Grid.markAllDirty

/-- The value of a colour in force. -/
def colorOf (t : Terminal) : ColorItem → Nat
  | .palette index => t.colors.palette.toArray.getD index 0
  | .foreground => t.colors.foreground
  | .background => t.colors.background
  | .cursor => t.colors.cursor.getD t.colors.foreground

/-- Gives a colour another value. A black cursor is drawn inverted instead. -/
def setColor (t : Terminal) (item : ColorItem) (value : Nat) : Terminal :=
  let colors := t.colors
  match item with
  | .palette index =>
    { t with colors := { colors with palette := colors.palette.setIfInBounds index value } }.repaint
  | .foreground => { t with colors := { colors with foreground := value } }.repaint
  | .background => { t with colors := { colors with background := value } }.repaint
  | .cursor => { t with colors := { colors with cursor := if value = 0 then none else some value } }

/-- Answers what a colour is, or sets it. A specification that cannot be read changes nothing. -/
def colorCommand (t : Terminal) (item : ColorItem) (payload : List UInt8)
    (terminator : Terminator) : Terminal :=
  if isQuestion payload then t.reply (.color item (t.colorOf item) terminator)
  else match Color.Spec.read payload with
    | .color value => t.setColor item value
    | .invalid => t
    | .splitCharacter => { t with fault := true }

/-- Answers or sets the palette entries that pairs of an index and a specification name, up to the
first index that is none. -/
def paletteCommand (terminator : Terminator) (t : Terminal) : List (List UInt8) → Terminal
  | index :: payload :: rest =>
    match number? index with
    | none => t
    | some i =>
      if 256 ≤ i then t.note .warning "OSC 4: invalid palette index" [("idx", toString i)]
      else paletteCommand terminator (t.colorCommand (.palette i) payload terminator) rest
  | _ => t

/-- Gives a palette entry the value that it was configured with. -/
def resetPaletteEntry (t : Terminal) (index : List UInt8) : Terminal :=
  let invalid :=
    t.note .warning "OSC 104: invalid palette index" [("idx", Utf8.decodeLenient index)]
  match number? index with
  | none => invalid
  | some i =>
    if 256 ≤ i then invalid
    else
      let value := t.config.palette.toArray.getD i 0
      { t with
        colors := { t.colors with palette := t.colors.palette.setIfInBounds i value } }

/-- Resets the palette entries listed, or all of them. -/
def resetPalette (t : Terminal) (payload : List UInt8) : Terminal :=
  let t :=
    if payload.isEmpty then { t with colors := { t.colors with palette := t.config.palette } }
    else (splitAt 0x3b payload).foldl resetPaletteEntry t
  t.repaint

/-- The host and the path of a file address, if the text is one. -/
def fileAddress? (uri : List Char) : Option (List Char × List Char) :=
  (after? "file://".toList uri).map fun rest =>
    let host := rest.takeWhile (· ≠ '/')
    let path := rest.dropWhile (· ≠ '/')
    (host, if path.isEmpty then ['/'] else path)

/-- Whether a host name means this host. -/
def isLocal (t : Terminal) (host : String) : Bool :=
  host.isEmpty || host = "localhost" || t.config.hostname = some host

/-- Takes note of the application's working directory, given as the address of a file here. -/
def directoryCommand (t : Terminal) (payload : List UInt8) : Terminal :=
  let uri := Utf8.decodeLenient payload
  match fileAddress? uri.toList with
  | none => t.note .warning "OSC 7: not a file URI" [("uri", uri)]
  | some (host, path) =>
    let host := String.ofList host
    if t.isLocal host then
      let path := Utf8.decodeLenient (Percent.decode (Utf8.encode (String.ofList path)))
      { t with directory := some path }.emit (.directory path)
    else t.note .debug "OSC 7: ignoring remote host" [("host", host)]

/-- Starts a link, or ends it if the address is empty. -/
def linkCommand (t : Terminal) (payload : List UInt8) : Terminal :=
  match cutAt? 0x3b payload with
  | none => t.note .debug "OSC 8: missing URI separator"
  | some (_, uri) =>
    let r := t.links.intern (Utf8.decodeLenient uri)
    { t with links := r.value.1, link := r.value.2 }.noteAll r.reports

/-- The clipboards that a command names; without any it means the clipboard proper. -/
def clipboardTargets (names : List UInt8) : List Char :=
  let known := (Control.charsOf names).filter ("cpqs01234567".toList.contains ·)
  if known.isEmpty then ['c'] else known

/-- Answers what the clipboard holds, or fills it. -/
def clipboardCommand (t : Terminal) (payload : List UInt8) (terminator : Terminator) : Terminal :=
  match cutAt? 0x3b payload with
  | none => t.note .debug "OSC 52: missing data separator"
  | some (names, payload) =>
    let targets := clipboardTargets names
    if isQuestion payload then
      t.reply (.clipboard (targets.headD 'c') (t.clipboard.getD []) terminator)
    else match Base64.decode payload with
      | .ok data =>
        { t with clipboard := some data }.emit (.clipboard (String.ofList targets) data)
      | .error fault =>
        t.note .warning "OSC 52: invalid base64 payload" [("err", fault.message)]

/-- Shows a notification with a title. -/
def notifyCommand (t : Terminal) (payload : List UInt8) : Terminal :=
  let text := Utf8.decodeLenient payload
  let (verb, rest) := (cutAt? ';' text.toList).getD (text.toList, [])
  if verb = "notify".toList then
    let (title, body) := (cutAt? ';' rest).getD (rest, [])
    t.emit (.notification (String.ofList title) (String.ofList body))
  else t.note .debug "OSC 777: unsupported command" [("text", text)]

/-- What the settings of a part of a notification say: whether it is the last part, and whether it
belongs to the body. -/
def partSetting (part : Bool × Bool) (item : List Char) : Bool × Bool :=
  match cutAt? '=' item with
  | some (['d'], value) => (value ≠ ['0'], part.2)
  | some (['p'], value) => (part.1, value = "body".toList)
  | _ => part

/-- Adds to the notification that is being put together, and shows it with its last part. -/
def partCommand (t : Terminal) (payload : List UInt8) : Terminal :=
  let text := (Utf8.decodeLenient payload).toList
  let (settings, payload) := (cutAt? ';' text).getD ([], text)
  let (last, isBody) := (splitAt ':' settings).foldl partSetting (true, false)
  let (title, body) := t.pendingNotification.getD ("", "")
  let added := String.ofList payload
  let (title, body) := if isBody then (title, body ++ added) else (title ++ added, body)
  if last then { t with pendingNotification := none }.emit (.notification title body)
  else { t with pendingNotification := some (title, body) }

/-- Marks the cursor's row as the start of a prompt. -/
def promptCommand (t : Terminal) (payload : List UInt8) : Terminal :=
  if payload.head? = some 0x41 then
    let row := t.cursor.row
    t.modifyGrid (·.modifyRow row ({ · with prompt := true }))
  else t

/-- A command that is not known. -/
def unknownCommand (t : Terminal) (data : List UInt8) : Terminal :=
  t.note .debug "unhandled OSC" [("osc", Utf8.decodeLenient data)]

/-- Does what an operating system command asks for. -/
def operate (t : Terminal) (data : List UInt8) (bell : Bool) : Terminal :=
  let (digits, payload) := (cutAt? 0x3b data).getD (data, [])
  let terminator := if bell then Terminator.bell else .st
  match number? digits with
  | none => t.unknownCommand data
  | some command =>
    match command with
    | 0 | 2 => t.setTitle (Utf8.decodeLenient payload)
    | 1 | 30 => t
    | 4 => paletteCommand terminator t (splitAt 0x3b payload)
    | 7 => t.directoryCommand payload
    | 8 => t.linkCommand payload
    | 9 => t.emit (.notification "" (Utf8.decodeLenient payload))
    | 10 => t.colorCommand .foreground payload terminator
    | 11 => t.colorCommand .background payload terminator
    | 12 => t.colorCommand .cursor payload terminator
    | 22 => { t with pointerShape := some (Utf8.decodeLenient payload) }
    | 52 => t.clipboardCommand payload terminator
    | 99 => t.partCommand payload
    | 104 => t.resetPalette payload
    | 110 => { t with colors := { t.colors with foreground := t.config.foreground } }
    | 111 => { t with colors := { t.colors with background := t.config.background } }
    | 112 => { t with colors := { t.colors with cursor := none } }
    | 133 => t.promptCommand payload
    | 555 => t.emit .flash
    | 777 => t.notifyCommand payload
    | _ => t.unknownCommand data

end Teletype.Terminal
