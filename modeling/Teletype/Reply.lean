import Teletype.Capability
import Teletype.Color.Spec
import Teletype.Config.Basic
import Teletype.Modes
import Teletype.Rendition
import Teletype.Text.Base64
import Teletype.Text.Hex

/-!
# Replies

What a terminal answers to the application that runs in it, and the bytes of each answer.
-/

namespace Teletype

/-- How a command ended, which is also how the reply to it ends. -/
inductive Terminator where
  /-- BEL. -/
  | bell
  /-- ESC and a backslash. -/
  | st
  deriving DecidableEq

/-- The bytes of a terminator. -/
def Terminator.text : Terminator → String
  | .bell => "\x07"
  | .st => "\x1b\\"

/-- The present value of a setting that can be asked for. -/
inductive Setting where
  | rendition (r : Rendition)
  /-- The rows that scroll, counted from 1, with both ends in. -/
  | region (top bottom : Nat)
  | cursorStyle (shape : CursorShape) (blink : Bool)
  deriving DecidableEq

/-- The parameter that selects a shape of the cursor. -/
def CursorShape.param (shape : CursorShape) (blink : Bool) : Nat :=
  let steady := match shape with
    | .block => 2
    | .underline => 4
    | .beam => 6
  if blink then steady - 1 else steady

/-- The end of the control sequence that restores a setting. -/
def Setting.selector : Setting → String
  | .rendition r => r.selector
  | .region top bottom => s!"{top};{bottom}r"
  | .cursorStyle shape blink => toString (shape.param blink) ++ " q"

/-- Which colour a command is about. -/
inductive ColorItem where
  | palette (index : Nat)
  | foreground
  | background
  | cursor
  deriving DecidableEq

/-- The numbers that name a colour in a command. -/
def ColorItem.number : ColorItem → String
  | .palette index => s!"4;{index}"
  | .foreground => "10"
  | .background => "11"
  | .cursor => "12"

/-- One answer. -/
inductive Reply where
  /-- What kind of terminal this is, and whether it shows Sixel images. -/
  | primaryAttributes (sixel : Bool)
  /-- The version as a number. -/
  | secondaryAttributes
  /-- The name of the unit. -/
  | tertiaryAttributes
  /-- The name and version of the program. -/
  | version
  /-- The terminal is well. -/
  | healthy
  /-- Where the cursor is, counted from 1, in the private form or the plain one. -/
  | position (isPrivate : Bool) (row col : Nat)
  | decMode (number : Nat) (status : ModeStatus)
  | ansiMode (number : Nat) (status : ModeStatus)
  /-- A setting, or that it is not known. -/
  | setting (value : Option Setting)
  /-- A capability under the name that was sent, or that it is not known. -/
  | capability (name : List UInt8) (value : Option Capability) (terminalName : String)
  | color (item : ColorItem) (value : Nat) (terminator : Terminator)
  /-- The clipboard. -/
  | clipboard (target : Char) (data : List UInt8) (terminator : Terminator)
  /-- The window is open. -/
  | windowOpen
  /-- The window is at the corner of the screen. -/
  | windowPosition
  /-- The size of the text area in pixels. -/
  | textPixels (height width : Nat)
  /-- The size of the screen in pixels, which is not known. -/
  | screenPixels
  | cellPixels (height width : Nat)
  /-- The size of the text area in cells. -/
  | textCells (rows cols : Nat)
  /-- The size of the screen in cells, which is not known. -/
  | screenCells
  deriving DecidableEq

namespace Reply

/-- The name of the program. -/
def programName : String := "ferroterm"

/-- The version of the program. -/
def programVersion : String := "0.1.0"

/-- The version as one number of six digits. -/
def versionNumber : String := "000100"

/-- The value that follows the name of a capability; one that is just there has none. -/
def capabilityValue (value : Capability) (terminalName : String) : List UInt8 :=
  match value with
  | .flag => []
  | value => Text.Utf8.encode "=" ++ Text.Hex.encode (Text.Utf8.encode (value.render terminalName))

/-- The bytes of an answer. -/
def encode : Reply → List UInt8
  | .primaryAttributes sixel => ascii (if sixel then "\x1b[?62;4;22c" else "\x1b[?62;22c")
  | .secondaryAttributes => ascii ("\x1b[>1;" ++ versionNumber ++ ";0c")
  | .tertiaryAttributes =>
    ascii ("\x1bP!|" ++ Text.Hex.text (Text.Utf8.encode programName) ++ "\x1b\\")
  | .version => ascii ("\x1bP>|" ++ programName ++ "(" ++ programVersion ++ ")\x1b\\")
  | .healthy => ascii "\x1b[0n"
  | .position isPrivate row col =>
    ascii ("\x1b[" ++ (if isPrivate then "?" else "") ++ s!"{row};{col}R")
  | .decMode number status => ascii ("\x1b[?" ++ s!"{number};{status.number}$y")
  | .ansiMode number status => ascii ("\x1b[" ++ s!"{number};{status.number}$y")
  | .setting none => ascii "\x1bP0$r\x1b\\"
  | .setting (some value) => ascii ("\x1bP1$r" ++ value.selector ++ "\x1b\\")
  | .capability name none _ => ascii "\x1bP0+r" ++ name ++ ascii "\x1b\\"
  | .capability name (some value) terminalName =>
    ascii "\x1bP1+r" ++ name ++ capabilityValue value terminalName ++ ascii "\x1b\\"
  | .color item value terminator =>
    ascii ("\x1b]" ++ item.number ++ ";" ++ Color.Spec.write value ++ terminator.text)
  | .clipboard target data terminator =>
    ascii ("\x1b]52;" ++ target.toString ++ ";") ++ Text.Base64.encode data
      ++ ascii terminator.text
  | .windowOpen => ascii "\x1b[1t"
  | .windowPosition => ascii "\x1b[3;0;0t"
  | .textPixels height width => ascii ("\x1b[4;" ++ s!"{height};{width}t")
  | .screenPixels => ascii "\x1b[5;0;0t"
  | .cellPixels height width => ascii ("\x1b[6;" ++ s!"{height};{width}t")
  | .textCells rows cols => ascii ("\x1b[8;" ++ s!"{rows};{cols}t")
  | .screenCells => ascii "\x1b[9;0;0t"
where
  /-- The bytes of a text. -/
  ascii (text : String) : List UInt8 := Text.Utf8.encode text

end Reply

end Teletype
