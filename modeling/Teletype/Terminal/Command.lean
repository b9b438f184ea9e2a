import Teletype.Charset
import Teletype.Control.Action

/-!
# Commands

What control characters, escape sequences and control sequences ask a terminal to do. A count is
always at least one; places are counted from 0.
-/

namespace Teletype

/-- What a control function asks for. -/
inductive Command where
  /-- Nothing, on purpose. -/
  | nothing
  | bell
  | backspace
  | carriageReturn
  /-- A line feed, which in newline mode also returns to the first column. -/
  | lineFeed
  /-- Goes to the next row, scrolling at the end of the region. -/
  | index
  /-- Goes to the row above, scrolling at the start of the region. -/
  | reverseIndex
  /-- Goes to the start of the next row. -/
  | nextRow
  | setTab
  | clearTab (mode : Nat)
  | tabForward (n : Nat)
  | tabBackward (n : Nat)
  | cursorUp (n : Nat)
  | cursorDown (n : Nat)
  | cursorRight (n : Nat)
  | cursorLeft (n : Nat)
  /-- Goes to the start of the row `n` rows below. -/
  | cursorNextLine (n : Nat)
  /-- Goes to the start of the row `n` rows above. -/
  | cursorPreviousLine (n : Nat)
  | toColumn (col : Nat)
  | toRow (row : Nat)
  | toPlace (row col : Nat)
  | insertChars (n : Nat)
  | deleteChars (n : Nat)
  | eraseChars (n : Nat)
  | insertLines (n : Nat)
  | deleteLines (n : Nat)
  | eraseDisplay (mode : Nat)
  | eraseLine (mode : Nat)
  | scrollUp (n : Nat)
  | scrollDown (n : Nat)
  /-- The last printed character `n` times more. -/
  | repeatLast (n : Nat)
  /-- The rows that scroll, counted from 1, with both ends in; a bottom of 0 is the last row. -/
  | setRegion (top bottom : Nat)
  | saveCursor
  | restoreCursor
  | selectCharset (slot : Fin 4)
  | shiftOnce (slot : Fin 4)
  | designate (slot : Fin 4) (set : Charset)
  | appKeypad (on : Bool)
  | selectRendition (params : Control.Params)
  | setAnsiModes (numbers : List Nat) (on : Bool)
  | setDecModes (numbers : List Nat) (on : Bool)
  | saveDecModes (numbers : List Nat)
  | restoreDecModes (numbers : List Nat)
  | cursorStyle (style : Nat)
  | windowOperation (op arg : Nat)
  | alignmentTest
  | softReset
  | hardReset
  | askPrimaryAttributes
  | askSecondaryAttributes
  | askTertiaryAttributes
  | askVersion
  | askStatus (what : Nat)
  /-- Where the cursor is, in the private form. -/
  | askPrivatePosition
  | askDecMode (number : Nat)
  | askAnsiMode (number : Nat)
  /-- Left and right margins, which there are not. -/
  | marginsUnsupported (sequence : String)
  | overflowed (sequence : String)
  | unknownControl (byte : UInt8)
  | unknownEscape (sequence : String)
  | unknownSequence (sequence : String)
  deriving DecidableEq

namespace Command

/-- What a control character asks for. -/
def ofControl (byte : UInt8) : Command :=
  match byte.toNat with
  | 0x07 => .bell
  | 0x08 => .backspace
  | 0x09 => .tabForward 1
  | 0x0a | 0x0b | 0x0c => .lineFeed
  | 0x0d => .carriageReturn
  | 0x0e => .selectCharset 1
  | 0x0f => .selectCharset 0
  | _ => .unknownControl byte

/-- What an escape sequence without intermediate bytes asks for. -/
def ofPlainEscape? (final : Char) : Option Command :=
  match final with
  | '7' => some .saveCursor
  | '8' => some .restoreCursor
  | 'c' => some .hardReset
  | 'D' => some .index
  | 'E' => some .nextRow
  | 'H' => some .setTab
  | 'M' => some .reverseIndex
  | 'N' => some (.shiftOnce 2)
  | 'O' => some (.shiftOnce 3)
  | 'n' => some (.selectCharset 2)
  | 'o' => some (.selectCharset 3)
  | '=' => some (.appKeypad true)
  | '>' => some (.appKeypad false)
  | '\\' => some .nothing
  | _ => none

/-- The slot that an intermediate byte designates. -/
def slotOf? (b : UInt8) : Option (Fin 4) :=
  match Char.ofNat b.toNat with
  | '(' => some 0
  | ')' => some 1
  | '*' => some 2
  | '+' => some 3
  | _ => none

/-- What an escape sequence asks for, if it is known. -/
def ofEscape? (s : Control.EscapeSequence) : Option Command :=
  match s.intermediates with
  | [] => ofPlainEscape? (Char.ofNat s.final.toNat)
  | [b] =>
    match slotOf? b with
    | some slot => some (.designate slot (.ofFinal s.final))
    | none => if b = 0x23 && s.final = 0x38 then some .alignmentTest else none
  | _ => none

/-- What an escape sequence asks for. -/
def ofEscape (s : Control.EscapeSequence) : Command :=
  (ofEscape? s).getD (.unknownEscape s.text)

/-- The values of all parameters. -/
def numbers (p : Control.Params) : List Nat := p.items.map Control.Param.value

/-- What a question asks for, which is answered only when its parameter is 0. -/
def ifZero (p : Control.Params) (c : Command) : Command := if p.raw 0 = 0 then c else .nothing

/-- What a control sequence without marker and intermediate bytes asks for. -/
def ofPlainSequence? (s : Control.ControlSequence) : Option Command :=
  let p := s.params
  match Char.ofNat s.final.toNat with
  | '@' => some (.insertChars p.count)
  | 'A' => some (.cursorUp p.count)
  | 'B' | 'e' => some (.cursorDown p.count)
  | 'C' | 'a' => some (.cursorRight p.count)
  | 'D' => some (.cursorLeft p.count)
  | 'E' => some (.cursorNextLine p.count)
  | 'F' => some (.cursorPreviousLine p.count)
  | 'G' | '\x60' => some (.toColumn (p.count - 1))
  | 'H' | 'f' => some (.toPlace (p.count - 1) (p.get 1 1 - 1))
  | 'I' => some (.tabForward p.count)
  | 'J' => some (.eraseDisplay (p.raw 0))
  | 'K' => some (.eraseLine (p.raw 0))
  | 'L' => some (.insertLines p.count)
  | 'M' => some (.deleteLines p.count)
  | 'P' => some (.deleteChars p.count)
  | 'S' => some (.scrollUp p.count)
  | 'T' => some (.scrollDown p.count)
  | 'X' => some (.eraseChars p.count)
  | 'Z' => some (.tabBackward p.count)
  | 'b' => some (.repeatLast p.count)
  | 'c' => some (ifZero p .askPrimaryAttributes)
  | 'd' => some (.toRow (p.count - 1))
  | 'g' => some (.clearTab (p.raw 0))
  | 'h' => some (.setAnsiModes (numbers p) true)
  | 'l' => some (.setAnsiModes (numbers p) false)
  | 'm' => some (.selectRendition p)
  | 'n' => some (.askStatus (p.raw 0))
  | 'r' => some (.setRegion p.count (p.raw 1))
  | 's' => some (if p.items.isEmpty then .saveCursor else .marginsUnsupported s.text)
  | 't' => some (.windowOperation (p.raw 0) (p.raw 1))
  | 'u' => some .restoreCursor
  | _ => none

/-- What a control sequence with the marker `?` asks for. -/
def ofPrivateSequence? (s : Control.ControlSequence) : Option Command :=
  let p := s.params
  match Char.ofNat s.final.toNat with
  | 'h' => some (.setDecModes (numbers p) true)
  | 'l' => some (.setDecModes (numbers p) false)
  | 's' => some (.saveDecModes (numbers p))
  | 'r' => some (.restoreDecModes (numbers p))
  | 'n' => if p.raw 0 = 6 then some .askPrivatePosition else none
  | _ => none

/-- What a control sequence asks for, if it is known. -/
def ofSequence? (s : Control.ControlSequence) : Option Command :=
  let p := s.params
  let final := Char.ofNat s.final.toNat
  match s.marker.map (Char.ofNat ·.toNat), Control.charsOf s.intermediates with
  | none, [] => ofPlainSequence? s
  | some '?', [] => ofPrivateSequence? s
  | some '?', ['$'] => if final = 'p' then some (.askDecMode (p.raw 0)) else none
  | none, ['$'] => if final = 'p' then some (.askAnsiMode (p.raw 0)) else none
  | some '>', [] =>
    if final = 'c' then some (ifZero p .askSecondaryAttributes)
    else if final = 'q' then some (ifZero p .askVersion)
    else none
  | some '=', [] => if final = 'c' then some (ifZero p .askTertiaryAttributes) else none
  | none, [' '] => if final = 'q' then some (.cursorStyle (p.raw 0)) else none
  | none, ['!'] => if final = 'p' then some .softReset else none
  | _, _ => none

/-- What a control sequence asks for. One with too great a value is ignored as a whole. -/
def ofSequence (s : Control.ControlSequence) : Command :=
  if s.params.overflowed then .overflowed s.text
  else (ofSequence? s).getD (.unknownSequence s.text)

end Command

end Teletype
