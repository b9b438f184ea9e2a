/-!
# Modes

The switches of a terminal. Private modes are chosen by DEC's numbers and ANSI modes by theirs.
Mouse tracking and the encoding of mouse reports are one choice each among several private modes.
-/

namespace Teletype

/-- A private mode that is either on or off. -/
inductive DecFlag where
  | appCursorKeys | reverseVideo | origin | autowrap | cursorBlink | cursorVisible | reverseWrap
  | appKeypad | focusEvents | altScroll | metaEightBit | numLock | metaEscape | bellUrgent
  | bracketedPaste | graphemeShaping
  deriving DecidableEq

/-- Every private mode that is either on or off. -/
def DecFlag.all : List DecFlag :=
  [.appCursorKeys, .reverseVideo, .origin, .autowrap, .cursorBlink, .cursorVisible, .reverseWrap,
    .appKeypad, .focusEvents, .altScroll, .metaEightBit, .numLock, .metaEscape, .bellUrgent,
    .bracketedPaste, .graphemeShaping]

/-- The private modes that are either on or off. -/
structure DecFlags where
  appCursorKeys : Bool := false
  reverseVideo : Bool := false
  /-- Rows are counted from the top of the scroll region, which confines the cursor. -/
  origin : Bool := false
  /-- Text that reaches the last column goes on in the next row. -/
  autowrap : Bool := true
  cursorBlink : Bool := false
  cursorVisible : Bool := true
  /-- A backspace in the first column goes to the end of the row above. -/
  reverseWrap : Bool := false
  appKeypad : Bool := false
  focusEvents : Bool := false
  altScroll : Bool := true
  metaEightBit : Bool := false
  numLock : Bool := false
  metaEscape : Bool := true
  bellUrgent : Bool := false
  bracketedPaste : Bool := false
  /-- Characters that belong together share a cell. -/
  graphemeShaping : Bool := false
  deriving DecidableEq

namespace DecFlags

/-- Whether a mode is on. -/
def get (f : DecFlags) : DecFlag → Bool
  | .appCursorKeys => f.appCursorKeys
  | .reverseVideo => f.reverseVideo
  | .origin => f.origin
  | .autowrap => f.autowrap
  | .cursorBlink => f.cursorBlink
  | .cursorVisible => f.cursorVisible
  | .reverseWrap => f.reverseWrap
  | .appKeypad => f.appKeypad
  | .focusEvents => f.focusEvents
  | .altScroll => f.altScroll
  | .metaEightBit => f.metaEightBit
  | .numLock => f.numLock
  | .metaEscape => f.metaEscape
  | .bellUrgent => f.bellUrgent
  | .bracketedPaste => f.bracketedPaste
  | .graphemeShaping => f.graphemeShaping

/-- Switches a mode. -/
def set (f : DecFlags) (flag : DecFlag) (on : Bool) : DecFlags :=
  match flag with
  | .appCursorKeys => { f with appCursorKeys := on }
  | .reverseVideo => { f with reverseVideo := on }
  | .origin => { f with origin := on }
  | .autowrap => { f with autowrap := on }
  | .cursorBlink => { f with cursorBlink := on }
  | .cursorVisible => { f with cursorVisible := on }
  | .reverseWrap => { f with reverseWrap := on }
  | .appKeypad => { f with appKeypad := on }
  | .focusEvents => { f with focusEvents := on }
  | .altScroll => { f with altScroll := on }
  | .metaEightBit => { f with metaEightBit := on }
  | .numLock => { f with numLock := on }
  | .metaEscape => { f with metaEscape := on }
  | .bellUrgent => { f with bellUrgent := on }
  | .bracketedPaste => { f with bracketedPaste := on }
  | .graphemeShaping => { f with graphemeShaping := on }

theorem get_set (f : DecFlags) (flag other : DecFlag) (on : Bool) :
    (f.set flag on).get other = if other = flag then on else f.get other := by
  cases flag <;> cases other <;> rfl

end DecFlags

/-- Which mouse events are reported. -/
inductive MouseTracking where
  | none | click | drag | motion
  deriving DecidableEq

/-- How mouse reports are written. -/
inductive MouseEncoding where
  | normal | sgr | urxvt | sgrPixels
  deriving DecidableEq

/-- A private mode that is kept here. -/
inductive DecMode where
  | flag (f : DecFlag)
  | tracking (t : MouseTracking)
  | encoding (e : MouseEncoding)
  deriving DecidableEq

/-- The private mode with the given number. -/
def DecMode.ofNumber? : Nat → Option DecMode
  | 1 => some (.flag .appCursorKeys)
  | 5 => some (.flag .reverseVideo)
  | 6 => some (.flag .origin)
  | 7 => some (.flag .autowrap)
  | 12 => some (.flag .cursorBlink)
  | 25 => some (.flag .cursorVisible)
  | 45 => some (.flag .reverseWrap)
  | 66 => some (.flag .appKeypad)
  | 1000 => some (.tracking .click)
  | 1002 => some (.tracking .drag)
  | 1003 => some (.tracking .motion)
  | 1004 => some (.flag .focusEvents)
  | 1006 => some (.encoding .sgr)
  | 1007 => some (.flag .altScroll)
  | 1015 => some (.encoding .urxvt)
  | 1016 => some (.encoding .sgrPixels)
  | 1034 => some (.flag .metaEightBit)
  | 1035 => some (.flag .numLock)
  | 1036 => some (.flag .metaEscape)
  | 1042 => some (.flag .bellUrgent)
  | 2004 => some (.flag .bracketedPaste)
  | 2027 => some (.flag .graphemeShaping)
  | _ => none

/-- An ANSI mode. -/
inductive AnsiMode where
  /-- Printed characters push the rest of the row to the right. -/
  | insert
  /-- A line feed also returns to the first column. -/
  | newline
  deriving DecidableEq

/-- The ANSI mode with the given number. -/
def AnsiMode.ofNumber? : Nat → Option AnsiMode
  | 4 => some .insert
  | 20 => some .newline
  | _ => none

/-- What a terminal answers about a mode. -/
inductive ModeStatus where
  | notRecognized | set | reset | permanentlySet | permanentlyReset
  deriving DecidableEq

namespace ModeStatus

/-- The status of a mode that can be switched. -/
def ofBool (on : Bool) : ModeStatus := if on then .set else .reset

/-- The number of a status in a reply. -/
def number : ModeStatus → Nat
  | .notRecognized => 0
  | .set => 1
  | .reset => 2
  | .permanentlySet => 3
  | .permanentlyReset => 4

end ModeStatus

/-- All modes. -/
structure Modes where
  dec : DecFlags := {}
  insert : Bool := false
  newline : Bool := false
  tracking : MouseTracking := .none
  encoding : MouseEncoding := .normal
  deriving DecidableEq

namespace Modes

/-- Switches a private mode. Switching off a choice that is not the present one changes nothing. -/
def setDec (m : Modes) (mode : DecMode) (on : Bool) : Modes :=
  match mode with
  | .flag f => { m with dec := m.dec.set f on }
  | .tracking t =>
    if on then { m with tracking := t }
    else if m.tracking = t then { m with tracking := .none }
    else m
  | .encoding e =>
    if on then { m with encoding := e }
    else if m.encoding = e then { m with encoding := .normal }
    else m

/-- Whether a private mode is on. -/
def getDec (m : Modes) : DecMode → Bool
  | .flag f => m.dec.get f
  | .tracking t => m.tracking = t
  | .encoding e => m.encoding = e

/-- The status of the private mode with the given number. Some mouse modes are known but can never
be on. -/
def decStatus (m : Modes) (number : Nat) : ModeStatus :=
  match DecMode.ofNumber? number with
  | some mode => .ofBool (m.getDec mode)
  | none =>
    if number = 9 || number = 1001 || number = 1005 then .permanentlyReset else .notRecognized

/-- Switches an ANSI mode. -/
def setAnsi (m : Modes) (mode : AnsiMode) (on : Bool) : Modes :=
  match mode with
  | .insert => { m with insert := on }
  | .newline => { m with newline := on }

/-- The status of the ANSI mode with the given number. -/
def ansiStatus (m : Modes) (number : Nat) : ModeStatus :=
  match AnsiMode.ofNumber? number with
  | some .insert => .ofBool m.insert
  | some .newline => .ofBool m.newline
  | none => .notRecognized

end Modes

end Teletype
