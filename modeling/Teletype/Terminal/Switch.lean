import Teletype.Terminal.Screen

/-!
# Switching modes

What changes with a mode beside the mode itself, and saving and restoring private modes by number.
-/

namespace Teletype.Terminal

/-- Opens a synchronized update. -/
def beginSync (t : Terminal) (now : Instant) : Terminal :=
  { t with schedule := t.schedule.beginSync now }.note .trace "synchronized update begins"

/-- Closes the synchronized update. -/
def endSync (t : Terminal) : Terminal :=
  { t with schedule := t.schedule.endSync }.note .trace "synchronized update ends"

/-- Switches a private mode that is kept as it is. -/
def switchDec (t : Terminal) (mode : DecMode) (on : Bool) : Terminal :=
  { t with modes := t.modes.setDec mode on }

/-- The number of a mode in a report. -/
def modeField (number : Nat) : List (String × String) := [("mode", toString number)]

/-- Switches the private mode with the given number, with all that goes with it. -/
def setDecMode (now : Instant) (on : Bool) (t : Terminal) (number : Nat) : Terminal :=
  match number with
  | 5 => (t.switchDec (.flag .reverseVideo) on).modifyGrid Grid.markAllDirty
  | 6 => (t.switchDec (.flag .origin) on).goTo 0 0
  | 7 => (t.switchDec (.flag .autowrap) on).modifyGrid Grid.clearPending
  | 9 | 1001 | 1005 =>
    if on then t.note .warning "unimplemented: DEC private mode" (modeField number) else t
  | 47 | 1047 => if on then t.enterAlternate false else t.leaveAlternate false
  | 1048 => if on then t.saveCursor else t.restoreCursor
  | 1049 => if on then t.enterAlternate true else t.leaveAlternate true
  | 2026 => if on then t.beginSync now else t.endSync
  | _ =>
    match DecMode.ofNumber? number with
    | some mode => t.switchDec mode on
    | none =>
      if on then t.note .warning "unimplemented: DECSET" (modeField number)
      else t.note .debug "unimplemented: DECRST" (modeField number)

/-- The status of the private mode with the given number. -/
def decModeStatus (t : Terminal) (number : Nat) : ModeStatus :=
  match number with
  | 47 | 1047 | 1049 => .ofBool t.isAlternate
  | 69 => .permanentlyReset
  | 2026 => .ofBool t.schedule.isSyncing
  | 2027 =>
    if t.config.widthMethod = .double then t.modes.decStatus number else .permanentlyReset
  | _ => t.modes.decStatus number

/-- Keeps whether a private mode is on. -/
def keepMode (t : Terminal) (number : Nat) (on : Bool) : Terminal :=
  { t with savedModes := (number, on) :: t.savedModes.filter (·.1 ≠ number) }

/-- Saves the private mode with the given number, if it can be switched. -/
def saveDecMode (t : Terminal) (number : Nat) : Terminal :=
  if number = 1048 then t.saveCursor
  else match t.decModeStatus number with
    | .set => t.keepMode number true
    | .reset => t.keepMode number false
    | _ => t.note .debug "XTSAVE: mode cannot be saved" (modeField number)

/-- Restores the private mode with the given number, if it was saved. -/
def restoreDecMode (now : Instant) (t : Terminal) (number : Nat) : Terminal :=
  if number = 1048 then t.restoreCursor
  else match t.savedModes.lookup number with
    | some on => setDecMode now on t number
    | none => t.note .debug "XTRESTORE: mode was never saved" (modeField number)

/-- Switches the ANSI mode with the given number. -/
def setAnsiMode (on : Bool) (t : Terminal) (number : Nat) : Terminal :=
  match AnsiMode.ofNumber? number with
  | some mode => { t with modes := t.modes.setAnsi mode on }
  | none =>
    if on then t.note .warning "SM with unimplemented mode" (modeField number)
    else t.note .debug "RM with unimplemented mode" (modeField number)

end Teletype.Terminal
