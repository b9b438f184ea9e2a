/-!
# Character sets

Four slots hold a character set each. Printed characters go through the set of the selected slot,
or once through that of a single shift.
-/

namespace Teletype

/-- A character set. -/
inductive Charset where
  | ascii
  /-- The line drawing set of the VT100. -/
  | graphics
  deriving DecidableEq

namespace Charset

/-- The set that the last byte of a designation names; an unknown one names ASCII. -/
def ofFinal (final : UInt8) : Charset := if final = 0x30 then .graphics else .ascii

/-- The character at a place of the line drawing set: the lower half of ASCII from the underscore
on. Every other character stands for itself. -/
def graphic (c : Char) : Char :=
  match c with
  | '_' => ' '
  | '\x60' => '◆'
  | 'a' => '▒'
  | 'b' => '␉'
  | 'c' => '␌'
  | 'd' => '␍'
  | 'e' => '␊'
  | 'f' => '°'
  | 'g' => '±'
  | 'h' => '␤'
  | 'i' => '␋'
  | 'j' => '┘'
  | 'k' => '┐'
  | 'l' => '┌'
  | 'm' => '└'
  | 'n' => '┼'
  | 'o' => '⎺'
  | 'p' => '⎻'
  | 'q' => '─'
  | 'r' => '⎼'
  | 's' => '⎽'
  | 't' => '├'
  | 'u' => '┤'
  | 'v' => '┴'
  | 'w' => '┬'
  | 'x' => '│'
  | 'y' => '≤'
  | 'z' => '≥'
  | '\x7b' => 'π'
  | '|' => '≠'
  | '\x7d' => '£'
  | '~' => '·'
  | _ => c

/-- The character that a set shows for `c`. -/
def translate : Charset → Char → Char
  | .ascii, c => c
  | .graphics, c => graphic c

end Charset

/-- There is a first slot. -/
instance slotsNeZero : @NeZero Nat Zero.ofOfNat0 4 := ⟨Nat.succ_ne_zero 3⟩

/-- The four slots and which of them is in use. -/
structure Charsets where
  sets : Vector Charset 4 := Vector.replicate 4 .ascii
  /-- The slot that printed characters go through. -/
  selected : Fin 4 := 0
  /-- The slot that the next printed character goes through instead. -/
  singleShift : Option (Fin 4) := none
  deriving DecidableEq

namespace Charsets

/-- A slot by its number. -/
def slot? (n : Nat) : Option (Fin 4) := if h : n < 4 then some ⟨n, h⟩ else none

/-- Puts a set into a slot. -/
def designate (c : Charsets) (slot : Fin 4) (set : Charset) : Charsets :=
  { c with sets := c.sets.set slot.val set slot.isLt }

/-- Selects a slot. -/
def select (c : Charsets) (slot : Fin 4) : Charsets := { c with selected := slot }

/-- Selects a slot for the next printed character. -/
def shiftOnce (c : Charsets) (slot : Fin 4) : Charsets := { c with singleShift := some slot }

/-- The character that a printed one turns into. A single shift is used up. -/
def translate (c : Charsets) (ch : Char) : Charsets × Char :=
  let slot := c.singleShift.getD c.selected
  ({ c with singleShift := none }, (c.sets.get slot).translate ch)

end Charsets

end Teletype
