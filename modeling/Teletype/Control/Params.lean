/-!
# Parameters of a control sequence

Decimal values between semicolons, each with values of its own after colons. At most sixteen
parameters and eight sub-parameters of each are kept; a value above 65535 is kept as 65535 and
marks the list as overflowed, whether the value is kept or not.
-/

namespace Teletype.Control

/-- One parameter. -/
structure Param where
  value : Nat := 0
  /-- The parameter was left out. -/
  isDefault : Bool := false
  /-- The values after the colons, with 0 for an empty one. -/
  subs : List Nat := []
  deriving DecidableEq

/-- The parameters of a sequence. -/
structure Params where
  items : List Param := []
  /-- Some value was above 65535. -/
  overflowed : Bool := false
  deriving DecidableEq

namespace Params

/-- Most parameters kept. -/
def maxCount : Nat := 16

/-- Most sub-parameters kept of one parameter. -/
def maxSubs : Nat := 8

/-- The greatest value of a parameter. -/
def maxValue : Nat := 65535

/-- Parameters without sub-parameters, all of them given. -/
def ofValues (values : List Nat) : Params :=
  { items := (values.take maxCount).map fun v => { value := v } }

/-- The value of the parameter at index `i`, or 0 if there is none. -/
def raw (p : Params) (i : Nat) : Nat :=
  match p.items[i]? with
  | some item => item.value
  | none => 0

/-- The value of the parameter at index `i`, or `default` if it is missing or zero. -/
def get (p : Params) (i default : Nat) : Nat :=
  if p.raw i = 0 then default else p.raw i

/-- The first parameter as a count: at least one. -/
def count (p : Params) : Nat := p.get 0 1

/-- Parameters while their bytes arrive. -/
structure Builder where
  /-- The parameters so far, the one being read first. -/
  items : List Param := []
  /-- The number being read, cut off at one above the greatest value. -/
  value : Nat := 0
  /-- The number being read has a digit. -/
  hasDigits : Bool := false
  /-- The number being read is a sub-parameter. -/
  inSub : Bool := false
  /-- The parameter being read is one too many. -/
  dropParam : Bool := false
  /-- The sub-parameter being read is one too many. -/
  dropSub : Bool := false
  overflowed : Bool := false
  deriving DecidableEq

namespace Builder

/-- The builder with a parameter to read into. -/
def opened (b : Builder) : Builder :=
  if b.items.isEmpty then { b with items := [{}] } else b

/-- Changes the parameter being read. -/
def modifyItem (b : Builder) (f : Param → Param) : Builder :=
  match b.items with
  | [] => b
  | item :: rest => { b with items := f item :: rest }

/-- Ends the number being read and stores it where it belongs, if it is kept. -/
def commit (b : Builder) : Builder :=
  let value := min b.value maxValue
  let next := { b with
    value := 0
    hasDigits := false
    overflowed := b.overflowed || maxValue < b.value }
  if b.dropParam then next
  else if b.inSub then
    if b.dropSub then next
    else next.modifyItem fun item => { item with subs := item.subs.dropLast ++ [value] }
  else next.modifyItem fun item => { item with value := value, isDefault := !b.hasDigits }

/-- Reads a digit. -/
def digit (b : Builder) (d : Nat) : Builder :=
  { b.opened with value := min (b.value * 10 + d) (maxValue + 1), hasDigits := true }

/-- What reading a separator may find in excess. -/
inductive Excess where
  | params | subs
  deriving DecidableEq

/-- Reads a semicolon: the next parameter starts. -/
def semicolon (b : Builder) : Builder × Option Excess :=
  let next := { b.opened.commit with inSub := false, dropSub := false }
  if next.dropParam then (next, none)
  else if next.items.length = maxCount then ({ next with dropParam := true }, some .params)
  else ({ next with items := {} :: next.items }, none)

/-- Reads a colon: the next sub-parameter starts. -/
def colon (b : Builder) : Builder × Option Excess :=
  let next := { b.opened.commit with inSub := true }
  if next.dropParam then (next, none)
  else match next.items with
    | [] => (next, none)
    | item :: rest =>
      if item.subs.length = maxSubs then ({ next with dropSub := true }, some .subs)
      else ({ next with items := { item with subs := item.subs ++ [0] } :: rest }, none)

/-- Reads a byte of the parameter part: a digit, a colon or a semicolon. -/
def push (b : Builder) (byte : UInt8) : Builder × Option Excess :=
  if 0x30 ≤ byte && byte ≤ 0x39 then (b.digit (byte.toNat - 0x30), none)
  else if byte = 0x3a then b.colon
  else b.semicolon

/-- The parameters once the last of their bytes was read. -/
def finish (b : Builder) : Params :=
  let last := if b.items.isEmpty then b else b.commit
  { items := last.items.reverse, overflowed := last.overflowed }

end Builder

end Params

end Teletype.Control
