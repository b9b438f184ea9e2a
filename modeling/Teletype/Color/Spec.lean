import Teletype.Color.Basic
import Teletype.Text.Numeral
import Teletype.Text.Split
import Teletype.Text.Utf8

/-!
# Colour specifications

The texts that name a colour value in a command: `rgb:h/h/h`, `rgba:h/h/h/h` with an alpha that is
ignored, or `#` and three channels of equal length, perhaps after an opacity in brackets. A channel
has one to four hexadecimal digits, the first of which weigh most.
-/

namespace Teletype.Color.Spec

open Teletype.Text

/-- What a specification turns out to be. -/
inductive Reading where
  | color (value : Nat)
  | invalid
  /-- A channel of the short form ends inside a character, so that it cannot be cut out. -/
  | splitCharacter
  deriving DecidableEq

/-- The bytes as characters, one for one. -/
def chars (bytes : List UInt8) : List Char := bytes.map fun b => Char.ofNat b.toNat

/-- The eight most significant bits of a channel. -/
def channel? (digits : List UInt8) : Option Nat :=
  if digits.isEmpty || 4 < digits.length then none
  else (Numeral.read? 16 Numeral.max32 (chars digits)).map fun value =>
    value * 0x100 / Nat.pow 16 digits.length

/-- A colour of three channels, if all of them can be read. -/
def color (red green blue : Option Nat) : Reading :=
  match red, green, blue with
  | some r, some g, some b => .color (pack r g b)
  | _, _, _ => .invalid

/-- Whether a character ends where the first `n` bytes end. -/
def isCut (bytes : List UInt8) (n : Nat) : Bool :=
  match bytes[n]? with
  | some b => !Utf8.isContinuation b
  | none => true

/-- The channels of the short form, cut out and read from the first to the last. -/
def short (digits : List UInt8) : Reading :=
  let n := digits.length / 3
  if digits.isEmpty || digits.length % 3 ≠ 0 || 12 < digits.length then .invalid
  else if !isCut digits n then .splitCharacter
  else match channel? (digits.take n) with
    | none => .invalid
    | some red =>
      if !isCut digits (2 * n) then .splitCharacter
      else color (some red) (channel? ((digits.drop n).take n)) (channel? (digits.drop (2 * n)))

/-- The specification without an opacity in brackets, if what the brackets hold is a number. -/
def withoutOpacity? (spec : List UInt8) : Option (List UInt8) :=
  match after? (Utf8.encode "[") spec with
  | none => some spec
  | some rest =>
    match cutAt? 0x5d rest with
    | none => none
    | some (percent, tail) =>
      (Numeral.read? 10 Numeral.max32 (chars percent)).map fun _ => tail

/-- Reads a specification. -/
def read (spec : List UInt8) : Reading :=
  if (Utf8.decode? spec).isNone then .invalid
  else if let some body := after? (Utf8.encode "rgba:") spec then
    match splitAt 0x2f body with
    | [r, g, b, _] => color (channel? r) (channel? g) (channel? b)
    | _ => .invalid
  else if let some body := after? (Utf8.encode "rgb:") spec then
    match splitAt 0x2f body with
    | [r, g, b] => color (channel? r) (channel? g) (channel? b)
    | _ => .invalid
  else match withoutOpacity? spec with
    | none => .invalid
    | some rest =>
      match after? (Utf8.encode "#") rest with
      | none => .invalid
      | some digits => short digits

/-- How a reply names a colour value: each channel of eight bits is written twice. -/
def write (value : Nat) : String :=
  let channel (n : Nat) :=
    let digits := Numeral.hex 2 (n % 0x100)
    digits ++ digits
  s!"rgb:{channel (value / 0x10000)}/{channel (value / 0x100)}/{channel value}"

end Teletype.Color.Spec
