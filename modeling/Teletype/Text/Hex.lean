import Teletype.Text.Numeral

/-!
# Bytes as hexadecimal text

Two digits a byte. Writing uses the lower case or the upper case; reading takes either.
-/

namespace Teletype.Text.Hex

/-- The byte of a hexadecimal digit below sixteen, in upper case. -/
def digit (n : UInt8) : UInt8 := if n < 10 then 48 + n else 55 + n

/-- The value of a hexadecimal digit. -/
def value? (b : UInt8) : Option UInt8 :=
  if 48 ≤ b && b ≤ 57 then some (b - 48)
  else if 65 ≤ b && b ≤ 70 then some (b - 55)
  else if 97 ≤ b && b ≤ 102 then some (b - 87)
  else none

/-- The upper-case hexadecimal digits of the bytes. -/
def encode (bytes : List UInt8) : List UInt8 :=
  bytes.flatMap fun b => [digit (b / 16), digit (b % 16)]

/-- The lower-case hexadecimal digits of the bytes, as a text. -/
def text (bytes : List UInt8) : String :=
  bytes.foldl (fun s b => (s.push (Numeral.hexDigit (b.toNat / 16))).push
    (Numeral.hexDigit (b.toNat % 16))) ""

/-- The bytes that pairs of digits write, read after those in `done`, the last of them first. -/
def decodeAfter (done : List UInt8) : List UInt8 → Option (List UInt8)
  | [] => some done.reverse
  | [_] => none
  | high :: low :: rest =>
    match value? high, value? low with
    | some h, some l => decodeAfter ((h * 16 + l) :: done) rest
    | _, _ => none

/-- The bytes that the digits write, if they are pairs of hexadecimal digits. -/
def decode? (digits : List UInt8) : Option (List UInt8) := decodeAfter [] digits

end Teletype.Text.Hex
