/-!
# Numbers in text

Reading and writing unsigned numbers. A sign `+` may stand before the digits; anything else, or a
value above the bound, is no number.
-/

namespace Teletype.Text.Numeral

/-- The value of a digit, of the letters in either case. -/
def digit? (c : Char) : Option Nat :=
  if '0' ≤ c && c ≤ '9' then some (c.toNat - '0'.toNat)
  else if 'a' ≤ c && c ≤ 'z' then some (c.toNat - 'a'.toNat + 10)
  else if 'A' ≤ c && c ≤ 'Z' then some (c.toNat - 'A'.toNat + 10)
  else none

/-- Continues the number `value` with the digits that follow, as long as it stays within `bound`. -/
def digits (radix bound value : Nat) : List Char → Option Nat
  | [] => some value
  | c :: rest =>
    match digit? c with
    | none => none
    | some d =>
      let next := value * radix + d
      if d < radix && next ≤ bound then digits radix bound next rest else none

/-- The number that the characters write in the given radix, if it is at most `bound`. -/
def read? (radix bound : Nat) : List Char → Option Nat
  | [] => none
  | ['+'] => none
  | '+' :: rest => digits radix bound 0 rest
  | text => digits radix bound 0 text

/-- A decimal number of at most `bound`. -/
def decimal? (bound : Nat) (text : String) : Option Nat := read? 10 bound text.toList

/-- The greatest number of sixteen bits. -/
def max16 : Nat := 0xffff

/-- The greatest number of thirty-two bits. -/
def max32 : Nat := 0xffffffff

/-- The greatest number of sixty-four bits. -/
def max64 : Nat := 0xffffffffffffffff

/-- The lower-case hexadecimal digit of a number below sixteen. -/
def hexDigit (n : Nat) : Char := if n < 10 then Char.ofNat (48 + n) else Char.ofNat (87 + n)

/-- The digits of `n` in lower-case hexadecimal, at least `width` of them. -/
def hex (width n : Nat) : String :=
  let digits := (Nat.toDigits 16 n)
  String.ofList (List.replicate (width - digits.length) '0' ++ digits)

end Teletype.Text.Numeral
