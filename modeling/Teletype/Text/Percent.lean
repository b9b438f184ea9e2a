import Teletype.Text.Hex

/-!
# Percent-encoded bytes

A percent sign and two hexadecimal digits stand for a byte; every other byte stands for itself.
-/

namespace Teletype.Text.Percent

/-- The bytes that `text` stands for, put after those in `done`, the last of which stands first. -/
def decodeAfter (done : List UInt8) (text : List UInt8) : List UInt8 :=
  match text with
  | [] => done.reverse
  | a :: rest =>
    match (if a = 37 then escaped? rest else none) with
    | some b => decodeAfter (b :: done) (rest.drop 2)
    | none => decodeAfter (a :: done) rest
termination_by text.length
decreasing_by all_goals (simp only [List.length_cons, List.length_drop]; omega)
where
  /-- The byte that two digits at the front write. -/
  escaped? : List UInt8 → Option UInt8
    | h :: l :: _ =>
      match Hex.value? h, Hex.value? l with
      | some h, some l => some (h * 16 + l)
      | _, _ => none
    | _ => none

/-- The bytes that a percent-encoded text stands for. -/
def decode (text : List UInt8) : List UInt8 := decodeAfter [] text

end Teletype.Text.Percent
