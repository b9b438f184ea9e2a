/-!
# Base64

The standard alphabet with padding. Reading is strict: the padding must be there, no symbol may
follow it, and the bits that the last symbol carries beyond the last byte must be zero. A fault
names the byte where it was found.
-/

namespace Teletype.Text.Base64

/-- Why a text is no Base64. -/
inductive Fault where
  /-- A byte that may not stand at its offset. -/
  | symbol (offset : Nat) (byte : UInt8)
  /-- Too few symbols for a last byte. -/
  | length (symbols : Nat)
  /-- A last symbol with bits that no byte takes. -/
  | lastSymbol (offset : Nat) (byte : UInt8)
  | padding
  deriving DecidableEq

/-- The wording of a fault. -/
def Fault.message : Fault → String
  | .symbol offset byte => s!"Invalid symbol {byte}, offset {offset}."
  | .length symbols => s!"Invalid input length: {symbols}"
  | .lastSymbol offset byte => s!"Invalid last symbol {byte}, offset {offset}."
  | .padding => "Invalid padding"

/-- The byte that fills up the last group. -/
def pad : UInt8 := 61

/-- The symbol of a number below 64. -/
def symbol (n : Nat) : UInt8 :=
  UInt8.ofNat (if n < 26 then 65 + n else if n < 52 then 71 + n else if n < 62 then n - 4
    else if n = 62 then 43 else 47)

/-- The number of a symbol. -/
def value? (b : UInt8) : Option Nat :=
  if 65 ≤ b && b ≤ 90 then some (b.toNat - 65)
  else if 97 ≤ b && b ≤ 122 then some (b.toNat - 71)
  else if 48 ≤ b && b ≤ 57 then some (b.toNat + 4)
  else if b = 43 then some 62
  else if b = 47 then some 63
  else none

/-- The symbols of the bytes, put after those in `done`, the last of which stands first. -/
def encodeAfter (done : List UInt8) : List UInt8 → List UInt8
  | [] => done.reverse
  | [a] => (pad :: pad :: symbol (a.toNat % 4 * 16) :: symbol (a.toNat / 4) :: done).reverse
  | [a, b] =>
    (pad :: symbol (b.toNat % 16 * 4) :: symbol (a.toNat % 4 * 16 + b.toNat / 16)
      :: symbol (a.toNat / 4) :: done).reverse
  | a :: b :: c :: rest =>
    encodeAfter (symbol (c.toNat % 64) :: symbol (b.toNat % 16 * 4 + c.toNat / 64)
      :: symbol (a.toNat % 4 * 16 + b.toNat / 16) :: symbol (a.toNat / 4) :: done) rest

/-- The Base64 form of the bytes. -/
def encode (bytes : List UInt8) : List UInt8 := encodeAfter [] bytes

/-- The value of the byte at an offset, where only a symbol may stand. -/
def value (offset : Nat) (b : UInt8) : Except Fault Nat :=
  match value? b with
  | some v => .ok v
  | none => .error (.symbol offset b)

/-- The symbols of the last group up to its padding, given the symbols read so far, the last of
them first, and the offset of the first padding byte with the length of the padding. -/
def lastSymbols (offset : Nat) (symbols : List (Nat × UInt8)) (padding : Option (Nat × Nat)) :
    List UInt8 → Except Fault (List (Nat × UInt8) × Nat)
  | [] => .ok (symbols, (padding.map Prod.snd).getD 0)
  | b :: rest =>
    if b = pad then
      match padding with
      | some (first, n) => lastSymbols (offset + 1) symbols (some (first, n + 1)) rest
      | none =>
        if symbols.length < 2 then .error (.symbol offset b)
        else lastSymbols (offset + 1) symbols (some (offset, 1)) rest
    else match padding with
      | some (first, _) => .error (.symbol first pad)
      | none =>
        match value offset b with
        | .error e => .error e
        | .ok v => lastSymbols (offset + 1) ((v, b) :: symbols) none rest

/-- The bytes of the last group, which starts at `offset`. -/
def decodeLast (offset : Nat) (group : List UInt8) : Except Fault (List UInt8) :=
  match lastSymbols offset [] none group with
  | .error e => .error e
  | .ok (symbols, padding) =>
    let n := symbols.length
    if (offset ≠ 0 || !group.isEmpty) && n < 2 then .error (.length (offset + n))
    else if (n + padding) % 4 ≠ 0 then .error .padding
    else match symbols with
      | [(d, _), (c, _), (b, _), (a, _)] =>
        .ok [UInt8.ofNat (a * 4 + b / 16), UInt8.ofNat (b % 16 * 16 + c / 4),
          UInt8.ofNat (c % 4 * 64 + d)]
      | [(c, byte), (b, _), (a, _)] =>
        if c % 4 ≠ 0 then .error (.lastSymbol (offset + 2) byte)
        else .ok [UInt8.ofNat (a * 4 + b / 16), UInt8.ofNat (b % 16 * 16 + c / 4)]
      | [(b, byte), (a, _)] =>
        if b % 16 ≠ 0 then .error (.lastSymbol (offset + 1) byte)
        else .ok [UInt8.ofNat (a * 4 + b / 16)]
      | _ => .ok []

/-- The bytes of all groups, put after those in `done`, the last of which stands first. -/
def decodeAfter (offset : Nat) (done : List UInt8) : List UInt8 → Except Fault (List UInt8)
  | a :: b :: c :: d :: e :: rest =>
    match value offset a, value (offset + 1) b, value (offset + 2) c, value (offset + 3) d with
    | .ok va, .ok vb, .ok vc, .ok vd =>
      decodeAfter (offset + 4)
        (UInt8.ofNat (vc % 4 * 64 + vd) :: UInt8.ofNat (vb % 16 * 16 + vc / 4)
          :: UInt8.ofNat (va * 4 + vb / 16) :: done) (e :: rest)
    | .error fault, _, _, _ | _, .error fault, _, _ | _, _, .error fault, _
    | _, _, _, .error fault => .error fault
  | group =>
    match decodeLast offset group with
    | .ok bytes => .ok (done.reverse ++ bytes)
    | .error fault => .error fault

/-- The bytes that a Base64 text stands for. A text with one symbol too many is faulted for that
symbol if it is none. -/
def decode (text : List UInt8) : Except Fault (List UInt8) :=
  match text.getLast? with
  | some b =>
    if text.length % 4 = 1 && b ≠ pad && (value? b).isNone then
      .error (.symbol (text.length - 1) b)
    else decodeAfter 0 [] text
  | none => decodeAfter 0 [] text

end Teletype.Text.Base64
