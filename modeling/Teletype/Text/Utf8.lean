/-!
# UTF-8

Bytes and text. Strict reading accepts well-formed bytes only; lenient reading puts U+FFFD for
every longest beginning of a character that the bytes break off.
-/

namespace Teletype.Text.Utf8

/-- The UTF-8 bytes of a text. -/
def encode (text : String) : List UInt8 := text.toUTF8.data.toList

/-- The text whose UTF-8 form the bytes are, if they are well-formed. -/
def decode? (bytes : List UInt8) : Option String := String.fromUTF8? ⟨bytes.toArray⟩

/-- The bytes that continue a character. -/
def isContinuation (b : UInt8) : Bool := 0x80 ≤ b && b ≤ 0xbf

/-- What the first byte of a longer character demands of the bytes after it. -/
structure Lead where
  /-- How many bytes follow. -/
  more : Nat
  /-- The least value of the byte right after the first. -/
  low : UInt8
  /-- The greatest value of that byte. -/
  high : UInt8

/-- The demands of a first byte. The bounds on the second byte keep out overlong forms, surrogates
and values above U+10FFFF. -/
def Lead.of? (b : UInt8) : Option Lead :=
  if b < 0xc2 then none
  else if b < 0xe0 then some ⟨1, 0x80, 0xbf⟩
  else if b = 0xe0 then some ⟨2, 0xa0, 0xbf⟩
  else if b = 0xed then some ⟨2, 0x80, 0x9f⟩
  else if b < 0xf0 then some ⟨2, 0x80, 0xbf⟩
  else if b = 0xf0 then some ⟨3, 0x90, 0xbf⟩
  else if b < 0xf4 then some ⟨3, 0x80, 0xbf⟩
  else if b = 0xf4 then some ⟨3, 0x80, 0x8f⟩
  else none

/-- The longest beginning of `bytes` that can continue the character. -/
def Lead.continuation (lead : Lead) : List UInt8 → List UInt8
  | [] => []
  | b :: rest =>
    if lead.low ≤ b && b ≤ lead.high then b :: (rest.take (lead.more - 1)).takeWhile isContinuation
    else []

/-- The character that a first byte and its continuation stand for. -/
def assemble (first : UInt8) (more : List UInt8) : Char :=
  let high := match more.length with
    | 0 => first.toNat
    | 1 => first.toNat % 32
    | 2 => first.toNat % 16
    | _ => first.toNat % 8
  Char.ofNat (more.foldl (fun value b => value * 64 + b.toNat % 64) high)

/-- The character at the front of nonempty bytes, if a whole one stands there, and how many of the
bytes after the first it or its broken beginning takes. -/
def first (b : UInt8) (rest : List UInt8) : Option Char × Nat :=
  if b < 0x80 then (some (Char.ofNat b.toNat), 0)
  else match Lead.of? b with
    | none => (none, 0)
    | some lead =>
      let more := lead.continuation rest
      if more.length = lead.more then (some (assemble b more), more.length)
      else (none, more.length)

/-- Reads `bytes` to their end and adds their characters, or U+FFFD, to `text`. -/
def lenient (text : String) (bytes : List UInt8) : String :=
  match bytes with
  | [] => text
  | b :: rest =>
    let (c, used) := first b rest
    lenient (text.push (c.getD '\uFFFD')) (rest.drop used)
termination_by bytes.length
decreasing_by simp only [List.length_drop, List.length_cons]; omega

/-- The text of bytes that need not be well-formed. -/
def decodeLenient (bytes : List UInt8) : String := lenient "" bytes

/-- The one character that a whole sequence of bytes stands for. -/
def single? : List UInt8 → Option Char
  | [] => none
  | b :: rest =>
    match first b rest with
    | (some c, used) => if used = rest.length then some c else none
    | (none, _) => none

end Teletype.Text.Utf8
