import Teletype.ServiceError
import Teletype.Text.Utf8

/-!
# Request frames

The bytes of a request: the length of what follows in four bytes, then flags in one byte, the
length of the directory, the numbers of overrides and of arguments in two bytes each, the
directory, and every override and argument after its length in two bytes. The low byte of a number
comes first. A text ends in a zero byte, which counts in its length.
-/

namespace Teletype.Request

open Teletype.Text

/-- Most bytes of a request after its length. -/
def maxLength : Nat := 0x100000

/-- A number in `width` bytes, the lowest first. -/
def putNumber : Nat → Nat → List UInt8
  | 0, _ => []
  | width + 1, n => UInt8.ofNat n :: putNumber width (n / 256)

/-- The number that bytes stand for, the lowest first. -/
def number (bytes : List UInt8) : Nat := bytes.foldr (fun b n => n * 256 + b.toNat) 0

/-- A count or a length in two bytes. -/
def putCount (n : Nat) : Except FrameFault (List UInt8) :=
  if n < 0x10000 then .ok (putNumber 2 n) else .error .tooLarge

/-- The bytes of a text with the zero byte at its end. -/
def terminated (text : String) : List UInt8 := Utf8.encode text ++ [0]

/-- A text after its length. -/
def putText (text : String) : Except FrameFault (List UInt8) := do
  let bytes := terminated text
  return (← putCount bytes.length) ++ bytes

/-- The byte of the flags. -/
def flags (r : Request) : UInt8 := (if r.hold then 1 else 0) + (if r.noWait then 2 else 0)

/-- The bytes of a request after its length. -/
def body (r : Request) : Except FrameFault (List UInt8) := do
  let directory := terminated r.directory
  let counts ← [directory.length, r.overrides.length, r.command.length].mapM putCount
  let texts ← (r.overrides ++ r.command).mapM putText
  return r.flags :: counts.flatten ++ directory ++ texts.flatten

/-- The bytes of a request. -/
def encode (r : Request) : Except FrameFault (List UInt8) := do
  let bytes ← r.body
  if bytes.length ≤ maxLength then return putNumber 4 bytes.length ++ bytes
  else throw .tooLarge

/-- A place in the bytes of a request. -/
structure Cursor where
  /-- How many bytes stand before the place. -/
  position : Nat
  rest : List UInt8

namespace Cursor

/-- The next `n` of `total` bytes. -/
def take (total n : Nat) (c : Cursor) : Except FrameFault (List UInt8 × Cursor) :=
  let part := c.rest.take n
  if part.length = n then .ok (part, ⟨c.position + n, c.rest.drop n⟩)
  else .error (.lengthMismatch (c.position + n) total)

/-- The text in the next `n` bytes. -/
def text (total n : Nat) (c : Cursor) : Except FrameFault (String × Cursor) := do
  let (bytes, next) ← c.take total n
  match bytes.reverse with
  | 0 :: reversed =>
    match Utf8.decode? reversed.reverse with
    | some text => return (text, next)
    | none => throw .invalidUtf8
  | _ => throw .missingNul

/-- The next text after its length. -/
def measuredText (total : Nat) (c : Cursor) : Except FrameFault (String × Cursor) := do
  let (length, next) ← c.take total 2
  next.text total (number length)

/-- The next `count` texts. -/
def texts (total : Nat) : Nat → Cursor → Except FrameFault (List String × Cursor)
  | 0, c => return ([], c)
  | count + 1, c => do
    let (text, next) ← c.measuredText total
    let (more, last) ← texts total count next
    return (text :: more, last)

end Cursor

/-- Reads a request from the bytes after its length, all of which have to belong to it. -/
def decode (bytes : List UInt8) : Except FrameFault Request :=
  match bytes with
  | flags :: d0 :: d1 :: o0 :: o1 :: c0 :: c1 :: rest => do
    let total := bytes.length
    let (directory, c) ← Cursor.text total (number [d0, d1]) ⟨7, rest⟩
    let (overrides, c) ← c.texts total (number [o0, o1])
    let (command, c) ← c.texts total (number [c0, c1])
    if c.position = total then
      return {
        hold := flags.toNat.testBit 0
        noWait := flags.toNat.testBit 1
        directory, overrides, command }
    else throw (.lengthMismatch c.position total)
  | _ => .error .tooShort

/-- Reads a request from the front of a stream. The answer holds what is left of the stream; a
stream that ends inside a request is used up, and a request that is too large is left unread. -/
def read (stream : List UInt8) : Except ServiceError Request × List UInt8 :=
  let header := stream.take 4
  let rest := stream.drop 4
  let length := number header
  if header.length < 4 then (.error (.io .endOfInput), [])
  else if maxLength < length then (.error (.frame .tooLarge), rest)
  else
    let bytes := rest.take length
    if bytes.length < length then (.error (.io .endOfInput), [])
    else ((decode bytes).mapError .frame, rest.drop length)

/-- Whatever was read, no more is left than there was. -/
theorem length_read_le (stream : List UInt8) : (read stream).2.length ≤ stream.length - 4 := by
  simp only [read]
  split
  · simp
  · split
    · simp
    · split
      · simp
      · simp only [List.length_drop]
        omega

/-- Reads requests until the stream is used up or something else than a request stands there. The
answer holds what is left of the stream. -/
def readAll (stream : List UInt8) : List (Except ServiceError Request) × List UInt8 :=
  match _read : read stream with
  | (.ok r, []) => ([.ok r], [])
  | (.ok r, b :: rest) =>
    let more := readAll (b :: rest)
    (.ok r :: more.1, more.2)
  | (.error e, rest) => ([.error e], rest)
termination_by stream.length
decreasing_by
  have le := length_read_le stream
  rw [_read] at le
  simp only [List.length_cons] at le ⊢
  omega

end Teletype.Request
