import Teletype.Control.Params

/-!
# Actions

What the bytes of an application ask of the terminal, one item at a time: characters to print,
control characters to execute, and sequences and strings with what they carry.
-/

namespace Teletype.Control

/-- An escape sequence: its intermediate bytes and its last byte. -/
structure EscapeSequence where
  intermediates : List UInt8
  final : UInt8
  deriving DecidableEq

/-- A control sequence. -/
structure ControlSequence where
  params : Params
  intermediates : List UInt8
  /-- The private marker right after the introducer. -/
  marker : Option UInt8
  final : UInt8
  deriving DecidableEq

/-- A request in a device control string. -/
inductive DeviceRequest where
  /-- A request for the sequence that would restore a setting. -/
  | setting (name : List UInt8)
  /-- A request for terminal capabilities by hexadecimal names. -/
  | capabilities (names : List UInt8)
  | beginSync
  | endSync
  deriving DecidableEq

/-- One item of the stream. -/
inductive Action where
  | print (c : Char)
  /-- A control character. -/
  | execute (byte : UInt8)
  | escape (sequence : EscapeSequence)
  | control (sequence : ControlSequence)
  /-- An operating system command, and whether BEL ended it. -/
  | command (data : List UInt8) (bell : Bool)
  /-- The start of a Sixel image with its three parameters. -/
  | imageStart (p1 p2 p3 : Nat)
  | imageData (byte : UInt8)
  | imageEnd
  | request (r : DeviceRequest)
  deriving DecidableEq

/-- Bytes of the ASCII range and beyond as characters, one for one. -/
def charsOf (bytes : List UInt8) : List Char := bytes.map fun b => Char.ofNat b.toNat

/-- How reports write an escape sequence. -/
def EscapeSequence.text (s : EscapeSequence) : String :=
  "ESC " ++ String.ofList (charsOf (s.intermediates ++ [s.final]))

/-- How reports write a parameter: the value and, after colons, its sub-parameters. -/
def Param.text (p : Param) : String :=
  ":".intercalate ((p.value :: p.subs).map toString)

/-- How reports write a control sequence. -/
def ControlSequence.text (s : ControlSequence) : String :=
  "CSI " ++ String.ofList (charsOf s.marker.toList)
    ++ ";".intercalate (s.params.items.map Param.text)
    ++ String.ofList (charsOf (s.intermediates ++ [s.final]))

end Teletype.Control
