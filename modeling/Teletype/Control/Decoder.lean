import Teletype.Control.Action
import Teletype.Report
import Teletype.Text.Quoted
import Teletype.Text.Utf8

/-!
# The control stream

A machine that reads the output of an application byte by byte and says what each byte completes.
It follows the state diagram of the VT500 series, with UTF-8 in the ground state. Malformed input
is no error: the machine skips to the end of the sequence and goes on. What a state has collected
so far is part of the state, so nothing of a finished or broken sequence outlives it.
-/

namespace Teletype.Control

/-- Bytes collected from a string, and how many they are. -/
structure Buffer where
  /-- The bytes, the last one first. -/
  reversed : List UInt8 := []
  size : Nat := 0
  size_eq : size = reversed.length := by rfl

namespace Buffer

/-- Adds a byte at the end. -/
def push (b : Buffer) (byte : UInt8) : Buffer where
  reversed := byte :: b.reversed
  size := b.size + 1
  size_eq := by simp [b.size_eq]

/-- The bytes in the order in which they came. -/
def toList (b : Buffer) : List UInt8 := b.reversed.reverse

@[simp] theorem toList_push (b : Buffer) (byte : UInt8) :
    (b.push byte).toList = b.toList ++ [byte] := by simp [toList, push]

@[simp] theorem length_toList (b : Buffer) : b.toList.length = b.size := by
  simp [toList, b.size_eq]

end Buffer

/-- What is collected of a control sequence or of the start of a device control string. -/
structure Header where
  params : Params.Builder := {}
  marker : Option UInt8 := none
  intermediates : List UInt8 := []

/-- What becomes of the bytes of a device control string. -/
inductive Handler where
  | discard
  | setting (name : Buffer)
  /-- Capability names, and whether there was a byte too many. -/
  | capabilities (names : Buffer) (excess : Bool)
  | beginSync
  | endSync
  | image

/-- The states of the machine. -/
inductive State where
  | ground
  /-- After ESC, and whether that ESC ended a string. -/
  | escape (closing : Bool)
  /-- Intermediate bytes of an escape sequence, and whether there was one too many. -/
  | escapeIntermediate (intermediates : List UInt8) (excess : Bool)
  | csiEntry
  | csiParam (header : Header)
  | csiIntermediate (header : Header)
  | csiIgnore
  | dcsEntry
  | dcsParam (header : Header)
  | dcsIntermediate (header : Header)
  | dcsPassthrough (handler : Handler)
  | dcsIgnore
  /-- The bytes of an operating system command, and whether there was one too many. -/
  | oscString (data : Buffer) (excess : Bool)
  /-- A string that nothing reads. -/
  | sosPmApcString
  /-- The bytes of a character so far, and how many are missing. -/
  | utf8Collect (bytes : List UInt8) (missing : Nat)

/-- Things worth a report. -/
inductive DecoderNotice where
  | excessParams
  | excessSubs
  | excessIntermediates
  | longCommand
  | longRequest
  /-- A device control string of an unknown kind: its marker or first intermediate byte, and the
  byte that ends its start. -/
  | unknownString (marker : Option UInt8) (final : UInt8)
  deriving DecidableEq

/-- Most intermediate bytes. -/
def maxIntermediates : Nat := 2

/-- Most bytes of an operating system command. -/
def maxCommand : Nat := 1024 * 1024

/-- Most bytes of a request for capabilities. -/
def maxCapabilities : Nat := 4096

/-- Most bytes kept of a request for a setting; no valid one is that long. -/
def maxSetting : Nat := 3

/-- The report on a notice. -/
def DecoderNotice.report : DecoderNotice → Report
  | .excessParams => ⟨.warning, "too many parameters, ignoring the excess", []⟩
  | .excessSubs => ⟨.warning, "too many sub-parameters, ignoring the excess", []⟩
  | .excessIntermediates => ⟨.warning, "too many intermediates, ignoring sequence", []⟩
  | .longCommand => ⟨.warning, "OSC too long, ignoring", [("limit", toString maxCommand)]⟩
  | .longRequest =>
    ⟨.warning, "DCS buffer full, ignoring request", [("limit", toString maxCapabilities)]⟩
  | .unknownString marker final =>
    ⟨.debug, "unhandled DCS",
      [("marker", Text.Quoted.option
          (marker.map fun b => Text.Quoted.char (Char.ofNat b.toNat))),
        ("final_byte", (Char.ofNat final.toNat).toString)]⟩

/-- Whether the notice is reported only the first time. -/
def DecoderNotice.isOnce : DecoderNotice → Bool
  | .unknownString .. => false
  | _ => true

/-- What one byte brings about. -/
structure Next where
  state : State
  actions : List Action := []
  notice : Option DecoderNotice := none

/-- CAN and SUB, which break off any sequence and are executed. -/
def isCancel (b : UInt8) : Bool := b = 0x18 || b = 0x1a

/-- The C1 controls as single bytes. -/
def isC1 (b : UInt8) : Bool := 0x80 ≤ b && b ≤ 0x9f

/-- Intermediate bytes. -/
def isIntermediate (b : UInt8) : Bool := 0x20 ≤ b && b ≤ 0x2f

/-- Digits, colon and semicolon. -/
def isParam (b : UInt8) : Bool := 0x30 ≤ b && b ≤ 0x3b

/-- Private markers. -/
def isMarker (b : UInt8) : Bool := 0x3c ≤ b && b ≤ 0x3f

/-- The bytes that end a control sequence. -/
def isFinal (b : UInt8) : Bool := 0x40 ≤ b && b ≤ 0x7e

/-- The ground state: text, control characters and the start of everything else. A byte that can
neither stand alone nor start a character is skipped. -/
def ground (b : UInt8) : Next :=
  if b = 0x1b then { state := .escape false }
  else if b < 0x20 then { state := .ground, actions := [.execute b] }
  else if b < 0x7f then { state := .ground, actions := [.print (Char.ofNat b.toNat)] }
  else if 0xc2 ≤ b && b ≤ 0xdf then { state := .utf8Collect [b] 1 }
  else if 0xe0 ≤ b && b ≤ 0xef then { state := .utf8Collect [b] 2 }
  else if 0xf0 ≤ b && b ≤ 0xf4 then { state := .utf8Collect [b] 3 }
  else { state := .ground }

/-- A character of several bytes. A byte that does not continue it is read anew in the ground
state, and a sequence that is not well-formed is skipped. -/
def collectUtf8 (bytes : List UInt8) (missing : Nat) (b : UInt8) : Next :=
  if Text.Utf8.isContinuation b then
    if missing ≤ 1 then
      { state := .ground
        actions := ((Text.Utf8.single? (bytes ++ [b])).map Action.print).toList }
    else { state := .utf8Collect (bytes ++ [b]) (missing - 1) }
  else ground b

/-- The header with one more intermediate byte, or the ignoring state if it has two already. -/
def collect (header : Header) (b : UInt8) (next : Header → State) (ignore : State) : Next :=
  if header.intermediates.length < maxIntermediates then
    { state := next { header with intermediates := header.intermediates ++ [b] } }
  else { state := ignore, notice := some .excessIntermediates }

/-- The header with one more byte of its parameters. -/
def param (header : Header) (b : UInt8) (next : Header → State) : Next :=
  let (params, excess) := header.params.push b
  { state := next { header with params := params }
    notice := excess.map fun
      | .params => .excessParams
      | .subs => .excessSubs }

/-- The end of an escape sequence, which is dropped if it had an intermediate byte too many. -/
def dispatchEscape (intermediates : List UInt8) (excess : Bool) (b : UInt8) : Next :=
  { state := .ground
    actions := if excess then [] else [.escape ⟨intermediates, b⟩] }

/-- After ESC. A backslash completes the terminator of a string. -/
def escape (closing : Bool) (b : UInt8) : Next :=
  if closing && b = 0x5c then { state := .ground }
  else if b < 0x20 then { state := .escape false, actions := [.execute b] }
  else if isIntermediate b then { state := .escapeIntermediate [b] false }
  else if b = 0x50 then { state := .dcsEntry }
  else if b = 0x58 || b = 0x5e || b = 0x5f then { state := .sosPmApcString }
  else if b = 0x5b then { state := .csiEntry }
  else if b = 0x5d then { state := .oscString {} false }
  else if b < 0x7f then dispatchEscape [] false b
  else { state := .escape false }

/-- Intermediate bytes of an escape sequence. -/
def escapeIntermediate (intermediates : List UInt8) (excess : Bool) (b : UInt8) : Next :=
  let here := State.escapeIntermediate intermediates excess
  if b < 0x20 then { state := here, actions := [.execute b] }
  else if isIntermediate b then
    if intermediates.length < maxIntermediates then
      { state := .escapeIntermediate (intermediates ++ [b]) excess }
    else
      { state := .escapeIntermediate intermediates true, notice := some .excessIntermediates }
  else if b < 0x7f then dispatchEscape intermediates excess b
  else { state := here }

/-- The end of a control sequence. -/
def dispatchControl (header : Header) (b : UInt8) : Next :=
  { state := .ground
    actions := [.control
      { params := header.params.finish
        intermediates := header.intermediates
        marker := header.marker
        final := b }] }

/-- Right after the introducer of a control sequence. -/
def csiEntry (b : UInt8) : Next :=
  if b < 0x20 then { state := .csiEntry, actions := [.execute b] }
  else if isIntermediate b then collect {} b .csiIntermediate .csiIgnore
  else if isParam b then param {} b .csiParam
  else if isMarker b then { state := .csiParam { marker := some b } }
  else if isFinal b then dispatchControl {} b
  else { state := .csiEntry }

/-- The parameters of a control sequence. -/
def csiParam (header : Header) (b : UInt8) : Next :=
  if b < 0x20 then { state := .csiParam header, actions := [.execute b] }
  else if isParam b then param header b .csiParam
  else if isMarker b then { state := .csiIgnore }
  else if isIntermediate b then collect header b .csiIntermediate .csiIgnore
  else if isFinal b then dispatchControl header b
  else { state := .csiParam header }

/-- The intermediate bytes of a control sequence. -/
def csiIntermediate (header : Header) (b : UInt8) : Next :=
  if b < 0x20 then { state := .csiIntermediate header, actions := [.execute b] }
  else if isIntermediate b then collect header b .csiIntermediate .csiIgnore
  else if isParam b || isMarker b then { state := .csiIgnore }
  else if isFinal b then dispatchControl header b
  else { state := .csiIntermediate header }

/-- A malformed control sequence, up to its last byte. -/
def csiIgnore (b : UInt8) : Next :=
  if b < 0x20 then { state := .csiIgnore, actions := [.execute b] }
  else if isFinal b then { state := .ground }
  else { state := .csiIgnore }

/-- The end of the start of a device control string chooses what becomes of its bytes. -/
def hook (sixel : Bool) (header : Header) (b : UInt8) : Next :=
  let params := header.params.finish
  let marker := header.marker.or header.intermediates.head?
  if marker = none && b = 0x71 && sixel then
    { state := .dcsPassthrough .image
      actions := [.imageStart (params.raw 0) (params.raw 1) (params.raw 2)] }
  else if marker = some 0x24 && b = 0x71 then { state := .dcsPassthrough (.setting {}) }
  else if marker = some 0x2b && b = 0x71 then
    { state := .dcsPassthrough (.capabilities {} false) }
  else if marker = some 0x3d && b = 0x73 then
    { state := .dcsPassthrough
        (if params.raw 0 = 1 then .beginSync
        else if params.raw 0 = 2 then .endSync
        else .discard) }
  else { state := .dcsPassthrough .discard, notice := some (.unknownString marker b) }

/-- Right after the introducer of a device control string. -/
def dcsEntry (sixel : Bool) (b : UInt8) : Next :=
  if isIntermediate b then collect {} b .dcsIntermediate .dcsIgnore
  else if b = 0x3a then { state := .dcsIgnore }
  else if isParam b then param {} b .dcsParam
  else if isMarker b then { state := .dcsParam { marker := some b } }
  else if isFinal b then hook sixel {} b
  else { state := .dcsEntry }

/-- The parameters of a device control string, which have no sub-parameters. -/
def dcsParam (sixel : Bool) (header : Header) (b : UInt8) : Next :=
  if b = 0x3a || isMarker b then { state := .dcsIgnore }
  else if isParam b then param header b .dcsParam
  else if isIntermediate b then collect header b .dcsIntermediate .dcsIgnore
  else if isFinal b then hook sixel header b
  else { state := .dcsParam header }

/-- The intermediate bytes of a device control string. -/
def dcsIntermediate (sixel : Bool) (header : Header) (b : UInt8) : Next :=
  if isIntermediate b then collect header b .dcsIntermediate .dcsIgnore
  else if isParam b || isMarker b then { state := .dcsIgnore }
  else if isFinal b then hook sixel header b
  else { state := .dcsIntermediate header }

/-- What the end of a device control string completes. -/
def Handler.finish : Handler → List Action
  | .discard => []
  | .setting name => [.request (.setting name.toList)]
  | .capabilities names excess => if excess then [] else [.request (.capabilities names.toList)]
  | .beginSync => [.request .beginSync]
  | .endSync => [.request .endSync]
  | .image => [.imageEnd]

/-- A byte of a device control string. -/
def Handler.put (handler : Handler) (b : UInt8) : Next :=
  let here := State.dcsPassthrough handler
  match handler with
  | .discard | .beginSync | .endSync => { state := here }
  | .image => { state := here, actions := [.imageData b] }
  | .setting name =>
    if name.size < maxSetting then { state := .dcsPassthrough (.setting (name.push b)) }
    else { state := here }
  | .capabilities names excess =>
    if excess then { state := here }
    else if names.size < maxCapabilities then
      { state := .dcsPassthrough (.capabilities (names.push b) false) }
    else { state := .dcsPassthrough (.capabilities names true), notice := some .longRequest }

/-- The bytes of a device control string and its end. -/
def dcsPassthrough (handler : Handler) (b : UInt8) : Next :=
  if isCancel b then { state := .ground, actions := handler.finish ++ [.execute b] }
  else if b = 0x1b then { state := .escape true, actions := handler.finish }
  else if b < 0x7f then handler.put b
  else if isC1 b then { state := .ground, actions := handler.finish }
  else { state := .dcsPassthrough handler }

/-- What the end of an operating system command completes: nothing if it was too long. -/
def finishCommand (data : Buffer) (excess bell : Bool) : List Action :=
  if excess then [] else [.command data.toList bell]

/-- The bytes of an operating system command and its end. -/
def oscString (data : Buffer) (excess : Bool) (b : UInt8) : Next :=
  if b = 0x07 then { state := .ground, actions := finishCommand data excess true }
  else if isCancel b then
    { state := .ground, actions := finishCommand data excess false ++ [.execute b] }
  else if b = 0x1b then { state := .escape true, actions := finishCommand data excess false }
  else if b < 0x20 then { state := .oscString data excess }
  else if data.size < maxCommand then { state := .oscString (data.push b) excess }
  else { state := .oscString data true, notice := some .longCommand }

/-- A string that nothing reads, up to its end. -/
def sosPmApcString (b : UInt8) : Next :=
  if isCancel b then { state := .ground, actions := [.execute b] }
  else if b = 0x1b then { state := .escape true }
  else { state := .sosPmApcString }

/-- The bytes that act alike within every sequence: CAN, SUB and the C1 controls break it off, and
ESC starts the next one. `rest` says what any other byte does. -/
def anywhere (closing : Bool) (b : UInt8) (rest : Next) : Next :=
  if isCancel b then { state := .ground, actions := [.execute b] }
  else if b = 0x1b then { state := .escape closing }
  else if isC1 b then { state := .ground }
  else rest

/-- One step of the machine. -/
def transition (sixel : Bool) (b : UInt8) : State → Next
  | .ground => ground b
  | .utf8Collect bytes missing => collectUtf8 bytes missing b
  | .oscString data excess => oscString data excess b
  | .sosPmApcString => sosPmApcString b
  | .dcsPassthrough handler => dcsPassthrough handler b
  | .escape closing => anywhere false b (escape closing b)
  | .escapeIntermediate intermediates excess =>
    anywhere false b (escapeIntermediate intermediates excess b)
  | .csiEntry => anywhere false b (csiEntry b)
  | .csiParam header => anywhere false b (csiParam header b)
  | .csiIntermediate header => anywhere false b (csiIntermediate header b)
  | .csiIgnore => anywhere false b (csiIgnore b)
  | .dcsEntry => anywhere true b (dcsEntry sixel b)
  | .dcsParam header => anywhere true b (dcsParam sixel header b)
  | .dcsIntermediate header => anywhere true b (dcsIntermediate sixel header b)
  | .dcsIgnore => anywhere true b { state := .dcsIgnore }

/-- How many bytes of a device control request the state holds. -/
def State.requestSize : State → Nat
  | .dcsPassthrough (.setting name) => name.size
  | .dcsPassthrough (.capabilities names _) => names.size
  | _ => 0

/-- The name of the state in the diagram. -/
def State.name : State → String
  | .ground => "Ground"
  | .escape _ => "Escape"
  | .escapeIntermediate .. => "EscapeIntermediate"
  | .csiEntry => "CsiEntry"
  | .csiParam _ => "CsiParam"
  | .csiIntermediate _ => "CsiIntermediate"
  | .csiIgnore => "CsiIgnore"
  | .dcsEntry => "DcsEntry"
  | .dcsParam _ => "DcsParam"
  | .dcsIntermediate _ => "DcsIntermediate"
  | .dcsPassthrough _ => "DcsPassthrough"
  | .dcsIgnore => "DcsIgnore"
  | .oscString .. => "OscString"
  | .sosPmApcString => "SosPmApcString"
  | .utf8Collect .. => "Utf8Collect"

/-- The machine with its setting and what it has to report. -/
structure Decoder where
  state : State := .ground
  /-- Sixel images are accepted. -/
  sixel : Bool := true
  /-- The notices that were reported and are reported once only. -/
  warned : List DecoderNotice := []
  /-- The reports since they were last taken, the last one first. -/
  reports : List Report := []

namespace Decoder

/-- Returns to the ground state and drops what was collected. -/
def reset (d : Decoder) : Decoder := { sixel := d.sixel, reports := d.reports }

/-- Adds the report on a notice unless it was made before and is made once only. -/
def note (d : Decoder) : Option DecoderNotice → Decoder
  | none => d
  | some notice =>
    if notice.isOnce then
      if d.warned.contains notice then d
      else { d with warned := notice :: d.warned, reports := notice.report :: d.reports }
    else { d with reports := notice.report :: d.reports }

/-- Reads one byte. -/
def step (d : Decoder) (b : UInt8) : Decoder × List Action :=
  let next := transition d.sixel b d.state
  ({ d with state := next.state }.note next.notice, next.actions)

/-- Reads one byte and adds what it completes to `actions`. -/
def advance (run : Decoder × Array Action) (b : UInt8) : Decoder × Array Action :=
  let (d, actions) := run
  let (d, more) := d.step b
  (d, actions ++ more)

/-- Reads the bytes and gives what they complete, in order. -/
def feed (d : Decoder) (bytes : List UInt8) : Decoder × Array Action :=
  bytes.foldl advance (d, #[])

/-- The reports since they were last taken. -/
def takeReports (d : Decoder) : Decoder × List Report :=
  ({ d with reports := [] }, d.reports.reverse)

end Decoder

end Teletype.Control
