import Teletype.Proofs.Control.Feed

/-!
# Nothing of a sequence is left over

The decoder keeps what it has collected in its state, so a sequence that is over leaves nothing
behind. A decoder can also keep it in registers that are there all the time, and clear or overwrite
each of them only when it is needed again. Then most registers hold something of an earlier
sequence, finished or broken off. Such a decoder completes the same actions: in every state it reads
only those registers that were written since, and in the ground state it reads none.
-/

namespace Teletype.Control

/-- Where in the state diagram a decoder is, whatever it holds. -/
inductive Place where
  | ground | escape | escapeIntermediate | csiEntry | csiParam | csiIntermediate | csiIgnore
  | dcsEntry | dcsParam | dcsIntermediate | dcsPassthrough | dcsIgnore | oscString | sosPmApcString
  | utf8Collect
  deriving DecidableEq

/-- Who reads the bytes of a device control string. -/
inductive Reader where
  | discard | setting | capabilities | beginSync | endSync | image
  deriving DecidableEq

/-- The registers of a decoder. -/
structure Registers where
  place : Place := .ground
  params : Params.Builder := {}
  intermediates : List UInt8 := []
  marker : Option UInt8 := none
  /-- There was an intermediate byte too many. -/
  excessIntermediates : Bool := false
  /-- The bytes of an operating system command. -/
  command : List UInt8 := []
  longCommand : Bool := false
  /-- The bytes of a device control request. -/
  request : List UInt8 := []
  reader : Reader := .discard
  longRequest : Bool := false
  /-- The bytes of a character, and how many are missing. -/
  character : List UInt8 := []
  missing : Nat := 0
  sixel : Bool := true
  /-- The last ESC ended a string. -/
  closing : Bool := false

namespace Registers

variable (r : Registers) (b : UInt8)

/-- Clears what a sequence collects before its last byte. -/
def clear : Registers :=
  { r with params := {}, intermediates := [], marker := none, excessIntermediates := false }

/-- Starts an escape sequence. -/
def enterEscape (closing : Bool) : Registers := { r.clear with closing, place := .escape }

/-- Starts a character of several bytes. -/
def startCharacter (missing : Nat) : Registers :=
  { r with character := [b], missing, place := .utf8Collect }

def ground : Registers × List Action :=
  if b = 0x1b then (r.enterEscape false, [])
  else if b < 0x20 then (r, [.execute b])
  else if b < 0x7f then (r, [.print (Char.ofNat b.toNat)])
  else if 0xc2 ≤ b && b ≤ 0xdf then (r.startCharacter b 1, [])
  else if 0xe0 ≤ b && b ≤ 0xef then (r.startCharacter b 2, [])
  else if 0xf0 ≤ b && b ≤ 0xf4 then (r.startCharacter b 3, [])
  else (r, [])

/-- A character that is broken off leaves the count of the bytes it lacks. -/
def collectUtf8 : Registers × List Action :=
  let dropped := { r with place := .ground, character := [] }
  if Text.Utf8.isContinuation b then
    if r.missing ≤ 1 then
      ({ dropped with missing := r.missing - 1 },
        ((Text.Utf8.single? (r.character ++ [b])).map Action.print).toList)
    else ({ r with character := r.character ++ [b], missing := r.missing - 1 }, [])
  else dropped.ground b

/-- Keeps an intermediate byte and goes to `next`, or to `ignore` if there are two already. -/
def collect (next ignore : Place) : Registers :=
  if r.intermediates.length < maxIntermediates then
    { r with intermediates := r.intermediates ++ [b], place := next }
  else { r with excessIntermediates := true, place := ignore }

/-- Reads a byte of the parameters. -/
def param (next : Place) : Registers := { r with params := (r.params.push b).1, place := next }

/-- Ends the parameters, which stay. -/
def finishParams : Registers :=
  { r with params := if r.params.items.isEmpty then r.params else r.params.commit }

def dispatchEscape : Registers × List Action :=
  ({ r with place := .ground },
    if r.excessIntermediates then [] else [.escape ⟨r.intermediates, b⟩])

def escape : Registers × List Action :=
  let once := { r with closing := false }
  if r.closing && b = 0x5c then ({ once with place := .ground }, [])
  else if b < 0x20 then (once, [.execute b])
  else if isIntermediate b then (once.collect b .escapeIntermediate .escapeIntermediate, [])
  else if b = 0x50 then ({ once.clear with place := .dcsEntry }, [])
  else if b = 0x58 || b = 0x5e || b = 0x5f then ({ once with place := .sosPmApcString }, [])
  else if b = 0x5b then ({ once.clear with place := .csiEntry }, [])
  else if b = 0x5d then ({ once with command := [], longCommand := false, place := .oscString }, [])
  else if b < 0x7f then once.dispatchEscape b
  else (once, [])

def escapeIntermediate : Registers × List Action :=
  if b < 0x20 then (r, [.execute b])
  else if isIntermediate b then (r.collect b .escapeIntermediate .escapeIntermediate, [])
  else if b < 0x7f then r.dispatchEscape b
  else (r, [])

def dispatchControl : Registers × List Action :=
  ({ r.finishParams with place := .ground },
    [.control
      { params := r.params.finish
        intermediates := r.intermediates
        marker := r.marker
        final := b }])

def csiEntry : Registers × List Action :=
  if b < 0x20 then (r, [.execute b])
  else if isIntermediate b then (r.collect b .csiIntermediate .csiIgnore, [])
  else if isParam b then (r.param b .csiParam, [])
  else if isMarker b then ({ r with marker := some b, place := .csiParam }, [])
  else if isFinal b then r.dispatchControl b
  else (r, [])

def csiParam : Registers × List Action :=
  if b < 0x20 then (r, [.execute b])
  else if isParam b then (r.param b .csiParam, [])
  else if isMarker b then ({ r with place := .csiIgnore }, [])
  else if isIntermediate b then (r.collect b .csiIntermediate .csiIgnore, [])
  else if isFinal b then r.dispatchControl b
  else (r, [])

def csiIntermediate : Registers × List Action :=
  if b < 0x20 then (r, [.execute b])
  else if isIntermediate b then (r.collect b .csiIntermediate .csiIgnore, [])
  else if isParam b || isMarker b then ({ r with place := .csiIgnore }, [])
  else if isFinal b then r.dispatchControl b
  else (r, [])

def csiIgnore : Registers × List Action :=
  if b < 0x20 then (r, [.execute b])
  else if isFinal b then ({ r with place := .ground }, [])
  else (r, [])

/-- Chooses who reads a device control string. -/
def hook : Registers × List Action :=
  let params := r.params.finish
  let opened :=
    { r.finishParams with place := .dcsPassthrough, request := [], longRequest := false }
  let marker := r.marker.or r.intermediates.head?
  if marker = none && b = 0x71 && r.sixel then
    ({ opened with reader := .image }, [.imageStart (params.raw 0) (params.raw 1) (params.raw 2)])
  else if marker = some 0x24 && b = 0x71 then ({ opened with reader := .setting }, [])
  else if marker = some 0x2b && b = 0x71 then ({ opened with reader := .capabilities }, [])
  else if marker = some 0x3d && b = 0x73 then
    ({ opened with
      reader :=
        if params.raw 0 = 1 then .beginSync
        else if params.raw 0 = 2 then .endSync
        else .discard }, [])
  else ({ opened with reader := .discard }, [])

def dcsEntry : Registers × List Action :=
  if isIntermediate b then (r.collect b .dcsIntermediate .dcsIgnore, [])
  else if b = 0x3a then ({ r with place := .dcsIgnore }, [])
  else if isParam b then (r.param b .dcsParam, [])
  else if isMarker b then ({ r with marker := some b, place := .dcsParam }, [])
  else if isFinal b then r.hook b
  else (r, [])

def dcsParam : Registers × List Action :=
  if b = 0x3a || isMarker b then ({ r with place := .dcsIgnore }, [])
  else if isParam b then (r.param b .dcsParam, [])
  else if isIntermediate b then (r.collect b .dcsIntermediate .dcsIgnore, [])
  else if isFinal b then r.hook b
  else (r, [])

def dcsIntermediate : Registers × List Action :=
  if isIntermediate b then (r.collect b .dcsIntermediate .dcsIgnore, [])
  else if isParam b || isMarker b then ({ r with place := .dcsIgnore }, [])
  else if isFinal b then r.hook b
  else (r, [])

/-- Keeps a byte of a request. One too many spoils it. -/
def pushRequest (limit : Nat) : Registers :=
  if r.longRequest then r
  else if r.request.length < limit then { r with request := r.request ++ [b] }
  else { r with longRequest := true }

def put : Registers × List Action :=
  match r.reader with
  | .discard | .beginSync | .endSync => (r, [])
  | .image => (r, [.imageData b])
  | .setting => (if r.request.length < maxSetting then r.pushRequest b maxSetting else r, [])
  | .capabilities => (r.pushRequest b maxCapabilities, [])

/-- What the end of a device control string completes. -/
def finishRequest : List Action :=
  match r.reader with
  | .discard => []
  | .setting => [.request (.setting r.request)]
  | .capabilities => if r.longRequest then [] else [.request (.capabilities r.request)]
  | .beginSync => [.request .beginSync]
  | .endSync => [.request .endSync]
  | .image => [.imageEnd]

/-- Drops the request and its reader. -/
def unhook : Registers := { r with request := [], reader := .discard, longRequest := false }

def dcsPassthrough : Registers × List Action :=
  if isCancel b then ({ r.unhook with place := .ground }, r.finishRequest ++ [.execute b])
  else if b = 0x1b then (r.unhook.enterEscape true, r.finishRequest)
  else if b < 0x7f then r.put b
  else if isC1 b then ({ r.unhook with place := .ground }, r.finishRequest)
  else (r, [])

/-- Drops the operating system command. -/
def dropCommand : Registers := { r with command := [], longCommand := false }

/-- What the end of an operating system command completes. -/
def finishCommand (bell : Bool) : List Action :=
  if r.longCommand then [] else [.command r.command bell]

def oscString : Registers × List Action :=
  if b = 0x07 then
    ({ r.dropCommand with place := .ground }, r.finishCommand true)
  else if isCancel b then
    ({ r.dropCommand with place := .ground }, r.finishCommand false ++ [.execute b])
  else if b = 0x1b then (r.dropCommand.enterEscape true, r.finishCommand false)
  else if b < 0x20 then (r, [])
  else if r.command.length < maxCommand then ({ r with command := r.command ++ [b] }, [])
  else ({ r with longCommand := true }, [])

def sosPmApcString : Registers × List Action :=
  if isCancel b then ({ r with place := .ground }, [.execute b])
  else if b = 0x1b then (r.enterEscape true, [])
  else (r, [])

def anywhere (closing : Bool) (rest : Registers × List Action) : Registers × List Action :=
  if isCancel b then ({ r with place := .ground }, [.execute b])
  else if b = 0x1b then (r.enterEscape closing, [])
  else if isC1 b then ({ r with place := .ground }, [])
  else rest

/-- Reads one byte. -/
def step : Registers × List Action :=
  match r.place with
  | .ground => r.ground b
  | .utf8Collect => r.collectUtf8 b
  | .oscString => r.oscString b
  | .sosPmApcString => r.sosPmApcString b
  | .dcsPassthrough => r.dcsPassthrough b
  | .escape => r.anywhere b false (r.escape b)
  | .escapeIntermediate => r.anywhere b false (r.escapeIntermediate b)
  | .csiEntry => r.anywhere b false (r.csiEntry b)
  | .csiParam => r.anywhere b false (r.csiParam b)
  | .csiIntermediate => r.anywhere b false (r.csiIntermediate b)
  | .csiIgnore => r.anywhere b false (r.csiIgnore b)
  | .dcsEntry => r.anywhere b true (r.dcsEntry b)
  | .dcsParam => r.anywhere b true (r.dcsParam b)
  | .dcsIntermediate => r.anywhere b true (r.dcsIntermediate b)
  | .dcsIgnore => r.anywhere b true (r, [])

/-- Reads the bytes and gives what they complete, in order. -/
def feed (r : Registers) : List UInt8 → Registers × List Action
  | [] => (r, [])
  | b :: bytes =>
    let next := r.step b
    let rest := next.1.feed bytes
    (rest.1, next.2 ++ rest.2)

/-- What was collected of the start of a sequence. -/
def header : Header := ⟨r.params, r.marker, r.intermediates⟩

end Registers

/-! ## Which registers are read -/

/-- The place of a state. -/
def State.place : State → Place
  | .ground => .ground
  | .escape _ => .escape
  | .escapeIntermediate .. => .escapeIntermediate
  | .csiEntry => .csiEntry
  | .csiParam _ => .csiParam
  | .csiIntermediate _ => .csiIntermediate
  | .csiIgnore => .csiIgnore
  | .dcsEntry => .dcsEntry
  | .dcsParam _ => .dcsParam
  | .dcsIntermediate _ => .dcsIntermediate
  | .dcsPassthrough _ => .dcsPassthrough
  | .dcsIgnore => .dcsIgnore
  | .oscString .. => .oscString
  | .sosPmApcString => .sosPmApcString
  | .utf8Collect .. => .utf8Collect

/-- The registers hold a device control string as its handler does. -/
def Handler.HeldBy (r : Registers) : Handler → Prop
  | .discard => r.reader = .discard
  | .setting name => r.reader = .setting ∧ r.request = name.toList ∧ r.longRequest = false
  | .capabilities names excess =>
    r.reader = .capabilities ∧ r.request = names.toList ∧ r.longRequest = excess
  | .beginSync => r.reader = .beginSync
  | .endSync => r.reader = .endSync
  | .image => r.reader = .image

/-- The registers that count in a state hold what the state does. Any other register is dead. -/
def State.HeldBy (r : Registers) : State → Prop
  | .ground | .csiIgnore | .dcsIgnore | .sosPmApcString => True
  | .escape closing => r.closing = closing ∧ r.intermediates = [] ∧ r.excessIntermediates = false
  | .escapeIntermediate intermediates excess =>
    r.intermediates = intermediates ∧ r.excessIntermediates = excess
  | .csiEntry | .dcsEntry => r.header = {}
  | .csiParam header | .csiIntermediate header | .dcsParam header | .dcsIntermediate header =>
    r.header = header
  | .dcsPassthrough handler => handler.HeldBy r
  | .oscString data excess => r.command = data.toList ∧ r.longCommand = excess
  | .utf8Collect bytes missing => r.character = bytes ∧ r.missing = missing

/-- Registers that stand for a state. -/
structure Holds (sixel : Bool) (r : Registers) (s : State) : Prop where
  sixel : r.sixel = sixel
  place : r.place = s.place
  held : s.HeldBy r

/-- A step of the registers brings about what a step of the state does. -/
structure Agrees (sixel : Bool) (step : Registers × List Action) (n : Next) : Prop where
  holds : Holds sixel step.1 n.state
  actions : step.2 = n.actions

theorem agrees_ite {sixel : Bool} {p : Prop} [Decidable p] {a a' : Registers × List Action}
    {n n' : Next} (h : p → Agrees sixel a n) (h' : ¬p → Agrees sixel a' n') :
    Agrees sixel (if p then a else a') (if p then n else n') := by
  split
  · exact h ‹_›
  · exact h' ‹_›

variable {sixel : Bool} {r : Registers}

/-- The ground state reads no register, so nothing is asked of them. -/
theorem holds_ground (hsixel : r.sixel = sixel) (hplace : r.place = .ground) :
    Holds sixel r .ground :=
  ⟨hsixel, hplace, trivial⟩

theorem Holds.enterEscape {s : State} (h : Holds sixel r s) (closing : Bool) :
    Holds sixel (r.enterEscape closing) (.escape closing) :=
  ⟨h.sixel, rfl, rfl, rfl, rfl⟩

/-! ## Each state -/

theorem agrees_ground (h : Holds sixel r .ground) (b : UInt8) :
    Agrees sixel (r.ground b) (ground b) := by
  have started (missing : Nat) :
      Holds sixel (r.startCharacter b missing) (.utf8Collect [b] missing) :=
    ⟨h.sixel, rfl, rfl, rfl⟩
  unfold Registers.ground ground
  refine agrees_ite (fun _ => ⟨h.enterEscape false, rfl⟩) fun _ => ?_
  refine agrees_ite (fun _ => ⟨h, rfl⟩) fun _ => ?_
  refine agrees_ite (fun _ => ⟨h, rfl⟩) fun _ => ?_
  refine agrees_ite (fun _ => ⟨started 1, rfl⟩) fun _ => ?_
  refine agrees_ite (fun _ => ⟨started 2, rfl⟩) fun _ => ?_
  exact agrees_ite (fun _ => ⟨started 3, rfl⟩) fun _ => ⟨h, rfl⟩

theorem agrees_collectUtf8 {bytes : List UInt8} {missing : Nat}
    (h : Holds sixel r (.utf8Collect bytes missing)) (b : UInt8) :
    Agrees sixel (r.collectUtf8 b) (collectUtf8 bytes missing b) := by
  obtain ⟨hsixel, hplace, rfl, rfl⟩ := h
  unfold Registers.collectUtf8 collectUtf8
  refine agrees_ite (fun _ => agrees_ite (fun _ => ?_) fun _ => ?_) fun _ => ?_
  · exact ⟨holds_ground hsixel rfl, rfl⟩
  · exact ⟨⟨hsixel, hplace, rfl, rfl⟩, rfl⟩
  · refine agrees_ground ?_ b
    exact holds_ground hsixel rfl

/-- An intermediate byte goes to the header. -/
theorem agrees_collect {s : State} (h : Holds sixel r s) (b : UInt8) (next : Header → State)
    (ignore : State) {place : Place} (hplace : ∀ header, (next header).place = place)
    (hnext : ∀ r : Registers, (next r.header).HeldBy r)
    (hignore : ∀ r : Registers, ignore.HeldBy r) :
    Agrees sixel (r.collect b place ignore.place, []) (collect r.header b next ignore) := by
  unfold Registers.collect collect
  by_cases hroom : r.intermediates.length < maxIntermediates
  · have hroom' : r.header.intermediates.length < maxIntermediates := hroom
    rw [if_pos hroom, if_pos hroom']
    exact ⟨⟨h.sixel, (hplace _).symm, hnext _⟩, rfl⟩
  · have hroom' : ¬r.header.intermediates.length < maxIntermediates := hroom
    rw [if_neg hroom, if_neg hroom']
    exact ⟨⟨h.sixel, rfl, hignore _⟩, rfl⟩

theorem agrees_param {s : State} (h : Holds sixel r s) (b : UInt8) (next : Header → State)
    {place : Place} (hplace : ∀ header, (next header).place = place)
    (hnext : ∀ r : Registers, (next r.header).HeldBy r) :
    Agrees sixel (r.param b place, []) (param r.header b next) :=
  ⟨⟨h.sixel, (hplace _).symm, hnext _⟩, rfl⟩

theorem agrees_dispatchEscape {s : State} (h : Holds sixel r s) (b : UInt8) :
    Agrees sixel (r.dispatchEscape b) (dispatchEscape r.intermediates r.excessIntermediates b) :=
  ⟨holds_ground h.sixel rfl, rfl⟩

theorem agrees_escape {closing : Bool} (h : Holds sixel r (.escape closing)) (b : UInt8) :
    Agrees sixel (r.escape b) (escape closing b) := by
  obtain ⟨hsixel, hplace, rfl, hnone, hexcess⟩ := h
  have once : Holds sixel { r with closing := false } (.escape false) :=
    ⟨hsixel, hplace, rfl, hnone, hexcess⟩
  unfold Registers.escape escape
  refine agrees_ite (fun _ => ⟨holds_ground hsixel rfl, rfl⟩) fun _ => ?_
  refine agrees_ite (fun _ => ⟨once, rfl⟩) fun _ => ?_
  refine agrees_ite (fun _ => ?_) fun _ => ?_
  · have room : ({ r with closing := false } : Registers).intermediates.length <
        maxIntermediates := by
      rw [hnone]
      decide
    rw [Registers.collect, if_pos room]
    exact ⟨⟨hsixel, rfl, congrArg (· ++ [b]) hnone, hexcess⟩, rfl⟩
  refine agrees_ite (fun _ => ⟨⟨hsixel, rfl, rfl⟩, rfl⟩) fun _ => ?_
  refine agrees_ite (fun _ => ⟨⟨hsixel, rfl, trivial⟩, rfl⟩) fun _ => ?_
  refine agrees_ite (fun _ => ⟨⟨hsixel, rfl, rfl⟩, rfl⟩) fun _ => ?_
  refine agrees_ite (fun _ => ⟨⟨hsixel, rfl, rfl, rfl⟩, rfl⟩) fun _ => ?_
  refine agrees_ite (fun _ => ?_) fun _ => ⟨once, rfl⟩
  have empty : dispatchEscape r.intermediates r.excessIntermediates b =
      dispatchEscape [] false b := by
    rw [hnone, hexcess]
  rw [← empty]
  exact agrees_dispatchEscape once b

theorem agrees_escapeIntermediate {intermediates : List UInt8} {excess : Bool}
    (h : Holds sixel r (.escapeIntermediate intermediates excess)) (b : UInt8) :
    Agrees sixel (r.escapeIntermediate b) (escapeIntermediate intermediates excess b) := by
  obtain ⟨rfl, rfl⟩ := h.held
  unfold Registers.escapeIntermediate escapeIntermediate
  refine agrees_ite (fun _ => ⟨h, rfl⟩) fun _ => ?_
  refine agrees_ite (fun _ => ?_) fun _ => agrees_ite (fun _ => agrees_dispatchEscape h b)
    fun _ => ⟨h, rfl⟩
  unfold Registers.collect
  by_cases hroom : r.intermediates.length < maxIntermediates
  · rw [if_pos hroom, if_pos hroom]
    exact ⟨⟨h.sixel, rfl, rfl, rfl⟩, rfl⟩
  · rw [if_neg hroom, if_neg hroom]
    exact ⟨⟨h.sixel, rfl, rfl, rfl⟩, rfl⟩

theorem agrees_dispatchControl {s : State} (h : Holds sixel r s) (b : UInt8) :
    Agrees sixel (r.dispatchControl b) (dispatchControl r.header b) :=
  ⟨holds_ground h.sixel rfl, rfl⟩

theorem agrees_csiEntry (h : Holds sixel r .csiEntry) (b : UInt8) :
    Agrees sixel (r.csiEntry b) (csiEntry b) := by
  have empty : r.header = {} := h.held
  unfold Registers.csiEntry csiEntry
  rw [← empty]
  refine agrees_ite (fun _ => ⟨h, rfl⟩) fun _ => ?_
  refine agrees_ite
    (fun _ => agrees_collect h b .csiIntermediate .csiIgnore (fun _ => rfl) (fun _ => rfl)
      fun _ => trivial) fun _ => ?_
  refine agrees_ite (fun _ => agrees_param h b .csiParam (fun _ => rfl) fun _ => rfl) fun _ => ?_
  refine agrees_ite (fun _ => ⟨⟨h.sixel, rfl, ?_⟩, rfl⟩) fun _ => ?_
  · exact congrArg (fun header : Header => { header with marker := some b }) empty
  · exact agrees_ite (fun _ => agrees_dispatchControl h b) fun _ => ⟨h, rfl⟩

theorem agrees_csiParam {header : Header} (h : Holds sixel r (.csiParam header)) (b : UInt8) :
    Agrees sixel (r.csiParam b) (csiParam header b) := by
  obtain rfl : r.header = header := h.held
  unfold Registers.csiParam csiParam
  refine agrees_ite (fun _ => ⟨h, rfl⟩) fun _ => ?_
  refine agrees_ite (fun _ => agrees_param h b .csiParam (fun _ => rfl) fun _ => rfl) fun _ => ?_
  refine agrees_ite (fun _ => ⟨⟨h.sixel, rfl, trivial⟩, rfl⟩) fun _ => ?_
  refine agrees_ite
    (fun _ => agrees_collect h b .csiIntermediate .csiIgnore (fun _ => rfl) (fun _ => rfl)
      fun _ => trivial) fun _ => ?_
  exact agrees_ite (fun _ => agrees_dispatchControl h b) fun _ => ⟨h, rfl⟩

theorem agrees_csiIntermediate {header : Header} (h : Holds sixel r (.csiIntermediate header))
    (b : UInt8) : Agrees sixel (r.csiIntermediate b) (csiIntermediate header b) := by
  obtain rfl : r.header = header := h.held
  unfold Registers.csiIntermediate csiIntermediate
  refine agrees_ite (fun _ => ⟨h, rfl⟩) fun _ => ?_
  refine agrees_ite
    (fun _ => agrees_collect h b .csiIntermediate .csiIgnore (fun _ => rfl) (fun _ => rfl)
      fun _ => trivial) fun _ => ?_
  refine agrees_ite (fun _ => ⟨⟨h.sixel, rfl, trivial⟩, rfl⟩) fun _ => ?_
  exact agrees_ite (fun _ => agrees_dispatchControl h b) fun _ => ⟨h, rfl⟩

theorem agrees_csiIgnore (h : Holds sixel r .csiIgnore) (b : UInt8) :
    Agrees sixel (r.csiIgnore b) (csiIgnore b) := by
  unfold Registers.csiIgnore csiIgnore
  refine agrees_ite (fun _ => ⟨h, rfl⟩) fun _ => ?_
  exact agrees_ite (fun _ => ⟨holds_ground h.sixel rfl, rfl⟩) fun _ => ⟨h, rfl⟩

/-- A synchronized update begins or ends with the string, depending on its parameter. -/
theorem heldBy_sync {n : Nat}
    (h : r.reader = if n = 1 then .beginSync else if n = 2 then .endSync else .discard) :
    (if n = 1 then Handler.beginSync else if n = 2 then .endSync else .discard).HeldBy r := by
  by_cases begins : n = 1
  · rw [if_pos begins] at h ⊢
    exact h
  · by_cases ends : n = 2
    · rw [if_neg begins, if_pos ends] at h ⊢
      exact h
    · rw [if_neg begins, if_neg ends] at h ⊢
      exact h

/-- The request of an earlier string is dropped at the latest when the next one starts. -/
theorem agrees_hook {s : State} (h : Holds sixel r s) (b : UInt8) :
    Agrees sixel (r.hook b) (hook sixel r.header b) := by
  unfold Registers.hook hook
  rw [h.sixel]
  refine agrees_ite (fun _ => ⟨⟨h.sixel, rfl, rfl⟩, rfl⟩) fun _ => ?_
  refine agrees_ite (fun _ => ⟨⟨h.sixel, rfl, rfl, rfl, rfl⟩, rfl⟩) fun _ => ?_
  refine agrees_ite (fun _ => ⟨⟨h.sixel, rfl, rfl, rfl, rfl⟩, rfl⟩) fun _ => ?_
  refine agrees_ite (fun _ => ⟨⟨h.sixel, rfl, ?_⟩, rfl⟩) fun _ => ⟨⟨h.sixel, rfl, rfl⟩, rfl⟩
  exact heldBy_sync rfl

theorem agrees_dcsEntry (h : Holds sixel r .dcsEntry) (b : UInt8) :
    Agrees sixel (r.dcsEntry b) (dcsEntry sixel b) := by
  have empty : r.header = {} := h.held
  unfold Registers.dcsEntry dcsEntry
  rw [← empty]
  refine agrees_ite
    (fun _ => agrees_collect h b .dcsIntermediate .dcsIgnore (fun _ => rfl) (fun _ => rfl)
      fun _ => trivial) fun _ => ?_
  refine agrees_ite (fun _ => ⟨⟨h.sixel, rfl, trivial⟩, rfl⟩) fun _ => ?_
  refine agrees_ite (fun _ => agrees_param h b .dcsParam (fun _ => rfl) fun _ => rfl) fun _ => ?_
  refine agrees_ite (fun _ => ⟨⟨h.sixel, rfl, ?_⟩, rfl⟩) fun _ => ?_
  · exact congrArg (fun header : Header => { header with marker := some b }) empty
  · exact agrees_ite (fun _ => agrees_hook h b) fun _ => ⟨h, rfl⟩

theorem agrees_dcsParam {header : Header} (h : Holds sixel r (.dcsParam header)) (b : UInt8) :
    Agrees sixel (r.dcsParam b) (dcsParam sixel header b) := by
  obtain rfl : r.header = header := h.held
  unfold Registers.dcsParam dcsParam
  refine agrees_ite (fun _ => ⟨⟨h.sixel, rfl, trivial⟩, rfl⟩) fun _ => ?_
  refine agrees_ite (fun _ => agrees_param h b .dcsParam (fun _ => rfl) fun _ => rfl) fun _ => ?_
  refine agrees_ite
    (fun _ => agrees_collect h b .dcsIntermediate .dcsIgnore (fun _ => rfl) (fun _ => rfl)
      fun _ => trivial) fun _ => ?_
  exact agrees_ite (fun _ => agrees_hook h b) fun _ => ⟨h, rfl⟩

theorem agrees_dcsIntermediate {header : Header} (h : Holds sixel r (.dcsIntermediate header))
    (b : UInt8) : Agrees sixel (r.dcsIntermediate b) (dcsIntermediate sixel header b) := by
  obtain rfl : r.header = header := h.held
  unfold Registers.dcsIntermediate dcsIntermediate
  refine agrees_ite
    (fun _ => agrees_collect h b .dcsIntermediate .dcsIgnore (fun _ => rfl) (fun _ => rfl)
      fun _ => trivial) fun _ => ?_
  refine agrees_ite (fun _ => ⟨⟨h.sixel, rfl, trivial⟩, rfl⟩) fun _ => ?_
  exact agrees_ite (fun _ => agrees_hook h b) fun _ => ⟨h, rfl⟩

theorem agrees_put {handler : Handler} (h : Holds sixel r (.dcsPassthrough handler)) (b : UInt8) :
    Agrees sixel (r.put b) (handler.put b) := by
  have held := h.held
  cases handler with
  | discard | beginSync | endSync | image =>
    have reader : r.reader = _ := held
    unfold Registers.put Handler.put
    rw [reader]
    exact ⟨h, rfl⟩
  | setting name =>
    obtain ⟨reader, request, long⟩ := held
    have put :
        r.put b = (if name.size < maxSetting then r.pushRequest b maxSetting else r, []) := by
      rw [Registers.put, reader, ← name.length_toList, ← request]
    rw [put, Handler.put]
    by_cases hroom : name.size < maxSetting
    · have room : r.request.length < maxSetting := by rwa [request, name.length_toList]
      rw [if_pos hroom, if_pos hroom, Registers.pushRequest,
        if_neg (long ▸ Bool.false_ne_true), if_pos room]
      exact ⟨⟨h.sixel, h.place, reader, by rw [request, name.toList_push], long⟩, rfl⟩
    · rw [if_neg hroom, if_neg hroom]
      exact ⟨h, rfl⟩
  | capabilities names excess =>
    obtain ⟨reader, request, rfl⟩ := held
    have put : r.put b = (r.pushRequest b maxCapabilities, []) := by rw [Registers.put, reader]
    rw [put, Handler.put, Registers.pushRequest, request, names.length_toList]
    by_cases hlong : r.longRequest = true
    · rw [if_pos hlong, if_pos hlong]
      exact ⟨h, rfl⟩
    · rw [if_neg hlong, if_neg hlong]
      by_cases hroom : names.size < maxCapabilities
      · rw [if_pos hroom, if_pos hroom]
        exact ⟨⟨h.sixel, h.place, reader, (names.toList_push b).symm, by simpa using hlong⟩, rfl⟩
      · rw [if_neg hroom, if_neg hroom]
        exact ⟨⟨h.sixel, h.place, reader, rfl, rfl⟩, rfl⟩

theorem finishRequest_eq {handler : Handler} (h : handler.HeldBy r) :
    r.finishRequest = handler.finish := by
  unfold Registers.finishRequest Handler.finish
  cases handler with
  | discard | beginSync | endSync | image =>
    have reader : r.reader = _ := h
    rw [reader]
  | setting name =>
    obtain ⟨reader, request, -⟩ := h
    rw [reader, request]
  | capabilities names excess =>
    obtain ⟨reader, request, rfl⟩ := h
    rw [reader, request]

theorem agrees_dcsPassthrough {handler : Handler} (h : Holds sixel r (.dcsPassthrough handler))
    (b : UInt8) : Agrees sixel (r.dcsPassthrough b) (dcsPassthrough handler b) := by
  unfold Registers.dcsPassthrough dcsPassthrough
  rw [finishRequest_eq h.held]
  refine agrees_ite (fun _ => ⟨holds_ground h.sixel rfl, rfl⟩) fun _ => ?_
  refine agrees_ite (fun _ => ⟨⟨h.sixel, rfl, rfl, rfl, rfl⟩, rfl⟩) fun _ => ?_
  refine agrees_ite (fun _ => agrees_put h b) fun _ => ?_
  exact agrees_ite (fun _ => ⟨holds_ground h.sixel rfl, rfl⟩) fun _ => ⟨h, rfl⟩

theorem agrees_oscString {data : Buffer} {excess : Bool}
    (h : Holds sixel r (.oscString data excess)) (b : UInt8) :
    Agrees sixel (r.oscString b) (oscString data excess b) := by
  obtain ⟨command, rfl⟩ := h.held
  have finished (bell : Bool) : r.finishCommand bell = finishCommand data r.longCommand bell := by
    rw [Registers.finishCommand, command, finishCommand]
  unfold Registers.oscString oscString
  rw [finished, finished, command, data.length_toList]
  refine agrees_ite (fun _ => ⟨holds_ground h.sixel rfl, rfl⟩) fun _ => ?_
  refine agrees_ite (fun _ => ⟨holds_ground h.sixel rfl, rfl⟩) fun _ => ?_
  refine agrees_ite (fun _ => ⟨⟨h.sixel, rfl, rfl, rfl, rfl⟩, rfl⟩) fun _ => ?_
  refine agrees_ite (fun _ => ⟨h, rfl⟩) fun _ => ?_
  exact agrees_ite (fun _ => ⟨⟨h.sixel, h.place, (data.toList_push b).symm, rfl⟩, rfl⟩) fun _ =>
    ⟨⟨h.sixel, h.place, rfl, rfl⟩, rfl⟩

theorem agrees_sosPmApcString (h : Holds sixel r .sosPmApcString) (b : UInt8) :
    Agrees sixel (r.sosPmApcString b) (sosPmApcString b) := by
  unfold Registers.sosPmApcString sosPmApcString
  refine agrees_ite (fun _ => ⟨holds_ground h.sixel rfl, rfl⟩) fun _ => ?_
  exact agrees_ite (fun _ => ⟨h.enterEscape true, rfl⟩) fun _ => ⟨h, rfl⟩

theorem agrees_anywhere {s : State} (h : Holds sixel r s) (closing : Bool) (b : UInt8)
    {rest : Registers × List Action} {n : Next} (hrest : Agrees sixel rest n) :
    Agrees sixel (r.anywhere b closing rest) (anywhere closing b n) := by
  unfold Registers.anywhere anywhere
  refine agrees_ite (fun _ => ⟨holds_ground h.sixel rfl, rfl⟩) fun _ => ?_
  refine agrees_ite (fun _ => ⟨h.enterEscape closing, rfl⟩) fun _ => ?_
  exact agrees_ite (fun _ => ⟨holds_ground h.sixel rfl, rfl⟩) fun _ => hrest

/-! ## Runs -/

/-- A byte does the same to the registers as to the state that they stand for. -/
theorem agrees_step {s : State} (h : Holds sixel r s) (b : UInt8) :
    Agrees sixel (r.step b) (transition sixel b s) := by
  unfold Registers.step
  rw [h.place]
  cases s with
  | ground => exact agrees_ground h b
  | utf8Collect bytes missing => exact agrees_collectUtf8 h b
  | oscString data excess => exact agrees_oscString h b
  | sosPmApcString => exact agrees_sosPmApcString h b
  | dcsPassthrough handler => exact agrees_dcsPassthrough h b
  | escape closing => exact agrees_anywhere h false b (agrees_escape h b)
  | escapeIntermediate intermediates excess =>
    exact agrees_anywhere h false b (agrees_escapeIntermediate h b)
  | csiEntry => exact agrees_anywhere h false b (agrees_csiEntry h b)
  | csiParam header => exact agrees_anywhere h false b (agrees_csiParam h b)
  | csiIntermediate header => exact agrees_anywhere h false b (agrees_csiIntermediate h b)
  | csiIgnore => exact agrees_anywhere h false b (agrees_csiIgnore h b)
  | dcsEntry => exact agrees_anywhere h true b (agrees_dcsEntry h b)
  | dcsParam header => exact agrees_anywhere h true b (agrees_dcsParam h b)
  | dcsIntermediate header => exact agrees_anywhere h true b (agrees_dcsIntermediate h b)
  | dcsIgnore => exact agrees_anywhere h true b ⟨h, rfl⟩

/-- Any number of bytes do the same to the registers as to the state that they stand for. -/
theorem holds_feed {d : Decoder} (h : Holds d.sixel r d.state) (bytes : List UInt8) :
    Holds d.sixel (r.feed bytes).1 (d.feed bytes).1.state ∧
      (r.feed bytes).2 = (d.feed bytes).2.toList := by
  induction bytes generalizing d r with
  | nil => exact ⟨h, rfl⟩
  | cons b bytes ih =>
    obtain ⟨next, actions⟩ := agrees_step h b
    have state : (d.step b).1.state = (transition d.sixel b d.state).state :=
      (Decoder.note_eq _ _).1
    rw [← state, ← d.sixel_step b] at next
    obtain ⟨last, rest⟩ := ih next
    rw [d.sixel_step b] at last
    rw [(Decoder.feed_cons d b bytes).1, (Decoder.feed_cons d b bytes).2, ← rest]
    exact ⟨last, congrArg (· ++ _) actions⟩

/-- Output that a decoder reads in pieces. From the start of each piece on, images are read or
not. -/
abbrev Pieces := List (Bool × List UInt8)

/-- The decoder that has read pieces of output. -/
def Decoder.afterPieces (pieces : Pieces) : Decoder :=
  pieces.foldl (fun d piece => ({ d with sixel := piece.1 }.feed piece.2).1) {}

/-- The registers after pieces of output. -/
def Registers.afterPieces (pieces : Pieces) : Registers :=
  pieces.foldl (fun r piece => ({ r with sixel := piece.1 }.feed piece.2).1) {}

theorem holds_afterPieces (pieces : Pieces) :
    Holds (Decoder.afterPieces pieces).sixel (Registers.afterPieces pieces)
      (Decoder.afterPieces pieces).state := by
  have run (d : Decoder) (r : Registers) (h : Holds d.sixel r d.state) :
      let d' := pieces.foldl (fun d piece => ({ d with sixel := piece.1 }.feed piece.2).1) d
      Holds d'.sixel (pieces.foldl (fun r piece => ({ r with sixel := piece.1 }.feed piece.2).1) r)
        d'.state := by
    induction pieces generalizing d r with
    | nil => exact h
    | cons piece pieces ih =>
      refine ih _ _ ?_
      have switched : Holds piece.1 { r with sixel := piece.1 } d.state :=
        ⟨rfl, h.place, by cases hs : d.state <;> exact hs ▸ h.held⟩
      have fed := holds_feed (d := { d with sixel := piece.1 }) switched piece.2
      rw [Decoder.sixel_feed]
      exact fed.1
  exact run {} {} ⟨rfl, rfl, trivial⟩

theorem place_eq_ground_iff {s : State} : s.place = .ground ↔ s = .ground := by
  cases s <;> simp [State.place]

/-- CAN and SUB end in the ground state from everywhere. -/
theorem transition_cancel (sixel : Bool) {b : UInt8} (hb : isCancel b = true) (s : State) :
    (transition sixel b s).state = .ground := by
  have cancelled {closing : Bool} {rest : Next} : (anywhere closing b rest).state = .ground := by
    rw [anywhere, if_pos hb]
  have low : b = 0x18 ∨ b = 0x1a := by simpa [isCancel] using hb
  cases s with
  | ground => obtain rfl | rfl := low <;> rfl
  | utf8Collect bytes missing => obtain rfl | rfl := low <;> rfl
  | oscString data excess => obtain rfl | rfl := low <;> rfl
  | sosPmApcString => rw [transition, sosPmApcString, if_pos hb]
  | dcsPassthrough handler => rw [transition, dcsPassthrough, if_pos hb]
  | escape | escapeIntermediate | csiEntry | csiParam | csiIntermediate | csiIgnore | dcsEntry
  | dcsParam | dcsIntermediate | dcsIgnore => exact cancelled

/-- Whatever a decoder has read, once it is in the ground state it completes what a new one does. So
does a decoder that has kept all that it collected in registers. CAN and SUB lead to the ground
state from every other. -/
theorem feed_of_ground_eq_new (pieces : Pieces) (bytes : List UInt8) :
    let d := Decoder.afterPieces pieces
    let r := Registers.afterPieces pieces
    let fresh : Decoder := { sixel := d.sixel }
    (d.state = .ground → (d.feed bytes).2 = (fresh.feed bytes).2) ∧
      (r.place = .ground → (r.feed bytes).2 = (fresh.feed bytes).2.toList) ∧
      (r.place = .ground ↔ d.state = .ground) ∧
      ∀ b, isCancel b = true → (d.step b).1.state = .ground ∧ (r.step b).1.place = .ground := by
  intro d r fresh
  have holds : Holds d.sixel r d.state := holds_afterPieces pieces
  refine ⟨fun hground => ?_, fun hground => ?_, ?_, fun b hb => ?_⟩
  · have state : d.state = fresh.state := hground
    rw [← Array.toList_inj]
    exact (Decoder.feed_congr state rfl bytes).1
  · exact (holds_feed (d := fresh) (holds_ground holds.sixel hground) bytes).2
  · rw [holds.place, place_eq_ground_iff]
  · have ended := transition_cancel d.sixel hb d.state
    refine ⟨(Decoder.note_eq _ _).1.trans ended, ?_⟩
    rw [(agrees_step holds b).holds.place, ended, State.place]

/-- A parameter of a control sequence that CAN broke off is still in its register, and does no harm
there. -/
theorem feed_of_ground_eq_new_cancelled :
    let r := Registers.afterPieces [(true, [0x1b, 0x5b, 0x33, 0x31, 0x18])]
    r.place = .ground ∧ r.params.items ≠ [] ∧
      (r.feed [0x1b, 0x5b, 0x6d]).2 = ((({} : Decoder).feed [0x1b, 0x5b, 0x6d]).2).toList :=
  ⟨rfl, by decide,
    (feed_of_ground_eq_new [(true, [0x1b, 0x5b, 0x33, 0x31, 0x18])] [0x1b, 0x5b, 0x6d]).2.1 rfl⟩

end Teletype.Control
