import Teletype.Proofs.Control.Bounded
import Teletype.Proofs.Control.Registers

/-!
# The registers stay within their limits

A decoder that keeps what it collects in registers never holds more than the limits allow, in no
state and whatever is left over from before: the parameters and intermediate bytes of a sequence,
the bytes of an operating system command, of a device control request and of a character. The
request is dropped with its reader on every way out of a device control string.
-/

namespace Teletype.Control

namespace Registers

/-- The registers outside of a device control string: no reader is chosen, and no byte of a request
is held. -/
structure Unhooked (r : Registers) : Prop where
  params : r.params.Bounded
  intermediates : r.intermediates.length ≤ maxIntermediates
  command : r.command.length ≤ maxCommand
  request : r.request = []
  reader : r.reader = .discard

/-- A character is being read: some of its bytes are held and some are missing, four at most. -/
structure Collecting (r : Registers) : Prop where
  held : 1 ≤ r.character.length
  missing : 1 ≤ r.missing
  total : 2 ≤ r.character.length + r.missing ∧ r.character.length + r.missing ≤ 4

/-- The registers hold no more than they may. -/
structure Limited (r : Registers) : Prop where
  params : r.params.Bounded
  intermediates : r.intermediates.length ≤ maxIntermediates
  command : r.command.length ≤ maxCommand
  request : r.request.length ≤ maxCapabilities
  setting : r.reader = .setting → r.request.length ≤ maxSetting
  unhooked : r.place ≠ .dcsPassthrough → r.request = [] ∧ r.reader = .discard
  collecting : r.place = .utf8Collect → r.Collecting

variable {r : Registers}

theorem limited_ite {p : Prop} [Decidable p] {a a' : Registers × List Action} (h : p → a.1.Limited)
    (h' : ¬p → a'.1.Limited) : (if p then a else a').1.Limited := by
  split
  · exact h ‹_›
  · exact h' ‹_›

theorem Limited.toUnhooked (h : r.Limited) {place : Place} (hplace : r.place = place)
    (hother : place ≠ .dcsPassthrough) : r.Unhooked :=
  have idle := h.unhooked (hplace ▸ hother)
  ⟨h.params, h.intermediates, h.command, idle.1, idle.2⟩

namespace Unhooked

theorem limited (h : r.Unhooked) (hcollecting : r.place = .utf8Collect → r.Collecting) :
    r.Limited where
  params := h.params
  intermediates := h.intermediates
  command := h.command
  request := by
    rw [h.request]
    exact Nat.zero_le _
  setting := fun _ => by
    rw [h.request]
    exact Nat.zero_le _
  unhooked := fun _ => ⟨h.request, h.reader⟩
  collecting := hcollecting

theorem limited_of_place (h : r.Unhooked) {p : Place} (hplace : r.place = p)
    (hother : p ≠ .utf8Collect) : r.Limited :=
  h.limited fun hp => absurd (hplace.symm.trans hp) hother

/-- At a place where no character is read. -/
theorem at_place (h : r.Unhooked) {place : Place} (hother : place ≠ .utf8Collect) :
    Limited { r with place } :=
  limited_of_place ⟨h.params, h.intermediates, h.command, h.request, h.reader⟩ rfl hother

theorem clear (h : r.Unhooked) : r.clear.Unhooked :=
  ⟨Params.Builder.bounded_empty, Nat.zero_le _, h.command, h.request, h.reader⟩

theorem closing (h : r.Unhooked) (closing : Bool) : Unhooked { r with closing } :=
  ⟨h.params, h.intermediates, h.command, h.request, h.reader⟩

theorem dropCommand (h : r.Unhooked) : r.dropCommand.Unhooked :=
  ⟨h.params, h.intermediates, Nat.zero_le _, h.request, h.reader⟩

theorem enterEscape (h : r.Unhooked) (closing : Bool) : (r.enterEscape closing).Limited :=
  (h.clear.closing closing).at_place (by decide)

theorem startCharacter (h : r.Unhooked) (b : UInt8) {missing : Nat} (hone : 1 ≤ missing)
    (hthree : missing ≤ 3) : (r.startCharacter b missing).Limited :=
  limited ⟨h.params, h.intermediates, h.command, h.request, h.reader⟩ fun _ =>
    ⟨Nat.le_refl 1, hone, by simp only [Registers.startCharacter, List.length_singleton]; omega⟩

theorem collect (h : r.Unhooked) (b : UInt8) {next ignore : Place} (hnext : next ≠ .utf8Collect)
    (hignore : ignore ≠ .utf8Collect) : (r.collect b next ignore).Limited := by
  unfold Registers.collect
  split
  · rename_i hroom
    have kept : (r.intermediates ++ [b]).length ≤ maxIntermediates := by
      rw [List.length_append, List.length_singleton]
      exact hroom
    exact at_place (r := { r with intermediates := r.intermediates ++ [b] })
      ⟨h.params, kept, h.command, h.request, h.reader⟩ hnext
  · exact at_place (r := { r with excessIntermediates := true })
      ⟨h.params, h.intermediates, h.command, h.request, h.reader⟩ hignore

theorem param (h : r.Unhooked) (b : UInt8) {next : Place} (hnext : next ≠ .utf8Collect) :
    (r.param b next).Limited :=
  at_place (r := { r with params := (r.params.push b).1 })
    ⟨h.params.push b, h.intermediates, h.command, h.request, h.reader⟩ hnext

theorem finishParams (h : r.Unhooked) : r.finishParams.Unhooked := by
  refine ⟨?_, h.intermediates, h.command, h.request, h.reader⟩
  unfold Registers.finishParams
  dsimp only
  split
  · exact h.params
  · exact h.params.commit

/-- A device control string begins, with a reader and no byte for it yet. -/
theorem hooked (h : r.Unhooked) (reader : Reader) :
    Limited { r with place := .dcsPassthrough, request := [], longRequest := false, reader } where
  params := h.params
  intermediates := h.intermediates
  command := h.command
  request := Nat.zero_le _
  setting := fun _ => Nat.zero_le _
  unhooked := fun hp => absurd rfl hp
  collecting := fun hp => Place.noConfusion hp

end Unhooked

/-- A device control string ends, and its request is dropped. -/
theorem Limited.unhook (h : r.Limited) : r.unhook.Unhooked :=
  ⟨h.params, h.intermediates, h.command, rfl, rfl⟩

/-! ## One byte -/

namespace Limited

theorem ground (h : r.Limited) (u : r.Unhooked) (b : UInt8) : (r.ground b).1.Limited := by
  unfold Registers.ground
  refine limited_ite (fun _ => u.enterEscape false) fun _ => ?_
  refine limited_ite (fun _ => h) fun _ => ?_
  refine limited_ite (fun _ => h) fun _ => ?_
  refine limited_ite (fun _ => u.startCharacter b (by decide) (by decide)) fun _ => ?_
  refine limited_ite (fun _ => u.startCharacter b (by decide) (by decide)) fun _ => ?_
  exact limited_ite (fun _ => u.startCharacter b (by decide) (by decide)) fun _ => h

theorem collectUtf8 (h : r.Limited) (u : r.Unhooked) (hplace : r.place = .utf8Collect) (b : UInt8) :
    (r.collectUtf8 b).1.Limited := by
  obtain ⟨held, missing, least, most⟩ := h.collecting hplace
  unfold Registers.collectUtf8
  refine limited_ite (fun _ => limited_ite (fun _ => ?_) fun hmore => ?_) fun _ => ?_
  · exact Unhooked.limited_of_place (p := .ground)
      ⟨u.params, u.intermediates, u.command, u.request, u.reader⟩ rfl (by decide)
  · refine Unhooked.limited ⟨u.params, u.intermediates, u.command, u.request, u.reader⟩ fun _ => ?_
    have grown : (r.character ++ [b]).length = r.character.length + 1 := by simp
    constructor <;> dsimp only <;> omega
  · have dropped : Unhooked { r with place := .ground, character := [] } :=
      ⟨u.params, u.intermediates, u.command, u.request, u.reader⟩
    exact (dropped.limited_of_place (p := .ground) rfl (by decide)).ground dropped b

theorem dispatchEscape (u : r.Unhooked) (b : UInt8) : (r.dispatchEscape b).1.Limited :=
  u.at_place (by decide)

theorem escape (h : r.Limited) (u : r.Unhooked) (b : UInt8) : (r.escape b).1.Limited := by
  have once : Unhooked { r with closing := false } := u.closing false
  have here : Limited { r with closing := false } := once.limited fun hp =>
    ⟨(h.collecting hp).held, (h.collecting hp).missing, (h.collecting hp).total⟩
  unfold Registers.escape
  refine limited_ite (fun _ => once.at_place (by decide)) fun _ => ?_
  refine limited_ite (fun _ => here) fun _ => ?_
  refine limited_ite (fun _ => once.collect b (by decide) (by decide)) fun _ => ?_
  refine limited_ite (fun _ => once.clear.at_place (by decide)) fun _ => ?_
  refine limited_ite (fun _ => once.at_place (by decide)) fun _ => ?_
  refine limited_ite (fun _ => once.clear.at_place (by decide)) fun _ => ?_
  refine limited_ite (fun _ => once.dropCommand.at_place (by decide)) fun _ => ?_
  exact limited_ite (fun _ => dispatchEscape once b) fun _ => here

theorem escapeIntermediate (h : r.Limited) (u : r.Unhooked) (b : UInt8) :
    (r.escapeIntermediate b).1.Limited := by
  unfold Registers.escapeIntermediate
  refine limited_ite (fun _ => h) fun _ => ?_
  refine limited_ite (fun _ => u.collect b (by decide) (by decide)) fun _ => ?_
  exact limited_ite (fun _ => dispatchEscape u b) fun _ => h

theorem dispatchControl (u : r.Unhooked) (b : UInt8) : (r.dispatchControl b).1.Limited :=
  u.finishParams.at_place (by decide)

theorem csiEntry (h : r.Limited) (u : r.Unhooked) (b : UInt8) : (r.csiEntry b).1.Limited := by
  have marked : Unhooked { r with marker := some b } :=
    ⟨u.params, u.intermediates, u.command, u.request, u.reader⟩
  unfold Registers.csiEntry
  refine limited_ite (fun _ => h) fun _ => ?_
  refine limited_ite (fun _ => u.collect b (by decide) (by decide)) fun _ => ?_
  refine limited_ite (fun _ => u.param b (by decide)) fun _ => ?_
  refine limited_ite (fun _ => marked.at_place (by decide)) fun _ => ?_
  exact limited_ite (fun _ => dispatchControl u b) fun _ => h

theorem csiParam (h : r.Limited) (u : r.Unhooked) (b : UInt8) : (r.csiParam b).1.Limited := by
  unfold Registers.csiParam
  refine limited_ite (fun _ => h) fun _ => ?_
  refine limited_ite (fun _ => u.param b (by decide)) fun _ => ?_
  refine limited_ite (fun _ => u.at_place (by decide)) fun _ => ?_
  refine limited_ite (fun _ => u.collect b (by decide) (by decide)) fun _ => ?_
  exact limited_ite (fun _ => dispatchControl u b) fun _ => h

theorem csiIntermediate (h : r.Limited) (u : r.Unhooked) (b : UInt8) :
    (r.csiIntermediate b).1.Limited := by
  unfold Registers.csiIntermediate
  refine limited_ite (fun _ => h) fun _ => ?_
  refine limited_ite (fun _ => u.collect b (by decide) (by decide)) fun _ => ?_
  refine limited_ite (fun _ => u.at_place (by decide)) fun _ => ?_
  exact limited_ite (fun _ => dispatchControl u b) fun _ => h

theorem csiIgnore (h : r.Limited) (u : r.Unhooked) (b : UInt8) : (r.csiIgnore b).1.Limited := by
  unfold Registers.csiIgnore
  refine limited_ite (fun _ => h) fun _ => ?_
  exact limited_ite (fun _ => u.at_place (by decide)) fun _ => h

theorem hook (u : r.Unhooked) (b : UInt8) : (r.hook b).1.Limited := by
  have opened := u.finishParams.hooked
  unfold Registers.hook
  refine limited_ite (fun _ => opened .image) fun _ => ?_
  refine limited_ite (fun _ => opened .setting) fun _ => ?_
  refine limited_ite (fun _ => opened .capabilities) fun _ => ?_
  exact limited_ite (fun _ => opened _) fun _ => opened .discard

theorem dcsEntry (h : r.Limited) (u : r.Unhooked) (b : UInt8) : (r.dcsEntry b).1.Limited := by
  have marked : Unhooked { r with marker := some b } :=
    ⟨u.params, u.intermediates, u.command, u.request, u.reader⟩
  unfold Registers.dcsEntry
  refine limited_ite (fun _ => u.collect b (by decide) (by decide)) fun _ => ?_
  refine limited_ite (fun _ => u.at_place (by decide)) fun _ => ?_
  refine limited_ite (fun _ => u.param b (by decide)) fun _ => ?_
  refine limited_ite (fun _ => marked.at_place (by decide)) fun _ => ?_
  exact limited_ite (fun _ => hook u b) fun _ => h

theorem dcsParam (h : r.Limited) (u : r.Unhooked) (b : UInt8) : (r.dcsParam b).1.Limited := by
  unfold Registers.dcsParam
  refine limited_ite (fun _ => u.at_place (by decide)) fun _ => ?_
  refine limited_ite (fun _ => u.param b (by decide)) fun _ => ?_
  refine limited_ite (fun _ => u.collect b (by decide) (by decide)) fun _ => ?_
  exact limited_ite (fun _ => hook u b) fun _ => h

theorem dcsIntermediate (h : r.Limited) (u : r.Unhooked) (b : UInt8) :
    (r.dcsIntermediate b).1.Limited := by
  unfold Registers.dcsIntermediate
  refine limited_ite (fun _ => u.collect b (by decide) (by decide)) fun _ => ?_
  refine limited_ite (fun _ => u.at_place (by decide)) fun _ => ?_
  exact limited_ite (fun _ => hook u b) fun _ => h

/-- A request takes a byte as long as it is shorter than its limit. -/
theorem pushRequest (h : r.Limited) (hplace : r.place = .dcsPassthrough) (b : UInt8) {limit : Nat}
    (hlimit : limit ≤ maxCapabilities) (hsetting : r.reader = .setting → limit ≤ maxSetting) :
    (r.pushRequest b limit).Limited := by
  have outside {p : Prop} (hp : r.place ≠ .dcsPassthrough) : p := absurd hplace hp
  have no_character {p : Prop} (hp : r.place = .utf8Collect) : p :=
    absurd (hplace.symm.trans hp) (by decide)
  unfold Registers.pushRequest
  split
  · exact h
  · split
    · rename_i hroom
      have grown : (r.request ++ [b]).length ≤ limit := by
        rw [List.length_append, List.length_singleton]
        exact hroom
      exact ⟨h.params, h.intermediates, h.command, Nat.le_trans grown hlimit,
        fun hreader => Nat.le_trans grown (hsetting hreader), outside, no_character⟩
    · exact ⟨h.params, h.intermediates, h.command, h.request, h.setting, h.unhooked, no_character⟩

theorem put (h : r.Limited) (hplace : r.place = .dcsPassthrough) (b : UInt8) :
    (r.put b).1.Limited := by
  unfold Registers.put
  split
  · exact h
  · exact h
  · exact h
  · exact h
  · dsimp only
    split
    · exact h.pushRequest hplace b (by decide) fun _ => Nat.le_refl _
    · exact h
  · rename_i hreader
    exact h.pushRequest hplace b (Nat.le_refl _) fun hsetting =>
      absurd (hreader.symm.trans hsetting) (by decide)

theorem dcsPassthrough (h : r.Limited) (hplace : r.place = .dcsPassthrough) (b : UInt8) :
    (r.dcsPassthrough b).1.Limited := by
  unfold Registers.dcsPassthrough
  refine limited_ite (fun _ => h.unhook.at_place (by decide)) fun _ => ?_
  refine limited_ite (fun _ => h.unhook.enterEscape true) fun _ => ?_
  refine limited_ite (fun _ => h.put hplace b) fun _ => ?_
  exact limited_ite (fun _ => h.unhook.at_place (by decide)) fun _ => h

theorem oscString (h : r.Limited) (u : r.Unhooked) (hplace : r.place = .oscString) (b : UInt8) :
    (r.oscString b).1.Limited := by
  unfold Registers.oscString
  refine limited_ite (fun _ => u.dropCommand.at_place (by decide)) fun _ => ?_
  refine limited_ite (fun _ => u.dropCommand.at_place (by decide)) fun _ => ?_
  refine limited_ite (fun _ => u.dropCommand.enterEscape true) fun _ => ?_
  refine limited_ite (fun _ => h) fun _ => ?_
  refine limited_ite (fun hroom => ?_) fun _ => ?_
  · have grown : (r.command ++ [b]).length ≤ maxCommand := by
      rw [List.length_append, List.length_singleton]
      exact hroom
    exact Unhooked.limited_of_place ⟨u.params, u.intermediates, grown, u.request, u.reader⟩ hplace
      (by decide)
  · exact Unhooked.limited_of_place ⟨u.params, u.intermediates, u.command, u.request,
      u.reader⟩ hplace (by decide)

theorem sosPmApcString (h : r.Limited) (u : r.Unhooked) (b : UInt8) :
    (r.sosPmApcString b).1.Limited := by
  unfold Registers.sosPmApcString
  refine limited_ite (fun _ => u.at_place (by decide)) fun _ => ?_
  exact limited_ite (fun _ => u.enterEscape true) fun _ => h

theorem anywhere (u : r.Unhooked) (b : UInt8) (closing : Bool) {rest : Registers × List Action}
    (hrest : rest.1.Limited) : (r.anywhere b closing rest).1.Limited := by
  unfold Registers.anywhere
  refine limited_ite (fun _ => u.at_place (by decide)) fun _ => ?_
  refine limited_ite (fun _ => u.enterEscape closing) fun _ => ?_
  exact limited_ite (fun _ => u.at_place (by decide)) fun _ => hrest

/-- A byte never makes the registers hold more than they may. -/
theorem step (h : r.Limited) (b : UInt8) : (r.step b).1.Limited := by
  have unhooked {place : Place} (hplace : r.place = place) (hother : place ≠ .dcsPassthrough) :
      r.Unhooked := h.toUnhooked hplace hother
  unfold Registers.step
  split
  · rename_i hplace
    exact h.ground (unhooked hplace (by decide)) b
  · rename_i hplace
    exact h.collectUtf8 (unhooked hplace (by decide)) hplace b
  · rename_i hplace
    exact h.oscString (unhooked hplace (by decide)) hplace b
  · rename_i hplace
    exact h.sosPmApcString (unhooked hplace (by decide)) b
  · rename_i hplace
    exact h.dcsPassthrough hplace b
  · rename_i hplace
    have u := unhooked hplace (by decide)
    exact anywhere u b false (h.escape u b)
  · rename_i hplace
    have u := unhooked hplace (by decide)
    exact anywhere u b false (h.escapeIntermediate u b)
  · rename_i hplace
    have u := unhooked hplace (by decide)
    exact anywhere u b false (h.csiEntry u b)
  · rename_i hplace
    have u := unhooked hplace (by decide)
    exact anywhere u b false (h.csiParam u b)
  · rename_i hplace
    have u := unhooked hplace (by decide)
    exact anywhere u b false (h.csiIntermediate u b)
  · rename_i hplace
    have u := unhooked hplace (by decide)
    exact anywhere u b false (h.csiIgnore u b)
  · rename_i hplace
    have u := unhooked hplace (by decide)
    exact anywhere u b true (h.dcsEntry u b)
  · rename_i hplace
    have u := unhooked hplace (by decide)
    exact anywhere u b true (h.dcsParam u b)
  · rename_i hplace
    have u := unhooked hplace (by decide)
    exact anywhere u b true (h.dcsIntermediate u b)
  · rename_i hplace
    have u := unhooked hplace (by decide)
    exact anywhere u b true h

end Limited

/-! ## Runs -/

theorem limited_new : ({} : Registers).Limited :=
  Unhooked.limited_of_place (p := .ground)
    ⟨Params.Builder.bounded_empty, Nat.zero_le _, Nat.zero_le _, rfl, rfl⟩ rfl (by decide)

theorem Limited.feed (h : r.Limited) (bytes : List UInt8) : (r.feed bytes).1.Limited := by
  induction bytes generalizing r with
  | nil => exact h
  | cons b bytes ih => exact ih (h.step b)

theorem limited_afterPieces (pieces : Pieces) : (afterPieces pieces).Limited := by
  have run (r : Registers) (h : r.Limited) :
      (pieces.foldl (fun r piece => ({ r with sixel := piece.1 }.feed piece.2).1) r).Limited := by
    induction pieces generalizing r with
    | nil => exact h
    | cons piece pieces ih =>
      have switched : Limited { r with sixel := piece.1 } :=
        ⟨h.params, h.intermediates, h.command, h.request, h.setting, h.unhooked, fun hp =>
          ⟨(h.collecting hp).held, (h.collecting hp).missing, (h.collecting hp).total⟩⟩
      exact ih _ (switched.feed piece.2)
  exact run {} limited_new

/-- A byte that continues a character is counted once, so the count of those missing never runs
below zero. -/
theorem missing_step (h : r.Limited) (hplace : r.place = .utf8Collect) {b : UInt8}
    (hb : Text.Utf8.isContinuation b = true) : (r.step b).1.missing + 1 = r.missing := by
  have missing := (h.collecting hplace).missing
  have step : r.step b = r.collectUtf8 b := by rw [Registers.step, hplace]
  rw [step, Registers.collectUtf8, if_pos hb]
  split <;> exact Nat.sub_add_cancel missing

end Registers

/-- The handler of a device control string holds no more than it may. -/
def Handler.Limited : Handler → Prop
  | .setting name => name.size ≤ maxSetting
  | .capabilities names _ => names.size ≤ maxCapabilities
  | .discard | .beginSync | .endSync | .image => True

/-- A state is bounded, and so are a device control request and a character that it holds in
part. -/
structure State.Limited (s : State) : Prop where
  bounded : s.Bounded
  handler : ∀ handler, s = .dcsPassthrough handler → handler.Limited
  character : ∀ bytes missing, s = .utf8Collect bytes missing →
    1 ≤ bytes.length ∧ 1 ≤ missing ∧ 2 ≤ bytes.length + missing ∧ bytes.length + missing ≤ 4

theorem Handler.HeldBy.limited {r : Registers} {handler : Handler} (h : handler.HeldBy r)
    (hr : r.Limited) : handler.Limited := by
  cases handler with
  | setting name =>
    obtain ⟨reader, request, -⟩ := h
    rw [Handler.Limited, ← name.length_toList, ← request]
    exact hr.setting reader
  | capabilities names excess =>
    obtain ⟨-, request, -⟩ := h
    rw [Handler.Limited, ← names.length_toList, ← request]
    exact hr.request
  | discard | beginSync | endSync | image => trivial

/-- What a state holds is in the registers that stand for it. -/
theorem Holds.limited {sixel : Bool} {r : Registers} {s : State} (h : Holds sixel r s)
    (hr : r.Limited) : s.Limited := by
  have held := h.held
  refine ⟨?_, fun handler hs => ?_, fun bytes missing hs => ?_⟩
  · have header : r.header.Bounded := ⟨hr.params, hr.intermediates⟩
    cases s with
    | escapeIntermediate intermediates excess =>
      obtain ⟨rfl, -⟩ := held
      exact hr.intermediates
    | csiParam | csiIntermediate | dcsParam | dcsIntermediate =>
      obtain rfl := show r.header = _ from held
      exact header
    | oscString data excess =>
      rw [State.Bounded, ← data.length_toList, ← held.1]
      exact hr.command
    | utf8Collect bytes missing =>
      obtain ⟨rfl, rfl⟩ := held
      have collecting := hr.collecting h.place
      exact ⟨collecting.total.2, collecting.missing⟩
    | ground | escape | csiEntry | csiIgnore | dcsEntry | dcsPassthrough | dcsIgnore
    | sosPmApcString =>
      trivial
  · rw [hs] at held
    exact Handler.HeldBy.limited held hr
  · have collecting := hr.collecting (h.place.trans (congrArg State.place hs))
    rw [hs] at held
    obtain ⟨rfl, rfl⟩ := held
    exact ⟨collecting.held, collecting.missing, collecting.total⟩

/-- Whatever a new decoder has read, its state and the registers that stand for it stay within the
limits. Outside of a device control string no request is held and no reader is chosen, and every
byte that a character still lacks is counted. -/
theorem afterPieces_within_limits (pieces : Pieces) :
    let d := Decoder.afterPieces pieces
    let r := Registers.afterPieces pieces
    Holds d.sixel r d.state ∧ d.state.Limited ∧ r.Limited ∧
      (d.state.place ≠ .dcsPassthrough →
        d.state.requestSize = 0 ∧ r.request = [] ∧ r.reader = .discard) ∧
      ∀ b, r.place = .utf8Collect → Text.Utf8.isContinuation b = true →
        (r.step b).1.missing + 1 = r.missing := by
  intro d r
  have holds : Holds d.sixel r d.state := holds_afterPieces pieces
  have limited : r.Limited := Registers.limited_afterPieces pieces
  refine ⟨holds, holds.limited limited, limited, fun hplace => ⟨?_, ?_⟩, fun b hplace hb => ?_⟩
  · cases hs : d.state with
    | dcsPassthrough handler =>
      rw [hs] at hplace
      exact absurd rfl hplace
    | _ => rfl
  · exact limited.unhooked (holds.place ▸ hplace)
  · exact Registers.missing_step limited hplace hb

end Teletype.Control
