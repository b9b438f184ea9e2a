import Teletype.Proofs.Control.Bounded
import Teletype.Proofs.Machine.Word

/-!
# Reading output in machine words

What each byte makes the decoder compute: places in its arrays, which are of a fixed size, and
numbers in words. Within the bounds that a state keeps all of it can be computed.
-/

namespace Teletype.Control

open Machine

namespace Params.Builder

/-- The number that was read goes to the last parameter or to its last sub-parameter. -/
def commitSteps (b : Builder) : Option Unit :=
  when (¬b.dropParam ∧ b.items ≠ []) do
    index (← sub b.items.length 1) maxCount
    let subs := (b.items.headD {}).subs.length
    when (b.inSub ∧ ¬b.dropSub ∧ 0 < subs) do index (← sub subs 1) maxSubs

def digitSteps (b : Builder) (byte : UInt8) : Option Unit := do
  let digit ← sub byte.toNat 0x30
  forget (add .u32 (← mul .u32 b.value 10) digit)

/-- A colon adds a sub-parameter to the last parameter, if there is room. -/
def colonSteps (b : Builder) : Option Unit :=
  when (¬b.dropParam) do
    index (← sub b.items.length 1) maxCount
    let subs := (b.items.headD {}).subs.length
    when (subs ≠ maxSubs) (forget (add .u8 subs 1))

def semicolonSteps (b : Builder) : Option Unit :=
  when (¬b.dropParam ∧ b.items.length ≠ maxCount) (forget (add .u8 b.items.length 1))

def pushSteps (b : Builder) (byte : UInt8) : Option Unit :=
  if 0x30 ≤ byte && byte ≤ 0x39 then b.digitSteps byte
  else do
    b.opened.commitSteps
    if byte = 0x3a then b.opened.commit.colonSteps else b.opened.commit.semicolonSteps

variable {b : Builder}

theorem length_headD_subs (h : b.Bounded) : (b.items.headD {}).subs.length ≤ maxSubs := by
  cases hitems : b.items with
  | nil => exact Nat.zero_le _
  | cons item rest => exact h.kept.2 item (hitems ▸ List.mem_cons_self)

theorem lastItem_eq (h : b.Bounded) (hne : b.items ≠ []) {next : Option Unit}
    (hnext : next = some ()) : (do index (← sub b.items.length 1) maxCount; next) = some () := by
  have pos : 0 < b.items.length := List.length_pos_iff.2 hne
  have count := h.kept.1
  exact bind_eq (sub_of_le pos) (bind_eq (index_of_lt (by omega)) hnext)

theorem commitSteps_eq (h : b.Bounded) : b.commitSteps = some () := by
  have subs := length_headD_subs h
  refine when_of_imp fun ⟨_, hne⟩ => lastItem_eq h hne (when_of_imp fun ⟨_, _, hsubs⟩ => ?_)
  exact bind_eq (sub_of_le hsubs) (index_of_lt (by omega))

theorem digitSteps_eq (h : b.Bounded) {byte : UInt8} (hbyte : 0x30 ≤ byte) :
    b.digitSteps byte = some () := by
  have value : b.value ≤ 65536 := h.value_le
  have digit := byte.toNat_lt
  refine bind_eq (sub_of_le hbyte) (bind_eq (mul_u32 (by omega)) ?_)
  exact forget_of_eq (add_u32 (by omega))

theorem colonSteps_eq (h : b.Bounded) (hne : b.items ≠ []) : b.colonSteps = some () := by
  have subs : (b.items.headD {}).subs.length ≤ 8 := length_headD_subs h
  exact when_of_imp
    fun _ => lastItem_eq h hne (when_of_imp fun _ => forget_of_eq (add_u8 (by omega)))

theorem semicolonSteps_eq (h : b.Bounded) : b.semicolonSteps = some () := by
  have count : b.items.length ≤ 16 := h.kept.1
  exact when_of_imp fun _ => forget_of_eq (add_u8 (by omega))

theorem pushSteps_eq (h : b.Bounded) (byte : UInt8) : b.pushSteps byte = some () := by
  unfold pushSteps
  split
  · rename_i hdigit
    simp only [Bool.and_eq_true, decide_eq_true_eq] at hdigit
    exact digitSteps_eq h hdigit.1
  · refine bind_eq (commitSteps_eq h.opened) ?_
    split
    · refine colonSteps_eq h.opened.commit fun hnil => opened_ne_nil b ?_
      rw [← List.length_eq_zero_iff, ← length_commit, hnil]
      rfl
    · exact semicolonSteps_eq h.opened.commit

end Params.Builder

/-- An intermediate byte goes into the next place, if there is one. -/
def collectSteps (count : Nat) : Option Unit :=
  when (count < maxIntermediates) do
    index count maxIntermediates
    forget (add .u8 count 1)

/-- The first byte of a character goes into the first of four places. -/
def groundSteps (b : UInt8) : Option Unit := when (0xc2 ≤ b ∧ b ≤ 0xf4) (index 0 4)

/-- The next byte of a character. The last one completes it. -/
def utf8Steps (bytes : List UInt8) (missing : Nat) (b : UInt8) : Option Unit :=
  if Text.Utf8.isContinuation b then do
    index bytes.length 4
    let size ← add .u8 bytes.length 1
    let left ← sub missing 1
    when (left = 0) (slice 0 size 4)
  else groundSteps b

/-- An intermediate byte of a sequence, or its end, which looks at what was collected. -/
def headerSteps (header : Header) (b : UInt8) : Option Unit := do
  when (isIntermediate b) (collectSteps header.intermediates.length)
  when (isFinal b) do
    header.params.commitSteps
    slice 0 header.params.finish.items.length Params.maxCount
    slice 0 header.intermediates.length maxIntermediates

/-- A byte of a sequence that may still have parameters. -/
def paramSteps (header : Header) (b : UInt8) : Option Unit := do
  when (isParam b) (header.params.pushSteps b)
  headerSteps header b

/-- A colon breaks off a device control string. -/
def dcsParamSteps (header : Header) (b : UInt8) : Option Unit :=
  when (b ≠ 0x3a) (paramSteps header b)

/-- The memory for a request is doubled from 128 bytes up to a limit. -/
def growSteps (size limit : Nat) : Option Unit :=
  when (size < limit) do
    let doubled ← mul .usize size 2
    forget (sub (min (max doubled 128) limit) size)

def Handler.putSteps : Handler → Option Unit
  | .setting name => growSteps name.size maxSetting
  | .capabilities names excess => when (¬excess) (growSteps names.size maxCapabilities)
  | _ => some ()

def transitionSteps (b : UInt8) : State → Option Unit
  | .ground => groundSteps b
  | .utf8Collect bytes missing => utf8Steps bytes missing b
  | .escape _ => when (isIntermediate b) (collectSteps 0)
  | .escapeIntermediate intermediates _ =>
    when (isIntermediate b) (collectSteps intermediates.length)
  | .csiEntry => paramSteps {} b
  | .csiParam header => paramSteps header b
  | .dcsEntry => dcsParamSteps {} b
  | .dcsParam header => dcsParamSteps header b
  | .csiIntermediate header | .dcsIntermediate header => headerSteps header b
  | .dcsPassthrough handler => handler.putSteps
  | .csiIgnore | .dcsIgnore | .oscString .. | .sosPmApcString => some ()

theorem collectSteps_eq (count : Nat) : collectSteps count = some () := by
  refine when_of_imp fun (h : count < 2) => ?_
  exact bind_eq (index_of_lt h) (forget_of_eq (add_u8 (by omega)))

theorem groundSteps_eq (b : UInt8) : groundSteps b = some () :=
  when_of_imp fun _ => index_of_lt (by decide)

theorem utf8Steps_eq {bytes : List UInt8} {missing : Nat}
    (h : bytes.length + missing ≤ 4 ∧ 1 ≤ missing) (b : UInt8) :
    utf8Steps bytes missing b = some () := by
  unfold utf8Steps
  split
  · refine bind_eq (index_of_lt (by omega)) (bind_eq (add_u8 (by omega)) ?_)
    refine bind_eq (sub_of_le h.2) (when_of_imp fun _ => ?_)
    exact slice_of_le (by omega) (by omega)
  · exact groundSteps_eq b

theorem headerSteps_eq {header : Header} (h : header.Bounded) (b : UInt8) :
    headerSteps header b = some () := by
  refine bind_eq (when_of_imp fun _ => collectSteps_eq _) ?_
  refine when_of_imp fun _ => bind_eq (Params.Builder.commitSteps_eq h.params) ?_
  refine bind_eq (slice_of_le (Nat.zero_le _) h.params.finish.1) ?_
  exact slice_of_le (Nat.zero_le _) h.intermediates

theorem paramSteps_eq {header : Header} (h : header.Bounded) (b : UInt8) :
    paramSteps header b = some () :=
  bind_eq (when_of_imp fun _ => Params.Builder.pushSteps_eq h.params b) (headerSteps_eq h b)

theorem dcsParamSteps_eq {header : Header} (h : header.Bounded) (b : UInt8) :
    dcsParamSteps header b = some () :=
  when_of_imp fun _ => paramSteps_eq h b

theorem growSteps_eq {size limit : Nat} (hlimit : limit ≤ 4096) : growSteps size limit = some () :=
  when_of_imp fun _ =>
    bind_eq (if_pos (show size * 2 ≤ 18446744073709551615 by omega))
      (forget_of_eq (sub_of_le (by omega)))

theorem putSteps_eq (handler : Handler) : handler.putSteps = some () := by
  cases handler with
  | setting name => exact growSteps_eq (by decide)
  | capabilities names excess => exact when_of_imp fun _ => growSteps_eq (Nat.le_refl _)
  | discard | beginSync | endSync | image => rfl

theorem transitionSteps_eq {s : State} (h : s.Bounded) (b : UInt8) :
    transitionSteps b s = some () := by
  cases s with
  | ground => exact groundSteps_eq b
  | utf8Collect bytes missing => exact utf8Steps_eq h b
  | escape closing => exact when_of_imp fun _ => collectSteps_eq 0
  | escapeIntermediate intermediates excess => exact when_of_imp fun _ => collectSteps_eq _
  | csiEntry => exact paramSteps_eq Header.bounded_empty b
  | csiParam header => exact paramSteps_eq h b
  | dcsEntry => exact dcsParamSteps_eq Header.bounded_empty b
  | dcsParam header => exact dcsParamSteps_eq h b
  | csiIntermediate header | dcsIntermediate header => exact headerSteps_eq h b
  | dcsPassthrough handler => exact putSteps_eq handler
  | csiIgnore | dcsIgnore | oscString data excess | sosPmApcString => rfl

namespace Decoder

/-- Reads one byte and adds what it completes. -/
def checkedAdvance (run : Decoder × Array Action) (b : UInt8) :
    Option (Decoder × Array Action) := do
  transitionSteps b run.1.state
  return advance run b

def checkedFeed (d : Decoder) (bytes : List UInt8) : Option (Decoder × Array Action) :=
  bytes.foldlM checkedAdvance (d, #[])

theorem checkedFeed_eq {d : Decoder} (h : d.state.Bounded) (bytes : List UInt8) :
    d.checkedFeed bytes = some (d.feed bytes) :=
  (foldlM_eq (fun _ (run : Decoder × Array Action) => run.1.state.Bounded)
    (fun _ b _ hrun => ⟨bind_eq (transitionSteps_eq hrun b) rfl, (bounded_step hrun b).1⟩) h).1

end Decoder

end Teletype.Control
