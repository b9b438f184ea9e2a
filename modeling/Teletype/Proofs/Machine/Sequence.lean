import Mathlib.Data.List.TakeDrop
import Teletype.Proofs.Machine.Decoder
import Teletype.Proofs.Reply.Size
import Teletype.Sgr
import Teletype.Terminal.Command
import Teletype.Terminal.OperatingCommand

/-!
# Reading sequences in machine words

What a terminal computes to read the parameters of a sequence, the parts of a command and the names
in a request, and to write a setting. The decoder bounds all that is read.
-/

namespace Teletype

open Machine

/-! ## Renditions -/

namespace Rendition

open Control (Param Params)

/-- A base colour is counted from the first one of its kind. -/
def selectOneSteps (n : Nat) : Option Unit :=
  if 30 ≤ n && n ≤ 37 then forget (sub n 30)
  else if 40 ≤ n && n ≤ 47 then forget (sub n 40)
  else if 90 ≤ n && n ≤ 97 then do
    let bright ← sub n 90
    forget (add .u16 bright 8)
  else
    when (100 ≤ n ∧ n ≤ 107) do
      let bright ← sub n 100
      forget (add .u16 bright 8)

/-- A colour without sub-parameters is read from the places after a parameter, if there are
enough. -/
def extendedColorSteps (p : Param) (i count : Nat) : Option Unit :=
  when p.subs.isEmpty do
    let left ← sub count i
    let remaining ← sub left 1
    forget (add .usize i 1)
    when (2 ≤ remaining) (forget (add .usize i 2))
    when (4 ≤ remaining) do
      forget (add .usize i 3)
      forget (add .usize i 4)

/-- Reads the parameters from a place on. -/
def selectSteps (count i : Nat) (items : List Param) : Option Unit :=
  match items with
  | [] => some ()
  | p :: rest => do
    let taken ←
      (if isIntroducer p.value then do
        extendedColorSteps p i count
        return ((extendedColor? p rest).map Prod.snd).getD 0
      else do
        selectOneSteps p.value
        return 0 : Option Nat)
    let step ← add .usize 1 taken
    let next ← add .usize i step
    selectSteps count next (rest.drop taken)
termination_by items.length
decreasing_by simp only [List.length_cons, List.length_drop]; omega

/-- Writes a base colour. -/
def colorParamSteps (color : Color) (base bright : Nat) : Option Unit :=
  match color with
  | .named n =>
    if 8 ≤ n.toNat then do
      let sum ← add .u16 bright n.toNat
      forget (sub sum 8)
    else forget (add .u16 base n.toNat)
  | _ => some ()

theorem selectOneSteps_eq (n : Nat) : selectOneSteps n = some () := by
  unfold selectOneSteps
  simp only [Bool.and_eq_true, decide_eq_true_eq]
  split
  · exact forget_of_eq (sub_of_le (by omega))
  · split
    · exact forget_of_eq (sub_of_le (by omega))
    · split
      · exact bind_eq (sub_of_le (by omega)) (forget_of_eq (add_u16 (by omega)))
      · refine when_of_imp fun _ => ?_
        exact bind_eq (sub_of_le (by omega)) (forget_of_eq (add_u16 (by omega)))

theorem extendedColorSteps_eq (p : Param) {i count : Nat} (h : i < count)
    (hcount : count ≤ Params.maxCount) : extendedColorSteps p i count = some () := by
  have hmost : count ≤ 16 := hcount
  refine when_of_imp fun _ => bind_eq (sub_of_le (by omega)) (bind_eq (sub_of_le (by omega)) ?_)
  refine bind_eq (forget_of_eq (add_usize (by omega))) ?_
  refine bind_eq (when_of_imp fun _ => forget_of_eq (add_usize (by omega))) ?_
  refine when_of_imp fun _ => bind_eq (forget_of_eq (add_usize (by omega))) ?_
  exact forget_of_eq (add_usize (by omega))

/-- A colour takes no more parameters than there are. -/
theorem extendedColor_le {p : Param} {rest : List Param} {color : Color} {taken : Nat}
    (h : extendedColor? p rest = some (color, taken)) : taken ≤ rest.length := by
  unfold extendedColor? at h
  split at h
  · have hlength : (rest.map Param.value).length = rest.length := List.length_map ..
    rw [← hlength]
    generalize rest.map Param.value = values at h ⊢
    unfold colorOfParams? at h
    split at h
    · obtain ⟨-, rfl⟩ := Prod.mk.inj (Option.some.inj h)
      exact Nat.le_add_left 2 _
    · obtain ⟨-, rfl⟩ := Prod.mk.inj (Option.some.inj h)
      exact Nat.le_add_left 4 _
    · exact absurd h (by simp)
  · obtain ⟨color', -, heq⟩ := Option.map_eq_some_iff.1 h
    obtain ⟨-, rfl⟩ := Prod.mk.inj heq
    exact Nat.zero_le _

/-- The place and what is left to read make up the parameters, whatever a parameter takes. -/
theorem selectSteps_eq {count i : Nat} {items : List Param} (h : i + items.length = count)
    (hcount : count ≤ Params.maxCount) : selectSteps count i items = some () := by
  have hmost : count ≤ 16 := hcount
  match items with
  | [] => rw [selectSteps]
  | p :: rest =>
    rw [List.length_cons] at h
    have go (taken : Nat) (htaken : taken ≤ rest.length) : (do
        let step ← add .usize 1 taken
        let next ← add .usize i step
        selectSteps count next (rest.drop taken)) = some () := by
      refine bind_eq (add_usize (by omega)) (bind_eq (add_usize (by omega)) ?_)
      have left := List.length_drop (i := taken) (l := rest)
      exact selectSteps_eq (by omega) hcount
    rw [selectSteps]
    split
    · refine bind_eq (bind_eq (extendedColorSteps_eq p (by omega) hcount) rfl) (go _ ?_)
      cases hcolor : extendedColor? p rest with
      | none => exact Nat.zero_le _
      | some found => exact extendedColor_le hcolor
    · exact bind_eq (bind_eq (selectOneSteps_eq _) rfl) (go 0 (Nat.zero_le _))
termination_by items.length
decreasing_by simp only [List.length_cons, List.length_drop]; omega

theorem colorParamSteps_eq (color : Color) {base bright : Nat} (hbase : base ≤ 100)
    (hbright : bright ≤ 100) : colorParamSteps color base bright = some () := by
  cases color with
  | named n =>
    have := n.toNat_lt
    unfold colorParamSteps
    dsimp only
    split
    · exact bind_eq (add_u16 (by omega)) (forget_of_eq (sub_of_le (by omega)))
    · exact forget_of_eq (add_u16 (by omega))
  | default | indexed | rgb => rfl

end Rendition

/-- Writes a setting into a reply, which has seven bytes more. -/
def Setting.steps (setting : Setting) : Option Unit := do
  (match setting with
    | .rendition r => do
      Rendition.colorParamSteps r.foreground 30 90
      Rendition.colorParamSteps r.background 40 100
    | .region _ _ => some ()
    | .cursorStyle shape blink => when blink (forget (sub (shape.param false) 1)) : Option Unit)
  forget (add .usize (Text.Utf8.size setting.selector) 7)

theorem Setting.steps_eq {setting : Setting}
    (h : ∀ top bottom, setting = .region top bottom → top < 100000 ∧ bottom < 100000) :
    setting.steps = some () := by
  have hsize := size_settingSelector h
  refine bind_eq (a := ()) ?_ (forget_of_eq (add_usize (by omega)))
  cases setting with
  | rendition r =>
    exact bind_eq (Rendition.colorParamSteps_eq _ (by decide) (by decide))
      (Rendition.colorParamSteps_eq _ (by decide) (by decide))
  | region top bottom => rfl
  | cursorStyle shape blink =>
    refine when_of_imp fun _ => forget_of_eq (sub_of_le ?_)
    cases shape <;> decide

/-! ## Names and commands -/

namespace Control

open Text Terminal

/-- Reads a hexadecimal digit. -/
def digitSteps (b : UInt8) : Option Unit :=
  if 0x30 ≤ b && b ≤ 0x39 then forget (sub b.toNat 0x30)
  else if 0x61 ≤ b && b ≤ 0x66 then do
    let digit ← sub b.toNat 0x61
    forget (add .u8 digit 10)
  else
    when (0x41 ≤ b ∧ b ≤ 0x46) do
      let digit ← sub b.toNat 0x41
      forget (add .u8 digit 10)

/-- Reads pairs of digits. -/
def pairSteps : List UInt8 → Option Unit
  | high :: low :: rest => do
    index 0 2
    digitSteps high
    index 1 2
    digitSteps low
    pairSteps rest
  | _ => some ()

/-- Reads the hexadecimal name of a capability. -/
def nameSteps (name : List UInt8) : Option Unit := do
  let odd ← rem name.length 2
  when (odd = 0) (pairSteps name)

/-- Cuts bytes at the first separator, or at their end. -/
def cutSteps (bytes : List UInt8) : Option Unit :=
  match bytes.findIdx? (· = 0x3b) with
  | some i => do
    slice 0 i bytes.length
    let after ← add .usize i 1
    slice after bytes.length bytes.length
  | none => slice bytes.length bytes.length bytes.length

/-- Looks for an escape at each place of a path. -/
def percentSteps (path : List UInt8) : Option Unit :=
  (List.range path.length).forM fun i => do
    index i path.length
    let last ← add .usize i 2
    when (last < path.length) do
      let next ← add .usize i 1
      index next path.length
      index last path.length
    forget (add .usize i 3)

/-- Looks up an entry of the palette. -/
def entrySteps (number : List UInt8) : Option Unit :=
  match number? number with
  | some i => when (i < 256) (index i 256)
  | none => some ()

/-- Takes three of the channels that the slashes of a specification separate. -/
def channelSteps (spec : List UInt8) : Option Unit :=
  let channels (start : String) := ((after? (Utf8.encode start) spec).map (splitAt 0x2f)).getD []
  let take (count : Nat) (parts : List (List UInt8)) :=
    when (parts.length = count) ([0, 1, 2].forM (index · parts.length))
  do
    take 4 (channels "rgba:")
    take 3 (channels "rgb:")

/-- Reads what follows the number of a command. The text of an address may be longer than its
bytes. -/
def payloadSteps (number : Nat) (payload : List UInt8) : Option Unit :=
  match number with
  | 4 =>
    (splitAt 0x3b payload).forM fun part => do
      entrySteps part
      channelSteps part
  | 7 =>
    match fileAddress? (Utf8.decodeLenient payload).toList with
    | some (_, path) => percentSteps (Utf8.encode (String.ofList path))
    | none => some ()
  | 8 | 52 => cutSteps payload
  | 10 | 11 | 12 => channelSteps payload
  | 104 => (splitAt 0x3b payload).forM entrySteps
  | _ => some ()

def commandSteps (data : List UInt8) : Option Unit := do
  cutSteps data
  let (digits, payload) := (cutAt? 0x3b data).getD (data, [])
  match number? digits with
  | some number => payloadSteps number payload
  | none => some ()

/-- The intermediate bytes are read from their array; one of them may be the number of a slot. -/
def EscapeSequence.steps (s : EscapeSequence) : Option Unit := do
  slice 0 s.intermediates.length maxIntermediates
  s.intermediates.forM fun b => when (Command.slotOf? b).isSome (forget (sub b.toNat 0x28))

/-- Parameters and intermediate bytes are read from their arrays. A row or a column is counted from
1. -/
def ControlSequence.steps (s : ControlSequence) : Option Unit := do
  slice 0 s.params.items.length Params.maxCount
  s.params.items.forM fun item => slice 0 item.subs.length Params.maxSubs
  slice 0 s.intermediates.length maxIntermediates
  forget (sub s.params.count 1)
  forget (sub (s.params.get 1 1) 1)
  when (s.final = 0x6d) (Rendition.selectSteps s.params.items.length 0 s.params.items)

/-- Reads what an action carries. -/
def Action.steps : Action → Option Unit
  | .escape s => s.steps
  | .control s => s.steps
  | .command data _ => commandSteps data
  | .request (.capabilities names) => (splitAt 0x3b names).forM nameSteps
  | _ => some ()

theorem digitSteps_eq (b : UInt8) : digitSteps b = some () := by
  have := b.toNat_lt
  unfold digitSteps
  simp only [Bool.and_eq_true, decide_eq_true_eq]
  split
  · rename_i h
    exact forget_of_eq (sub_of_le h.1)
  · split
    · rename_i h
      exact bind_eq (sub_of_le h.1) (forget_of_eq (add_u8 (by omega)))
    · exact when_of_imp fun h => bind_eq (sub_of_le h.1) (forget_of_eq (add_u8 (by omega)))

theorem pairSteps_eq (name : List UInt8) : pairSteps name = some () := by
  induction name using pairSteps.induct with
  | case1 high low rest ih =>
    refine bind_eq (index_of_lt (by decide)) (bind_eq (digitSteps_eq high) ?_)
    exact bind_eq (index_of_lt (by decide)) (bind_eq (digitSteps_eq low) ih)
  | case2 name hname =>
    rw [pairSteps]
    exact hname

theorem nameSteps_eq (name : List UInt8) : nameSteps name = some () :=
  bind_eq (rem_of_pos (by decide)) (when_of_imp fun _ => pairSteps_eq name)

theorem cutSteps_eq {bytes : List UInt8} (h : bytes.length ≤ maxCommand) :
    cutSteps bytes = some () := by
  have hmost : bytes.length ≤ 1048576 := h
  unfold cutSteps
  split
  · rename_i i hi
    have hlt := (List.findIdx?_eq_some_iff_findIdx_eq.1 hi).1
    refine bind_eq (slice_of_le (Nat.zero_le _) (by omega)) (bind_eq (add_usize (by omega)) ?_)
    exact slice_of_le (by omega) (Nat.le_refl _)
  · exact slice_of_le (Nat.le_refl _) (Nat.le_refl _)

theorem percentSteps_eq {path : List UInt8} (h : path.length ≤ Word.u32.max) :
    percentSteps path = some () := by
  have hmost : path.length ≤ 4294967295 := h
  refine forM_eq fun i hi => ?_
  have hlt := List.mem_range.1 hi
  refine bind_eq (index_of_lt hlt) (bind_eq (add_usize (by omega)) ?_)
  refine bind_eq (when_of_imp fun hlast => ?_) (forget_of_eq (add_usize (by omega)))
  refine bind_eq (add_usize (by omega)) (bind_eq (index_of_lt (by omega)) ?_)
  exact index_of_lt hlast

theorem entrySteps_eq (number : List UInt8) : entrySteps number = some () := by
  unfold entrySteps
  split
  · exact when_of_imp fun h => index_of_lt h
  · rfl

theorem channelSteps_eq (spec : List UInt8) : channelSteps spec = some () := by
  have take (parts : List (List UInt8)) (count : Nat) (hcount : 3 ≤ count) :
      when (parts.length = count) ([0, 1, 2].forM (index · parts.length)) = some () := by
    refine when_of_imp fun hparts => forM_eq fun i hi => index_of_lt ?_
    simp only [List.mem_cons, List.not_mem_nil, or_false] at hi
    omega
  exact bind_eq (take _ 4 (by decide)) (take _ 3 (by decide))

/-- What is read leniently has no more characters than bytes. -/
theorem length_lenient (text : String) (bytes : List UInt8) :
    (Utf8.lenient text bytes).toList.length ≤ text.toList.length + bytes.length := by
  fun_induction Utf8.lenient text bytes with
  | case1 text => exact Nat.le_refl _
  | case2 text b rest c used hfirst ih =>
    rw [String.toList_push, List.length_append, List.length_drop] at ih
    rw [List.length_cons]
    exact Nat.le_trans ih (by simp only [List.length_singleton]; omega)

theorem length_fileAddress {uri host path : List Char} (h : fileAddress? uri = some (host, path)) :
    path.length ≤ uri.length + 1 := by
  obtain ⟨rest, hrest, hpath⟩ := Option.map_eq_some_iff.1 h
  have left : rest.length ≤ uri.length := by
    unfold after? at hrest
    split at hrest
    · rw [← Option.some.inj hrest, List.length_drop]
      exact Nat.sub_le _ _
    · exact absurd hrest (by simp)
  have tail := (List.dropWhile_sublist (l := rest) (· ≠ '/')).length_le
  rw [← (Prod.mk.inj hpath).2]
  split
  · exact Nat.le_add_left 1 _
  · omega

theorem length_cutAt {bytes before after : List UInt8}
    (h : cutAt? 0x3b bytes = some (before, after)) : after.length ≤ bytes.length := by
  unfold cutAt? at h
  rw [List.span_eq_takeWhile_dropWhile] at h
  have tail := (List.dropWhile_sublist (l := bytes) (· ≠ 0x3b)).length_le
  generalize bytes.dropWhile (· ≠ 0x3b) = dropped at h tail
  cases dropped with
  | nil => exact absurd h (by simp)
  | cons b rest =>
    rw [← (Prod.mk.inj (Option.some.inj h)).2]
    exact Nat.le_trans (Nat.le_succ _) tail

theorem payloadSteps_eq {payload : List UInt8} (h : payload.length ≤ maxCommand) (number : Nat) :
    payloadSteps number payload = some () := by
  have hmost : payload.length ≤ 1048576 := h
  unfold payloadSteps
  split
  · exact forM_eq fun part _ => bind_eq (entrySteps_eq part) (channelSteps_eq part)
  · split
    · rename_i path haddress
      have hpath := length_fileAddress haddress
      have huri : (Utf8.decodeLenient payload).toList.length ≤ 0 + payload.length :=
        length_lenient "" payload
      have hsize := Utf8.size_ofList path
      refine percentSteps_eq (Nat.le_trans hsize ?_)
      show 4 * path.length ≤ 4294967295
      omega
    · rfl
  · exact cutSteps_eq h
  · exact cutSteps_eq h
  · exact channelSteps_eq payload
  · exact channelSteps_eq payload
  · exact channelSteps_eq payload
  · exact forM_eq fun part _ => entrySteps_eq part
  · rfl

theorem commandSteps_eq {data : List UInt8} (h : data.length ≤ maxCommand) :
    commandSteps data = some () := by
  have hpayload : ((cutAt? 0x3b data).getD (data, [])).2.length ≤ maxCommand := by
    cases hcut : cutAt? 0x3b data with
    | none => exact Nat.zero_le _
    | some parts => exact Nat.le_trans (length_cutAt hcut) h
  refine bind_eq (cutSteps_eq h) ?_
  generalize (cutAt? 0x3b data).getD (data, []) = parts at hpayload ⊢
  dsimp only
  split
  · exact payloadSteps_eq hpayload _
  · rfl

theorem EscapeSequence.steps_eq {s : EscapeSequence}
    (h : s.intermediates.length ≤ maxIntermediates) : s.steps = some () := by
  refine bind_eq (slice_of_le (Nat.zero_le _) h) (forM_eq fun b _ => when_of_imp fun hslot => ?_)
  refine forget_of_eq (sub_of_le (Nat.le_of_not_lt fun hlt => ?_))
  have : ∀ n < 0x28, (Command.slotOf? (UInt8.ofNat n)).isNone := by decide
  have hnone := this b.toNat hlt
  rw [UInt8.ofNat_toNat] at hnone
  rw [Option.isNone_iff_eq_none.1 hnone] at hslot
  exact absurd hslot (by decide)

theorem Params.get_pos (p : Params) (i : Nat) : 1 ≤ p.get i 1 := by
  unfold Params.get
  split
  · exact Nat.le_refl _
  · omega

theorem ControlSequence.steps_eq {s : ControlSequence} (hparams : Kept s.params.items)
    (hintermediates : s.intermediates.length ≤ maxIntermediates) : s.steps = some () := by
  refine bind_eq (slice_of_le (Nat.zero_le _) hparams.1) ?_
  refine bind_eq (forM_eq fun item hitem => slice_of_le (Nat.zero_le _) (hparams.2 item hitem)) ?_
  refine bind_eq (slice_of_le (Nat.zero_le _) hintermediates) ?_
  refine bind_eq (forget_of_eq (sub_of_le (s.params.get_pos 0))) ?_
  refine bind_eq (forget_of_eq (sub_of_le (s.params.get_pos 1))) ?_
  exact when_of_imp fun _ => Rendition.selectSteps_eq (Nat.zero_add _) hparams.1

theorem Action.steps_eq {action : Action} (h : action.Bounded) : action.steps = some () := by
  cases action with
  | escape s => exact s.steps_eq h
  | control s => exact s.steps_eq h.1 h.2
  | command data bell => exact commandSteps_eq h
  | request r =>
    cases r with
    | capabilities names => exact forM_eq fun name _ => nameSteps_eq name
    | setting | beginSync | endSync => rfl
  | print | execute | imageStart | imageData | imageEnd => rfl

end Control

end Teletype
