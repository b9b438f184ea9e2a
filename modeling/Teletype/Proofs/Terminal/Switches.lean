import Teletype.Proofs.Terminal.Reachable

/-!
# What the numbers of modes switch

Apart from the screens, a private mode is a flag, one choice of a group of which one at most is on,
or the synchronized update. Switching one sets it and takes the choice from the others of its group,
and leaves all else as it is, so that what is on can be restored one mode after the other in any
order.
-/

namespace Teletype

/-! ## Modes that are kept -/

/-- The modes are different choices of one group. -/
def DecMode.rivals : DecMode → DecMode → Bool
  | .tracking t, .tracking t' => t ≠ t'
  | .encoding e, .encoding e' => e ≠ e'
  | _, _ => false

/-- The mode has a number: it is not what a group is at when none of its modes is on. -/
def DecMode.Proper (mode : DecMode) : Prop := mode ≠ .tracking .none ∧ mode ≠ .encoding .normal

theorem DecMode.proper_of_number {number : Nat} {mode : DecMode}
    (h : ofNumber? number = some mode) : mode.Proper := by
  unfold ofNumber? at h
  split at h <;> cases h <;> exact ⟨nofun, nofun⟩

namespace Modes

variable (m : Modes) {mode other : DecMode}

/-- Of a group one mode at most is on. -/
theorem getDec_of_rivals (h : mode.rivals other = true) (hmode : m.getDec mode = true) :
    m.getDec other = false := by
  unfold DecMode.rivals at h
  unfold getDec at hmode ⊢
  split at h
  · simp_all
  · simp_all
  · exact Bool.noConfusion h

/-- What choosing a mode of a group, or taking the choice from it, makes of the others of the
group. -/
theorem choice_eq {α : Type} [DecidableEq α] {idle other : α} (hother : other ≠ idle)
    (now choice : α) (on : Bool) :
    decide ((if on then choice else if now = choice then idle else now) = other) =
      if other = choice then on else if on && decide (choice ≠ other) then false
        else decide (now = other) := by
  cases on with
  | true =>
    by_cases same : other = choice
    · simp [same]
    · simp [same, Ne.symm same]
  | false =>
    by_cases chosen : now = choice
    · by_cases same : other = choice
      · simp [chosen, same, same ▸ hother.symm]
      · simp [chosen, same, Ne.symm same, hother.symm]
    · by_cases same : other = choice
      · simp [chosen, same]
      · simp [chosen, same]

theorem getDec_setDec (mode : DecMode) (hother : other.Proper) (on : Bool) :
    (m.setDec mode on).getDec other =
      if other = mode then on else if on && mode.rivals other then false else m.getDec other := by
  obtain ⟨tracked, encoded⟩ := hother
  have apart (hne : other ≠ mode) (hrivals : mode.rivals other = false)
      (same : (m.setDec mode on).getDec other = m.getDec other) : (m.setDec mode on).getDec other =
        if other = mode then on else if on && mode.rivals other then false else m.getDec other := by
    rw [if_neg hne, hrivals, Bool.and_false, if_neg Bool.false_ne_true, same]
  cases mode with
  | flag f =>
    cases other with
    | flag g => simpa [setDec, getDec, DecMode.rivals] using m.dec.get_set f g on
    | tracking | encoding => exact apart nofun rfl rfl
  | tracking t =>
    have set : m.setDec (.tracking t) on =
        { m with tracking := if on then t else if m.tracking = t then .none else m.tracking } := by
      unfold setDec
      cases on <;> by_cases h : m.tracking = t <;> simp [h]
    cases other with
    | tracking t' =>
      have chosen := choice_eq (fun h => tracked (congrArg DecMode.tracking h)) m.tracking t on
      rw [set]
      simpa [getDec, DecMode.rivals] using chosen
    | flag | encoding => exact apart nofun rfl (by rw [set]; rfl)
  | encoding e =>
    have set : m.setDec (.encoding e) on =
        { m with encoding := if on then e else if m.encoding = e then .normal
          else m.encoding } := by
      unfold setDec
      cases on <;> by_cases h : m.encoding = e <;> simp [h]
    cases other with
    | encoding e' =>
      have chosen := choice_eq (fun h => encoded (congrArg DecMode.encoding h)) m.encoding e on
      rw [set]
      simpa [getDec, DecMode.rivals] using chosen
    | flag | tracking => exact apart nofun rfl (by rw [set]; rfl)

end Modes

/-! ## Numbers -/

/-- What the number of a private mode switches, unless it is the screen or the saved cursor. -/
inductive Switch where
  | dec (mode : DecMode)
  /-- The synchronized update. -/
  | sync
  deriving DecidableEq

namespace Switch

/-- The switch of a number. Shaping can be switched with one of the ways to measure characters
only. -/
def ofNumber? (config : Config) (number : Nat) : Option Switch :=
  if number = 2026 then some .sync
  else if number = 2027 ∧ config.widthMethod ≠ .double then none
  else (DecMode.ofNumber? number).map .dec

/-- Only one of the two can be on. -/
def rivals : Switch → Switch → Bool
  | .dec mode, .dec other => mode.rivals other
  | _, _ => false

/-- The switch has a number. -/
def Proper : Switch → Prop
  | .dec mode => mode.Proper
  | .sync => True

theorem proper_of_number {config : Config} {number : Nat} {s : Switch}
    (h : ofNumber? config number = some s) : s.Proper := by
  unfold ofNumber? at h
  split at h
  · cases h
    trivial
  · split at h
    · exact nomatch h
    · obtain ⟨mode, hmode, rfl⟩ := Option.map_eq_some_iff.1 h
      exact DecMode.proper_of_number hmode

theorem eq_of_sync {config : Config} {number : Nat} (h : ofNumber? config number = some .sync) :
    number = 2026 := by
  unfold ofNumber? at h
  split at h
  · assumption
  · split at h
    · exact nomatch h
    · obtain ⟨mode, -, other⟩ := Option.map_eq_some_iff.1 h
      exact nomatch other

end Switch

namespace Terminal

open Switch (ofNumber?)

variable {t : Terminal} {number : Nat} {s other : Switch}

/-- Whether a switch is on. -/
def isOn (t : Terminal) : Switch → Bool
  | .dec mode => t.modes.getDec mode
  | .sync => t.schedule.isSyncing

/-- The status of a number that has a switch is whether it is on. -/
theorem decModeStatus_of_switch (h : ofNumber? t.config number = some s) :
    t.decModeStatus number = .ofBool (t.isOn s) := by
  unfold ofNumber? at h
  split at h
  · cases h
    subst number
    rfl
  · split at h
    · exact nomatch h
    · rename_i hsync hshaping
      obtain ⟨mode, hmode, rfl⟩ := Option.map_eq_some_iff.1 h
      have status : t.modes.decStatus number = .ofBool (t.isOn (.dec mode)) := by
        rw [Modes.decStatus, hmode]
        rfl
      unfold decModeStatus
      split
      · exact nomatch hmode
      · exact nomatch hmode
      · exact nomatch hmode
      · exact nomatch hmode
      · exact absurd rfl hsync
      · rw [if_pos (by simpa using hshaping), status]
      · exact status

/-- A number whose mode can be set and reset has a switch. -/
theorem exists_switch (hscreen : number ∉ screenNumbers)
    (h : t.decModeStatus number = .set ∨ t.decModeStatus number = .reset) :
    ∃ s, ofNumber? t.config number = some s := by
  simp only [screenNumbers, List.mem_cons, List.not_mem_nil, not_or] at hscreen
  obtain ⟨hold, hswitch, -, halternate, -⟩ := hscreen
  have of_status (h : t.modes.decStatus number = .set ∨ t.modes.decStatus number = .reset) :
      ∃ mode, DecMode.ofNumber? number = some mode := by
    cases hmode : DecMode.ofNumber? number with
    | some mode => exact ⟨mode, rfl⟩
    | none =>
      unfold Modes.decStatus at h
      rw [hmode] at h
      dsimp only at h
      split at h <;> simp at h
  unfold ofNumber?
  unfold decModeStatus at h
  split at h
  · exact absurd rfl hold
  · exact absurd rfl hswitch
  · exact absurd rfl halternate
  · simp at h
  · exact ⟨_, rfl⟩
  · split at h
    · rename_i hdouble
      obtain ⟨mode, hmode⟩ := of_status h
      exact ⟨.dec mode, by simp [hdouble, hmode]⟩
    · simp at h
  · rename_i hsync hshaping
    obtain ⟨mode, hmode⟩ := of_status h
    exact ⟨.dec mode, by rw [if_neg hsync, if_neg fun h => hshaping h.1, hmode]; rfl⟩

/-! ## Turning a switch -/

/-- The terminal with a switch turned. -/
def turn (now : Instant) (on : Bool) (t : Terminal) : Switch → Terminal
  | .dec mode => t.switchDec mode on
  | .sync => if on then t.beginSync now else t.endSync

theorem isOn_modifyGrid (t : Terminal) (f : Grid → Grid) : (t.modifyGrid f).isOn = t.isOn := by
  unfold modifyGrid
  cases t.screen <;> (funext s; cases s <;> rfl)

/-- Setting or resetting a mode by its number turns its switch. What else it does is on the grid. -/
theorem setDecMode_of_switch (h : ofNumber? t.config number = some s) (now : Instant) (on : Bool) :
    ∃ f : Grid → Grid, setDecMode now on t number = (turn now on t s).modifyGrid f := by
  have alone (u : Terminal) : u = u.modifyGrid id := by
    unfold modifyGrid
    split <;> rfl
  unfold ofNumber? at h
  split at h
  · cases h
    subst number
    exact ⟨id, alone _⟩
  · split at h
    · exact nomatch h
    · rename_i hsync _
      obtain ⟨mode, hmode, rfl⟩ := Option.map_eq_some_iff.1 h
      unfold setDecMode
      split
      · cases hmode
        exact ⟨_, rfl⟩
      · cases hmode
        let bounds := (t.switchDec (.flag .origin) on).addressableRows
        exact ⟨fun g => g.setCursor (min (bounds.1 + 0) bounds.2) 0, rfl⟩
      · cases hmode
        exact ⟨_, rfl⟩
      · exact nomatch hmode
      · exact nomatch hmode
      · exact nomatch hmode
      · exact nomatch hmode
      · exact nomatch hmode
      · exact nomatch hmode
      · exact nomatch hmode
      · exact absurd rfl hsync
      · rw [hmode]
        exact ⟨id, alone _⟩

/-- A switch that is turned is as it was asked to be. The others of its group are off if it is on,
and all else is as it was. -/
theorem isOn_turn (hother : other.Proper) (now : Instant) (on : Bool) (t : Terminal) :
    (turn now on t s).isOn other =
      if other = s then on else if on && s.rivals other then false else t.isOn other := by
  cases s with
  | dec mode =>
    cases other with
    | dec other =>
      have switched := t.modes.getDec_setDec mode hother on
      simpa [turn, isOn, switchDec, Switch.rivals] using switched
    | sync => simp [turn, isOn, switchDec, Switch.rivals]
  | sync =>
    cases other with
    | dec other => cases on <;> simp [turn, isOn, Switch.rivals, beginSync, endSync, note]
    | sync =>
      cases on with
      | true => simp [turn, isOn, beginSync, note, Schedule.beginSync, Schedule.isSyncing]
      | false =>
        rw [if_pos rfl]
        show t.schedule.endSync.isSyncing = false
        unfold Schedule.endSync
        split
        · rfl
        · rename_i closed
          simpa using closed

theorem isOn_setDecMode (h : ofNumber? t.config number = some s) (hother : other.Proper)
    (now : Instant) (on : Bool) : (setDecMode now on t number).isOn other =
      if other = s then on else if on && s.rivals other then false else t.isOn other := by
  obtain ⟨f, set⟩ := setDecMode_of_switch h now on
  rw [set, isOn_modifyGrid, isOn_turn hother]

/-- Of a group one switch at most is on. -/
theorem isOn_of_rivals (h : s.rivals other = true) (hs : t.isOn s = true) :
    t.isOn other = false := by
  unfold Switch.rivals at h
  split at h
  · exact t.modes.getDec_of_rivals h hs
  · exact Bool.noConfusion h

end Terminal

end Teletype
