import Teletype.Proofs.Terminal.ColorAnswer
import Teletype.Proofs.Terminal.SavedCursor
import Teletype.Proofs.Terminal.Sequences
import Teletype.Proofs.Terminal.Switches

/-!
# Saved modes come back

Saving private modes by number writes a record that only another save and a full reset change.
Restoring them switches one after the other; as of a group one at most was on when they were saved,
no switch undoes another.
-/

namespace Teletype

namespace Terminal

/-! ## What keeps the record -/

/-- The configuration, on which it depends what can be switched, and the saved modes. -/
def modeRecord (t : Terminal) : Config × List (Nat × Bool) := (t.config, t.savedModes)

theorem modeRecord_of_alters {t u : Terminal} {aspects : List Aspect} (h : t.Alters aspects u)
    (hapart : Aspect.apart [.config, .savedModes] aspects = true) : u.modeRecord = t.modeRecord :=
  Prod.ext (h.of_apart hapart (a := .config) (by decide))
    (h.of_apart hapart (a := .savedModes) (by decide))

theorem modeRecord_restoreDecModes (now : Instant) (numbers : List Nat) (t : Terminal) :
    (numbers.foldl (restoreDecMode now) t).modeRecord = t.modeRecord :=
  modeRecord_of_alters (alters_foldl (fun t n => t.alters_restoreDecMode now n) numbers t) rfl

end Terminal

/-- A command that neither saves modes nor resets the terminal. -/
def Command.keepsModes : Command → Bool
  | .saveDecModes _ | .hardReset => false
  | _ => true

/-- An action that neither saves modes nor resets the terminal. -/
def Control.Action.keepsModes : Control.Action → Bool
  | .execute byte => (Command.ofControl byte).keepsModes
  | .escape s => (Command.ofEscape s).keepsModes
  | .control s => (Command.ofSequence s).keepsModes
  | _ => true

/-- What a host does without output that saves modes or resets the terminal. -/
def HostAction.keepsModes (t : Terminal) : HostAction → Bool
  | .feed bytes _ => (t.decoder.feed bytes).2.toList.all (·.keepsModes)
  | _ => true

namespace Terminal

variable (t : Terminal)

theorem modeRecord_run (now : Instant) {command : Command} (h : command.keepsModes = true) :
    (t.run now command).modeRecord = t.modeRecord := by
  cases command with
  | saveDecModes | hardReset => exact Bool.noConfusion h
  | _ => exact modeRecord_of_alters (t.alters_run now _) rfl

theorem modeRecord_perform (now : Instant) {action : Control.Action}
    (h : action.keepsModes = true) : (perform now t action).modeRecord = t.modeRecord := by
  cases action with
  | execute | escape | control => exact modeRecord_run { t with composeAt := none } now h
  | _ => exact modeRecord_of_alters (t.alters_perform now _) rfl

theorem modeRecord_apply {action : HostAction} (h : action.keepsModes t = true) :
    (action.apply t).modeRecord = t.modeRecord := by
  cases action with
  | feed bytes now =>
    have keeps := List.all_eq_true.1 h
    exact feed_induction (p := fun u => u.modeRecord = t.modeRecord) rfl
      (fun u hu action mem => (u.modeRecord_perform now (keeps action mem)).trans hu)
      fun _ _ hu => hu
  | _ => exact modeRecord_of_alters (t.alters_apply _) rfl

/-- The end of a string neither saves modes nor resets the terminal. -/
theorem modeRecord_broken (now : Instant) (bytes : List UInt8) :
    (t.broken now bytes).modeRecord = t.modeRecord :=
  modeRecord_of_alters (t.alters_broken now bytes) rfl

/-! ## Saving and restoring -/

open Switch (ofNumber?)

variable {t} {number : Nat} {s : Switch}

theorem lookup_keepMode (t : Terminal) (number : Nat) (on : Bool) (k : Nat) :
    (t.keepMode number on).savedModes.lookup k = if k = number then some on
      else t.savedModes.lookup k := by
  have kept (saved : List (Nat × Bool)) (h : k ≠ number) :
      (saved.filter (·.1 ≠ number)).lookup k = saved.lookup k := by
    induction saved with
    | nil => rfl
    | cons entry saved ih =>
      by_cases same : entry.1 = number
      · have other : ¬(k == entry.1) = true := by simpa [same] using h
        rw [List.filter_cons_of_neg (by simpa using same), ih, List.lookup_cons,
          Bool.eq_false_iff.2 other]
      · rw [List.filter_cons_of_pos (by simpa using same), List.lookup_cons, List.lookup_cons, ih]
  show List.lookup k ((number, on) :: t.savedModes.filter (·.1 ≠ number)) = _
  rw [List.lookup_cons]
  split
  · rename_i same
    rw [if_pos (by simpa using same)]
  · rename_i apart
    have h : k ≠ number := by simpa using apart
    rw [if_neg h, kept _ h]

/-- A number that has a switch is not that of the saved cursor. -/
theorem ne_of_switch {config : Config} (h : ofNumber? config number = some s) : number ≠ 1048 := by
  rintro rfl
  exact nomatch h

theorem saveDecMode_of_switch (h : ofNumber? t.config number = some s) :
    t.saveDecMode number = t.keepMode number (t.isOn s) := by
  rw [saveDecMode, if_neg (ne_of_switch h), decModeStatus_of_switch h]
  cases t.isOn s <;> rfl

theorem restoreDecMode_of_switch {config : Config} (h : ofNumber? config number = some s)
    {on : Bool} (hsaved : t.savedModes.lookup number = some on) (now : Instant) :
    restoreDecMode now t number = setDecMode now on t number := by
  rw [restoreDecMode, if_neg (ne_of_switch h), hsaved]

/-- Saving records of each number whether its switch is on, and changes nothing else. -/
theorem foldl_saveDecMode {numbers : List Nat}
    (h : ∀ n ∈ numbers, ∃ s, ofNumber? t.config n = some s) :
    ∃ saved, numbers.foldl saveDecMode t = { t with savedModes := saved } ∧
      ∀ n ∈ numbers, ∀ s, ofNumber? t.config n = some s → saved.lookup n = some (t.isOn s) := by
  induction numbers using List.reverseRecOn with
  | nil => exact ⟨t.savedModes, rfl, nofun⟩
  | append_singleton numbers n ih =>
    obtain ⟨before, last⟩ := List.forall_mem_append.1 h
    obtain ⟨saved, fold, found⟩ := ih before
    obtain ⟨s, hs⟩ := last n List.mem_cons_self
    have step : saveDecMode { t with savedModes := saved } n =
        keepMode { t with savedModes := saved } n (t.isOn s) := saveDecMode_of_switch hs
    rw [List.foldl_append, List.foldl_cons, List.foldl_nil, fold, step]
    refine ⟨_, rfl, fun k hk s' hs' => ?_⟩
    refine (lookup_keepMode { t with savedModes := saved } n (t.isOn s) k).trans ?_
    by_cases same : k = n
    · subst same
      rw [if_pos rfl, Option.some.inj (hs.symm.trans hs')]
    · rw [if_neg same]
      rcases List.mem_append.1 hk with mem | mem
      · exact found k mem s' hs'
      · exact absurd (List.mem_singleton.1 mem) same

/-- Restoring numbers whose switches were saved as they are in `t` makes them what they are
there. -/
theorem foldl_restoreDecMode {u : Terminal} {numbers : List Nat} (now : Instant)
    (hconfig : u.config = t.config) (h : ∀ n ∈ numbers, ∃ s, ofNumber? t.config n = some s ∧
      u.savedModes.lookup n = some (t.isOn s)) :
    ∀ n ∈ numbers, ∀ s, ofNumber? t.config n = some s →
      (numbers.foldl (restoreDecMode now) u).isOn s = t.isOn s := by
  induction numbers using List.reverseRecOn with
  | nil => exact nofun
  | append_singleton numbers n ih =>
    obtain ⟨before, last⟩ := List.forall_mem_append.1 h
    obtain ⟨s, hs, hsaved⟩ := last n List.mem_cons_self
    have restored := ih before
    have record := modeRecord_restoreDecModes now numbers u
    rw [List.foldl_append, List.foldl_cons, List.foldl_nil]
    generalize numbers.foldl (restoreDecMode now) u = v at restored record ⊢
    have hv : ofNumber? v.config n = some s := by
      rw [show v.config = u.config from congrArg Prod.fst record, hconfig, hs]
    rw [← show v.savedModes = u.savedModes from congrArg Prod.snd record] at hsaved
    intro k hk s' hs'
    rw [restoreDecMode_of_switch hs hsaved, isOn_setDecMode hv (Switch.proper_of_number hs')]
    by_cases same : s' = s
    · rw [if_pos same, same]
    · rw [if_neg same]
      split
      · -- the switch that is turned on takes the choice from this one, which was off when both
        -- were saved
        rename_i taken
        obtain ⟨on, rivals⟩ := Bool.and_eq_true_iff.1 taken
        exact (isOn_of_rivals rivals on).symm
      · rcases List.mem_append.1 hk with mem | mem
        · exact restored k mem s' hs'
        · rw [List.mem_singleton.1 mem, hs] at hs'
          exact absurd (Option.some.inj hs').symm same

/-! ### The sequences -/

open Control.Params (written maxCount maxValue)

/-- `CSI ?`, numbers of private modes, and the byte that says what to do with them. -/
def privateSequence (numbers : List Nat) (final : UInt8) : List UInt8 :=
  [0x1b, 0x5b] ++ (0x3f :: (written (numbers.map fun n => [some n]) ++ [final]))

example : privateSequence [1003, 25] 0x73 = Text.Utf8.encode "\x1b[?1003;25s" := by decide

theorem le_of_switch {config : Config} (h : ofNumber? config number = some s) :
    number ≤ maxValue := by
  unfold ofNumber? at h
  split at h
  · subst number
    decide
  · split at h
    · exact nomatch h
    · obtain ⟨mode, hmode, -⟩ := Option.map_eq_some_iff.1 h
      unfold DecMode.ofNumber? at hmode
      split at hmode <;> first | decide | exact nomatch hmode

theorem isOn_drawn (t : Terminal) (now : Instant) :
    ({ t with schedule := t.schedule.onOutput now } : Terminal).isOn = t.isOn := by
  funext s
  cases s with
  | dec mode => rfl
  | sync => exact Schedule.isSyncing_onOutput t.schedule now

/-- The control sequence with the numbers and that byte. -/
def privateControl (numbers : List Nat) (final : UInt8) : Control.ControlSequence :=
  ⟨{ items := numbers.map fun n => { value := n } }, [], some 0x3f, final⟩

/-- A sequence that switches private modes is carried out with the numbers that were written. -/
theorem feed_privateSequence {numbers : List Nat} (hne : numbers ≠ [])
    (hcount : numbers.length ≤ maxCount) (hvalue : ∀ n ∈ numbers, n ≤ maxValue) {final : UInt8}
    (hfinal : Control.isFinal final = true) (t : Terminal) (now : Instant) :
    let start := t.broken now (privateSequence numbers final)
    let done := start.run now (.ofSequence (privateControl numbers final))
    (t.feed (privateSequence numbers final) now).isOn = done.isOn ∧
      (t.feed (privateSequence numbers final) now).modeRecord = done.modeRecord := by
  intro start done
  obtain ⟨n, rest, rfl⟩ := List.exists_cons_of_ne_nil hne
  let fields : List (List (Option Nat)) := (n :: rest).map fun n => [some n]
  let w : Control.Spelling := ⟨some 0x3f, written fields, [], final, by simp [Control.isMarker],
    Control.Params.written_isParam fields, nofun, Nat.zero_le _, hfinal⟩
  have bytes : privateSequence (n :: rest) final = [0x1b, 0x5b] ++ w.bytes := by
    simp [w, fields, privateSequence, Control.Spelling.bytes]
  have sequence : w.sequence = privateControl (n :: rest) final := by
    have read : Control.Params.ofPart (written fields) =
        { items := (fields.take maxCount).map Control.Param.ofFields,
          overflowed := Control.Params.tooGreat fields } :=
      Control.Params.ofPart_written [] (by simp)
    have fits : Control.Params.tooGreat fields = false := by
      simpa [Control.Params.tooGreat, fields] using hvalue
    have room : fields.length ≤ maxCount := by rwa [List.length_map]
    have kept : fields.map Control.Param.ofFields = (n :: rest).map fun n => { value := n } := by
      rw [List.map_map]
      refine List.map_congr_left fun k hk => ?_
      simp [Control.Param.ofFields, Nat.min_eq_left (hvalue k hk)]
    rw [List.take_of_length_le room, kept, fits] at read
    exact congrArg (fun params => (⟨params, [], some 0x3f, final⟩ : Control.ControlSequence)) read
  have fed : t.feed (privateSequence (n :: rest) final) now =
      { done with schedule := done.schedule.onOutput now } := by
    have whole := (t.feed_spelling w now).1
    rwa [sequence, ← bytes] at whole
  rw [fed]
  exact ⟨isOn_drawn done now, rfl⟩

theorem numbers_map (numbers : List Nat) :
    Command.numbers { items := numbers.map fun n => { value := n } } = numbers := by
  simp [Command.numbers, Function.comp_def]

/-- `CSI ? numbers s` records which of the switches are on at its start, and turns none. -/
theorem feed_saveModes {numbers : List Nat} (hne : numbers ≠ [])
    (hcount : numbers.length ≤ maxCount) (h : ∀ n ∈ numbers, ∃ s, ofNumber? t.config n = some s)
    (now : Instant) :
    let saved := t.feed (privateSequence numbers 0x73) now
    saved.config = t.config ∧ saved.isOn = (t.broken now (privateSequence numbers 0x73)).isOn ∧
      ∀ n ∈ numbers, ∀ s, ofNumber? t.config n = some s →
        saved.savedModes.lookup n = some (saved.isOn s) := by
  intro saved
  have values : ∀ n ∈ numbers, n ≤ maxValue := fun n hn => le_of_switch (h n hn).choose_spec
  have asked : Command.ofSequence (privateControl numbers 0x73) = .saveDecModes numbers :=
    congrArg Command.saveDecModes (numbers_map numbers)
  obtain ⟨on, recorded⟩ :=
    feed_privateSequence hne hcount values (show Control.isFinal 0x73 = true from rfl) t now
  rw [asked] at on recorded
  have record := modeRecord_broken t now (privateSequence numbers 0x73)
  generalize t.broken now (privateSequence numbers 0x73) = start at on recorded record ⊢
  have config : start.config = t.config := congrArg Prod.fst record
  rw [← config] at h ⊢
  obtain ⟨modes, fold, found⟩ := foldl_saveDecMode h
  have done : start.run now (.saveDecModes numbers) = { start with savedModes := modes } := fold
  rw [done] at on recorded
  have same : ({ start with savedModes := modes } : Terminal).isOn = start.isOn := by
    funext s
    cases s <;> rfl
  have saved_modes : saved.savedModes = modes := congrArg Prod.snd recorded
  refine ⟨congrArg Prod.fst recorded, on.trans same, fun n hn s hs => ?_⟩
  rw [saved_modes, show saved.isOn = _ from on.trans same]
  exact found n hn s hs

/-- `CSI ? numbers r` turns each switch to what was saved of it. -/
theorem feed_restoreModes {u : Terminal} {numbers : List Nat} (hne : numbers ≠ [])
    (hcount : numbers.length ≤ maxCount) (h : ∀ n ∈ numbers, ∃ s, ofNumber? t.config n = some s ∧
      t.savedModes.lookup n = some (t.isOn s))
    (hrecord : u.modeRecord = t.modeRecord) (now : Instant) :
    let restored := u.feed (privateSequence numbers 0x72) now
    restored.config = t.config ∧ ∀ n ∈ numbers, ∀ s, ofNumber? t.config n = some s →
      restored.isOn s = t.isOn s := by
  intro restored
  have values : ∀ n ∈ numbers, n ≤ maxValue := fun n hn => le_of_switch (h n hn).choose_spec.1
  have asked : Command.ofSequence (privateControl numbers 0x72) = .restoreDecModes numbers :=
    congrArg Command.restoreDecModes (numbers_map numbers)
  obtain ⟨on, recorded⟩ :=
    feed_privateSequence hne hcount values (show Control.isFinal 0x72 = true from rfl) u now
  rw [asked] at on recorded
  have record := (modeRecord_broken u now (privateSequence numbers 0x72)).trans hrecord
  generalize u.broken now (privateSequence numbers 0x72) = start at on recorded record
  have config : start.config = t.config := congrArg Prod.fst record
  have modes : start.savedModes = t.savedModes := congrArg Prod.snd record
  have kept := modeRecord_restoreDecModes now numbers start
  refine ⟨congrArg Prod.fst ((recorded.trans kept).trans record), fun n hn s hs => ?_⟩
  rw [show restored.isOn = _ from on]
  exact foldl_restoreDecMode now config (fun k hk => modes ▸ h k hk) n hn s hs

/-- The end of a string turns no switch but that of the synchronized update. -/
theorem isOn_broken (t : Terminal) (now : Instant) (bytes : List UInt8)
    (h : s ≠ .sync ∨ t.decoder.state = .ground) : (t.broken now bytes).isOn s = t.isOn s := by
  cases s with
  | dec mode =>
    have modes : (t.broken now bytes).modes = t.modes :=
      (t.alters_broken now bytes).kept .modes rfl
    show (t.broken now bytes).modes.getDec mode = t.modes.getDec mode
    rw [modes]
  | sync =>
    rw [broken_of_ground (h.resolve_left fun apart => apart rfl)]
    rfl

/-- Private modes that are saved together and restored together, whatever output and resizing comes
in between, are all again what they were when they were saved, if nothing saves modes in between and
the terminal is not reset. They are saved as they are once the ESC has ended what was being read,
which can turn only the synchronized update. -/
theorem modes_restored (t : Terminal) {numbers : List Nat} (work : List HostAction)
    (now now' : Instant) (hcount : numbers.length ≤ maxCount)
    (hscreens : ∀ n ∈ numbers, n ∉ screenNumbers)
    (hstatus : ∀ n ∈ numbers, t.decModeStatus n = .set ∨ t.decModeStatus n = .reset) :
    let saved := t.feed (privateSequence numbers 0x73) now
    let worked := work.foldl HostAction.apply saved
    let restored := worked.feed (privateSequence numbers 0x72) now'
    Throughout HostAction.apply (fun u action => action.keepsModes u = true) saved work →
      ∀ n ∈ numbers, restored.decModeStatus n = saved.decModeStatus n ∧
        restored.decModeStatus n = (t.feed [0x1b] now).decModeStatus n ∧
        (n ≠ 2026 ∨ t.decoder.state = .ground → restored.decModeStatus n = t.decModeStatus n) := by
  intro saved worked restored hwork n hn
  have hne : numbers ≠ [] := List.ne_nil_of_mem hn
  have switches : ∀ n ∈ numbers, ∃ s, ofNumber? t.config n = some s := fun n hn =>
    exists_switch (hscreens n hn) (hstatus n hn)
  obtain ⟨config, on, found⟩ := feed_saveModes hne hcount switches now
  have record : worked.modeRecord = saved.modeRecord :=
    Throughout.foldl (p := fun u => u.modeRecord = saved.modeRecord)
      (fun u _ hu keeps => (u.modeRecord_apply keeps).trans hu) hwork rfl
  have kept : ∀ n ∈ numbers, ∃ s, ofNumber? saved.config n = some s ∧
      saved.savedModes.lookup n = some (saved.isOn s) :=
    fun n hn => by
      obtain ⟨s, hs⟩ := switches n hn
      exact ⟨s, by rw [config, hs], found n hn s hs⟩
  obtain ⟨same, again⟩ := feed_restoreModes hne hcount kept record now'
  obtain ⟨s, hs⟩ := switches n hn
  have at_save : ofNumber? saved.config n = some s := by rw [config, hs]
  have restored_eq : restored.decModeStatus n = .ofBool (saved.isOn s) := by
    rw [decModeStatus_of_switch (same.symm ▸ at_save), again n hn s at_save]
  have start : ofNumber? (t.broken now (privateSequence numbers 0x73)).config n = some s := by
    rw [show (t.broken now _).config = t.config from congrArg Prod.fst (modeRecord_broken ..), hs]
  refine ⟨?_, ?_, fun h => ?_⟩
  · rw [restored_eq, decModeStatus_of_switch at_save]
  · obtain ⟨d, e, more, u, broken, twin⟩ := t.twin_broken now ((privateSequence numbers 0x73).tail)
    have alone : (t.broken now (privateSequence numbers 0x73)).decModeStatus n =
        u.decModeStatus n :=
      congrArg (·.decModeStatus n) broken
    rw [restored_eq, on, ← decModeStatus_of_switch start, alone, twin.decModeStatus]
  · have apart : s ≠ .sync ∨ t.decoder.state = .ground :=
      h.imp_left fun hn hsync => hn (Switch.eq_of_sync (hsync ▸ hs))
    rw [restored_eq, on, isOn_broken t now _ apart, decModeStatus_of_switch hs]

/-- A program that wants drags of the mouse in SGR encoding, has an update open and the cursor
hidden, and is about to end a title. -/
def tracking : List HostAction :=
  [.feed (Text.Utf8.encode "\x1b[?1002;1006;2004;2026h\x1b[?25l\x1b]2;a") 0]

/-- Both groups of mouse modes, each with the one that is on between others, and modes of other
kinds. -/
def mixedNumbers : List Nat := [1003, 2026, 1006, 1000, 25, 1016, 1002, 2004, 1015, 7]

/-- Work that chooses others, resets the terminal softly, goes to the other screen and changes the
size. -/
def trackingWork : List HostAction :=
  [.feed (Text.Utf8.encode "\x1b[?1000;1016;25h\x1b[?7;2004;2026l\x1b[!p\x1b[?1049h\x1bP=1s\x1b") 2,
    .resize 3 2, .feed (Text.Utf8.encode "\\\x1b8\x1b[?7l\x1b[?1003;1015hw\x1b[?1006") 3]

theorem modes_restored_tracking :
    let t := drive { size := ⟨4, 3⟩, scrollback := 1 } tracking
    let saved := t.feed (privateSequence mixedNumbers 0x73) 1
    let worked := trackingWork.foldl HostAction.apply saved
    let restored := worked.feed (privateSequence mixedNumbers 0x72) 4
    mixedNumbers.map t.decModeStatus =
        [.reset, .set, .set, .reset, .reset, .reset, .set, .set, .reset, .set] ∧
      mixedNumbers.map worked.decModeStatus =
        [.set, .set, .reset, .reset, .set, .reset, .reset, .reset, .set, .reset] ∧
      ∀ n ∈ mixedNumbers, n ≠ 2026 → restored.decModeStatus n = t.decModeStatus n := by
  intro t saved worked restored
  have count : mixedNumbers.length ≤ maxCount := by decide
  have screens : ∀ n ∈ mixedNumbers, n ∉ screenNumbers := by decide
  have status : ∀ n ∈ mixedNumbers, t.decModeStatus n = .set ∨ t.decModeStatus n = .reset := by
    decide +kernel
  have keeps : Throughout HostAction.apply (fun u action => action.keepsModes u = true) saved
      trackingWork := by
    decide +kernel
  exact ⟨by decide +kernel, by decide +kernel, fun n hn hsync =>
    (modes_restored t trackingWork 1 4 count screens status keeps n hn).2.2 (.inl hsync)⟩

end Terminal

end Teletype
