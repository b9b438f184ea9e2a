import Teletype.Proofs.Terminal.Feed
import Teletype.Proofs.Terminal.Sound

/-!
# What the cells of a terminal refer to: commands and output

Whatever a host does, no cell refers to what is not in the tables. Between two states without a
reset to the state after power-on, what is in the tables stays there.
-/

namespace Teletype

/-- The request for a reset to the state after power-on. -/
def resetRequest : Control.Action := .escape ⟨[], 0x63⟩

namespace Command

theorem ofControl_ne_hardReset (byte : UInt8) : ofControl byte ≠ .hardReset := by
  unfold ofControl
  split <;> simp

/-- Of what may be no command, only a command is a reset. -/
theorem eq_some_hardReset {command? : Option Command} {c : Command} (hc : c ≠ .hardReset)
    (h : command?.getD c = .hardReset) : command? = some .hardReset := by
  cases command? with
  | none => exact absurd h hc
  | some command => exact congrArg some h

theorem byte_eq_of_char {b c : UInt8} (h : Char.ofNat b.toNat = Char.ofNat c.toNat) : b = c := by
  have small (b : UInt8) : (Char.ofNat b.toNat).toNat = b.toNat := by
    rw [Char.ofNat, dif_pos (.inl (Nat.lt_trans b.toNat_lt (by decide)))]
    rfl
  exact UInt8.toNat_inj.1 (by rw [← small b, h, small c])

theorem eq_of_ofPlainEscape? {final : UInt8}
    (h : ofPlainEscape? (Char.ofNat final.toNat) = some .hardReset) : final = 0x63 := by
  unfold ofPlainEscape? at h
  split at h
  case h_3 hc => exact byte_eq_of_char hc
  all_goals exact absurd h (by simp)

/-- One escape sequence asks for a reset to the state after power-on, and no other one does. -/
theorem eq_of_ofEscape {s : Control.EscapeSequence} (h : ofEscape s = .hardReset) :
    .escape s = resetRequest := by
  obtain ⟨intermediates, final⟩ := s
  have known := eq_some_hardReset (by simp) h
  unfold ofEscape? at known
  split at known
  · rename_i heq
    dsimp only at heq known
    rw [heq, eq_of_ofPlainEscape? known]
    rfl
  · split at known
    · simp at known
    · split at known <;> simp at known
  · simp at known

theorem ifZero_ne_hardReset (p : Control.Params) {c : Command} (h : c ≠ .hardReset) :
    ifZero p c ≠ .hardReset := by
  unfold ifZero
  split
  · exact h
  · simp

theorem ofPlainSequence?_ne_hardReset (s : Control.ControlSequence) :
    ofPlainSequence? s ≠ some .hardReset := by
  unfold ofPlainSequence?
  dsimp only
  split
  case h_25 => simp [ifZero_ne_hardReset]
  case h_33 => split <;> simp
  all_goals simp

theorem ofPrivateSequence?_ne_hardReset (s : Control.ControlSequence) :
    ofPrivateSequence? s ≠ some .hardReset := by
  unfold ofPrivateSequence?
  dsimp only
  split
  case h_5 => split <;> simp
  all_goals simp

theorem ofSequence_ne_hardReset (s : Control.ControlSequence) : ofSequence s ≠ .hardReset := by
  have known : ofSequence? s ≠ some .hardReset := by
    unfold ofSequence?
    dsimp only
    split
    · exact ofPlainSequence?_ne_hardReset s
    · exact ofPrivateSequence?_ne_hardReset s
    · split <;> simp
    · split <;> simp
    · split
      · simp [ifZero_ne_hardReset]
      · split <;> simp [ifZero_ne_hardReset]
    · split <;> simp [ifZero_ne_hardReset]
    · split <;> simp
    · split <;> simp
    · simp
  unfold ofSequence
  split
  · simp
  · exact fun h => known (eq_some_hardReset (by simp) h)

end Command

namespace Terminal

variable (t : Terminal)

/-! ## Operating system commands -/

/-- The link in force is one that the table holds, or 0. -/
theorem retains_linkCommand (payload : List UInt8) : t.Retains (t.linkCommand payload) := by
  unfold Terminal.linkCommand
  split
  · exact .of_alters (t.alters_note ..) rfl
  · rename_i uri _
    have added :
        t.tables.Extends ⟨t.clusters, (t.links.intern (Text.Utf8.decodeLenient uri)).value.1⟩ :=
      ⟨fun _ _ h => h, fun _ _ h => t.links.get?_intern _ h⟩
    refine ⟨added, fun hs => ?_⟩
    obtain ⟨indexed, linked⟩ := hs.links.intern (Text.Utf8.decodeLenient uri)
    exact hs.of_tables (hs.valid.of_eq rfl rfl rfl rfl) rfl rfl added
      (linked.imp_right fun h => ⟨_, h⟩) indexed

theorem retains_operate (data : List UInt8) (bell : Bool) : t.Retains (t.operate data bell) := by
  cases hprompt : marksPrompt data with
  | false =>
    obtain ⟨painted | ⟨payload, linked⟩, grid⟩ := t.orders_operate hprompt bell
    · refine ⟨.of_eq (tables_of_alters painted rfl), fun hs => ?_⟩
      refine hs.of_grid painted rfl (hs.valid.operate data bell) ?_
      rcases grid with same | marked
      · exact same ▸ hs.grid
      · exact marked ▸ hs.grid.markAllDirty
    · exact linked ▸ t.retains_linkCommand payload
  | true =>
    rw [t.operate_of_marksPrompt hprompt, t.promptCommand_eq rfl]
    refine t.retains_modifyGrid fun hg => hg.modifyRow ?_ (fun _ => rfl) fun _ hr => hr
    exact hg.toValid.modifyRow _ fun _ hr => hr.of_cells rfl

/-! ## Commands -/

section

variable {edit : Grid → Nat → Color → Grid}

/-- An edit that keeps every grid sound. -/
def KeepsSound (edit : Grid → Nat → Color → Grid) : Prop :=
  ∀ {T kind cols rows g} n background, Grid.Sound T kind cols rows g →
    Grid.Sound T kind cols rows (edit g n background)

theorem retains_editLines (he : KeepsSound edit) (n : Nat) : t.Retains (t.editLines edit n) := by
  unfold Terminal.editLines
  refine t.retains_modifyGrid fun hg => ?_
  split
  · exact he _ _ hg
  · exact hg

theorem retains_scrollBy (he : KeepsSound edit) (n : Nat) : t.Retains (t.scrollBy edit n) := by
  unfold Terminal.scrollBy
  exact t.retains_modifyGrid fun hg => he _ _ hg

theorem retains_editCells (he : KeepsSound edit) (n : Nat) : t.Retains (t.editCells edit n) := by
  unfold Terminal.editCells
  exact t.retains_modifyGrid fun hg => (he _ _ hg).clearPending

end

theorem retains_eraseBy {erase : Grid → Nat → Color → Reported Grid}
    (he : KeepsSound fun g n background => (erase g n background).value) (mode : Nat) :
    t.Retains (t.eraseBy erase mode) := by
  unfold Terminal.eraseBy Terminal.modifyGridReported
  have erased :
      t.Retains (t.modifyGrid fun _ => (erase t.grid mode t.rendition.background).value) :=
    t.retains_modifyGrid fun hg => he _ _ hg
  exact .trans (.trans erased (.of_alters (alters_noteAll ..) rfl))
    (retains_modifyGrid _ fun hg => hg.clearPending)

theorem retains_alignmentTest : t.Retains t.alignmentTest := by
  unfold Terminal.alignmentTest
  refine t.retains_modifyGrid fun hg => ?_
  exact ((hg.fill (by decide)).setRegion 0 _).setCursor 0 0

/-- A command retains what is in the tables, a reset to the state after power-on apart. -/
theorem retains_run (now : Instant) {command : Command} (hc : command ≠ .hardReset) :
    t.Retains (t.run now command) := by
  have returned (u : Terminal) : u.Retains u.carriageReturn :=
    .of_ring u.alters_carriageReturn rfl (·.carriageReturn)
  cases command with
  | lineFeed => exact .ite (t.retains_lineFeed.trans (returned _)) t.retains_lineFeed
  | index => exact t.retains_lineFeed
  | reverseIndex => exact t.retains_reverseIndex
  | nextRow => exact (returned t).trans (retains_lineFeed _)
  | insertChars n => exact t.retains_editCells (fun n b hg => hg.insertChars n b) n
  | deleteChars n => exact t.retains_editCells (fun n b hg => hg.deleteChars n b) n
  | eraseChars n => exact t.retains_editCells (fun n b hg => hg.eraseChars n b) n
  | insertLines n => exact t.retains_editLines (fun n b hg => hg.scroll (.insertLines n b)) n
  | deleteLines n => exact t.retains_editLines (fun n b hg => hg.scroll (.deleteLines n b)) n
  | eraseDisplay mode => exact t.retains_eraseBy (fun n b hg => hg.eraseDisplay n b) mode
  | eraseLine mode => exact t.retains_eraseBy (fun n b hg => hg.eraseLine n b) mode
  | scrollUp n => exact t.retains_scrollBy (fun n b hg => hg.scroll (.up n b)) n
  | scrollDown n => exact t.retains_scrollBy (fun n b hg => hg.scroll (.down n b)) n
  | repeatLast n => exact t.retains_repeatLast n
  | setDecModes numbers on =>
    exact retains_foldl (fun t n => t.retains_setDecMode now on n) numbers t
  | restoreDecModes numbers =>
    exact retains_foldl (fun t n => t.retains_restoreDecMode now n) numbers t
  | alignmentTest => exact t.retains_alignmentTest
  | softReset => exact t.retains_softReset
  | hardReset => exact absurd rfl hc
  | _ => exact .of_ring (t.alters_run now _) rfl (·.run now _)

/-! ## Output -/

theorem retains_perform (now : Instant) {action : Control.Action} (ha : action ≠ resetRequest) :
    t.Retains (perform now t action) := by
  have apart := Retains.of_alters (t.alters_composeAt none) rfl
  cases action with
  | print c => exact t.retains_print c
  | execute byte => exact apart.trans (retains_run _ now (Command.ofControl_ne_hardReset byte))
  | escape s => exact apart.trans (retains_run _ now fun hc => ha (Command.eq_of_ofEscape hc))
  | control s => exact apart.trans (retains_run _ now (Command.ofSequence_ne_hardReset s))
  | command data bell => exact apart.trans (retains_operate _ data bell)
  | imageStart | imageData | imageEnd | request => exact .of_alters (t.alters_perform now _) rfl

variable {t} {cols rows : Nat}

theorem Sound.perform (h : t.Sound cols rows) (now : Instant) (action : Control.Action) :
    (perform now t action).Sound cols rows := by
  by_cases ha : action = resetRequest
  · exact ha ▸ ((Retains.of_alters (t.alters_composeAt none) rfl).sound h).hardReset
  · exact (t.retains_perform now ha).sound h

theorem retains_foldl_perform (now : Instant) {actions : List Control.Action}
    (hn : resetRequest ∉ actions) (t : Terminal) : t.Retains (actions.foldl (perform now) t) := by
  induction actions generalizing t with
  | nil => exact .refl t
  | cons action actions ih =>
    rw [List.mem_cons, not_or] at hn
    exact (t.retains_perform now (Ne.symm hn.1)).trans (ih hn.2 _)

/-- Output that does not ask for a reset to the state after power-on. -/
theorem retains_feed {bytes : List UInt8} (hn : resetRequest ∉ (t.decoder.feed bytes).2)
    (now : Instant) : t.Retains (t.feed bytes now) := by
  have read := Retains.of_alters (t.alters_reading bytes) rfl
  have none : resetRequest ∉ (t.decoder.feed bytes).2.toList := by simpa using hn
  have performed := read.trans (retains_foldl_perform now none _)
  rw [feed_eq]
  exact .ite performed (performed.trans (.of_alters (alters_schedule ..) rfl))

/-- No output leaves a reference to what is not there. -/
theorem Sound.feed (h : t.Sound cols rows) (bytes : List UInt8) (now : Instant) :
    (t.feed bytes now).Sound cols rows := by
  have read := (Retains.of_alters (t.alters_reading bytes) rfl).sound h
  exact feed_induction read (fun _ hu action _ => hu.perform now action) fun u schedule hu =>
    (Retains.of_alters (u.alters_schedule schedule) rfl).sound hu

end Terminal

/-! ## Hosts -/

/-- Whether an action of a host feeds output that asks for a reset to the state after power-on. -/
def HostAction.Resets (t : Terminal) : HostAction → Prop
  | .feed bytes _ => resetRequest ∈ (t.decoder.feed bytes).2
  | _ => False

instance (t : Terminal) (action : HostAction) : Decidable (action.Resets t) := by
  cases action
  case feed bytes now => exact inferInstanceAs (Decidable (resetRequest ∈ (t.decoder.feed bytes).2))
  all_goals exact instDecidableFalse

namespace Terminal

theorem sound_new (config : Config) :
    (Terminal.new config).Sound (max config.size.width 1) (max config.size.height 1) where
  valid := valid_new config
  primary := Grid.sound_new ..
  alternate := Grid.sound_new ..
  link := .inl rfl
  links := Links.indexed_empty

/-- A host retains what is in the tables, unless it changes the size or has a reset read. -/
theorem retains_apply (t : Terminal) {action : HostAction} (hr : ¬action.Resets t)
    (hsize : ∀ cols rows, action ≠ .resize cols rows) : t.Retains (action.apply t) := by
  cases action with
  | feed bytes now => exact retains_feed hr now
  | resize cols rows => exact absurd rfl (hsize cols rows)
  | viewUp n => exact t.retains_modifyGrid (f := fun g => (g.viewUp n).1) fun hg => hg.viewUp n
  | viewDown n =>
    exact t.retains_modifyGrid (f := fun g => (g.viewDown n).1) fun hg => hg.viewDown n
  | viewToBottom => exact t.retains_modifyGrid fun hg => hg.viewToBottom
  | previousPrompt =>
    exact t.retains_modifyGrid (f := fun g => g.previousPrompt.1) fun hg => hg.previousPrompt
  | nextPrompt => exact t.retains_modifyGrid (f := fun g => g.nextPrompt.1) fun hg => hg.nextPrompt
  | clearDirty => exact t.retains_modifyGrid fun hg => hg.clearDirty
  | _ => exact .of_alters (t.alters_apply _) rfl

/-- Only a reset to the state after power-on takes something out of the tables. -/
theorem extends_apply (t : Terminal) {action : HostAction} (hr : ¬action.Resets t) :
    t.tables.Extends (action.apply t).tables := by
  by_cases hsize : ∀ cols rows, action ≠ .resize cols rows
  · exact (t.retains_apply hr hsize).tables
  · simp only [not_forall, not_not] at hsize
    obtain ⟨cols, rows, rfl⟩ := hsize
    exact .of_eq (tables_of_alters (t.alters_resize cols rows) rfl)

/-- No action of a host leaves a reference to what is not there. -/
theorem Sound.apply {t : Terminal} {cols rows : Nat} (h : t.Sound cols rows) (action : HostAction) :
    ∃ cols' rows', (action.apply t).Sound cols' rows' := by
  cases action with
  | feed bytes now => exact ⟨cols, rows, h.feed bytes now⟩
  | resize cols' rows' => exact ⟨_, _, h.resize cols' rows'⟩
  | _ => exact ⟨cols, rows, (t.retains_apply (by simp [HostAction.Resets]) (by simp)).sound h⟩

theorem Sound.drive {t : Terminal} {cols rows : Nat} (h : t.Sound cols rows)
    (actions : List HostAction) :
    ∃ cols' rows', (actions.foldl HostAction.apply t).Sound cols' rows' := by
  induction actions generalizing t cols rows with
  | nil => exact ⟨cols, rows, h⟩
  | cons action actions ih =>
    obtain ⟨cols', rows', h'⟩ := h.apply action
    exact ih h'

/-- Every terminal that a host can hold is sound. -/
theorem sound_drive (config : Config) (actions : List HostAction) :
    (drive config actions).Sound (drive config actions).cols (drive config actions).rows := by
  obtain ⟨cols, rows, h⟩ := (sound_new config).drive actions
  have hcols : (drive config actions).cols = cols := h.valid.primary.cols_eq
  have hrows : (drive config actions).rows = rows := h.valid.primary.rows_eq
  rw [hcols, hrows]
  exact h

/-- In every terminal that a host can hold, each cell of each line has no key just if it is a right
half, has a key that names a character or a cluster of the table, and a link of the table or none;
and so has the link in force. As long as there is no reset to the state after power-on, a key and
the number of a link stand for what they stood for. -/
theorem drive_resolves (config : Config) (before more : List HostAction) :
    let t := drive config before
    let t' := more.foldl HostAction.apply t
    (∀ g ∈ [t'.primary, t'.alternate], ∀ line ∈ g.lines, ∀ c ∈ line.cells, c.Refers t'.tables) ∧
      t'.tables.HasLink t'.link ∧
      (Throughout HostAction.apply (fun u action => ¬action.Resets u) t more →
        t.tables.Extends t'.tables) := by
  intro t t'
  obtain ⟨cols, rows, h⟩ := (sound_drive config before).drive more
  refine ⟨fun g hg line hline c hc => ?_, h.link, fun none => ?_⟩
  · have refers : g.All (Cell.Refers t'.tables) := by
      rcases List.mem_cons.1 hg with rfl | hg
      · exact h.primary.refers
      · exact List.mem_singleton.1 hg ▸ h.alternate.refers
    exact refers line (Grid.mem_slots_of_mem_lines hline) c hc
  · exact none.foldl (p := fun u => t.tables.Extends u.tables)
      (fun u action hu hr => hu.trans (u.extends_apply hr)) (.refl _)

/-- A link of the word that is written, and the end of the link. -/
def linkedWord : List HostAction :=
  [.feed [0x1b, 0x5d, 0x38, 0x3b, 0x3b, 0x61, 0x1b, 0x5c, 0x77, 0x1b, 0x5d, 0x38, 0x3b, 0x3b,
    0x1b, 0x5c] 0]

/-- A narrow screen, a soft reset, and a word on the alternate screen. -/
def elsewhere : List HostAction :=
  [.resize 2 2, .feed [0x1b, 0x5b, 0x21, 0x70] 1,
    .feed [0x1b, 0x5b, 0x3f, 0x34, 0x37, 0x68, 0x78] 2, .viewUp 1]

theorem drive_resolves_elsewhere :
    let t := drive { size := ⟨4, 2⟩, scrollback := 1 } linkedWord
    Throughout HostAction.apply (fun u action => ¬action.Resets u) t elsewhere ∧
      t.tables.Extends (elsewhere.foldl HostAction.apply t).tables :=
  have none : Throughout HostAction.apply (fun u action => ¬action.Resets u)
      (drive { size := ⟨4, 2⟩, scrollback := 1 } linkedWord) elsewhere := by decide +kernel
  ⟨none, (drive_resolves { size := ⟨4, 2⟩, scrollback := 1 } linkedWord elsewhere).2.2 none⟩

end Terminal

end Teletype
