import Teletype.Proofs.Rendition.Selector
import Teletype.Proofs.Terminal.Reachable

/-!
# The settings of reachable terminals

A rendition in force, and one that comes back with the cursor, can always be selected, and a region
always has two rows, unless the screen has one. A change of the settings leaves them so, and nothing
else changes them.
-/

namespace Teletype

/-! ## What the settings can be -/

/-- A region that can be chosen on a screen of the given height: of two rows, or the only one. -/
def Region.Selectable (rows : Nat) (region : Region) : Prop :=
  region.bottom ≤ rows ∧ (region.top + 2 ≤ region.bottom ∨ rows = 1 ∧ region = .full 1)

theorem Region.selectable_full {rows : Nat} (hrows : 0 < rows) :
    (Region.full rows).Selectable rows := by
  obtain rfl | two : rows = 1 ∨ 2 ≤ rows := by omega
  · exact ⟨Nat.le_refl _, .inr ⟨rfl, rfl⟩⟩
  · exact ⟨Nat.le_refl _, .inl (by simpa [Region.full] using two)⟩

namespace Grid

/-- The region, within a height, and the rendition that was saved with the cursor. -/
structure Setup where
  rows : Nat
  region : Region
  saved : Rendition

/-- The settings of a grid. -/
def setup (g : Grid) : Setup := ⟨g.rows, g.region, g.saved.rendition⟩

/-- The settings are among the bearings. -/
theorem setup_of_bearings {g g' : Grid} (h : g'.bearings = g.bearings) : g'.setup = g.setup :=
  congrArg (fun b : Bearings => (⟨b.rows, b.region, b.saved.rendition⟩ : Setup)) h

theorem setup_of_aspects {g g' : Grid} (size : g'.aspect .size = g.aspect .size)
    (region : g'.region = g.region) (saved : g'.saved = g.saved) : g'.setup = g.setup := by
  have rows : g'.rows = g.rows := congrArg (fun a : Nat × Nat => a.2) size
  rw [setup, rows, region, saved, setup]

/-- The settings of a screen of the given height, each of which can be selected. -/
structure Setup.Selectable (rows : Nat) (s : Setup) : Prop where
  rows_eq : s.rows = rows
  rows_pos : 0 < rows
  region : s.region.Selectable rows
  saved : s.saved.Selectable

namespace Selectable

variable {rows : Nat} {g : Grid}

/-- A region that can be chosen stays so when a grid of that height takes it. -/
theorem setRegion (h : g.setup.Selectable rows) {region : Region}
    (hregion : region.Selectable rows) :
    (g.setRegion region.top region.bottom).setup.Selectable rows := by
  have same : g.rows = rows := h.rows_eq
  have inside : min region.bottom g.rows = region.bottom := by have := hregion.1; omega
  unfold Grid.setRegion
  rw [inside]
  dsimp only
  split
  · exact { h with region := hregion }
  · exact h

theorem whole (h : g.setup.Selectable rows) : (g.setRegion 0 rows).setup.Selectable rows :=
  setRegion h (Region.selectable_full h.rows_pos)

theorem clearAll (h : g.setup.Selectable rows) : g.clearAll.setup.Selectable rows where
  rows_eq := h.rows_eq
  rows_pos := h.rows_pos
  region := by
    have same : g.rows = rows := h.rows_eq
    show (Region.full g.rows).Selectable rows
    exact same ▸ Region.selectable_full (same ▸ h.rows_pos)
  saved := Rendition.selectable_default

theorem resize (h : g.setup.Selectable rows) (rows' cols' : Nat) (reflow : Bool) :
    (g.resize rows' cols' reflow).setup.Selectable (max rows' 1) := by
  have positive : 0 < max rows' 1 := by omega
  unfold Grid.resize
  dsimp only
  split
  · rename_i same
    simp only [Bool.and_eq_true, decide_eq_true_eq] at same
    have kept : g.rows = rows := h.rows_eq
    rw [same.1, kept]
    exact h
  · exact ⟨rfl, positive, Region.selectable_full positive, h.saved⟩

theorem new (kind : ScreenKind) (cols rows scrollback : Nat) :
    (Grid.new kind cols rows scrollback).setup.Selectable (max rows 1) where
  rows_eq := rfl
  rows_pos := by omega
  region := Region.selectable_full (by omega)
  saved := Rendition.selectable_default

end Selectable

end Grid

namespace Command

/-- A count that the command has is at least one. -/
def Counted : Command → Prop
  | .setRegion top _ => 1 ≤ top
  | _ => True

theorem counted_ofControl (byte : UInt8) : (ofControl byte).Counted := by
  unfold ofControl
  split <;> trivial

/-- Of what may be no command, only a command has a count. -/
theorem counted_getD {command? : Option Command} {c : Command} (h : command?.elim True Counted)
    (hc : c.Counted) : (command?.getD c).Counted := by
  cases command? with
  | none => exact hc
  | some command => exact h

theorem counted_ofEscape (s : Control.EscapeSequence) : (ofEscape s).Counted := by
  refine counted_getD ?_ trivial
  unfold ofEscape?
  split
  · unfold ofPlainEscape?
    split <;> trivial
  · split
    · trivial
    · split <;> trivial
  · trivial

theorem counted_ifZero (p : Control.Params) {c : Command} (h : c.Counted) :
    (ifZero p c).Counted := by
  unfold ifZero
  split
  · exact h
  · trivial

theorem count_pos (p : Control.Params) : 1 ≤ p.count := by
  unfold Control.Params.count Control.Params.get
  split
  · exact Nat.le_refl 1
  · omega

theorem counted_ite {p : Prop} [Decidable p] {a b : Command} (ha : a.Counted) (hb : b.Counted) :
    (if p then a else b).Counted := by
  split
  · exact ha
  · exact hb

theorem counted_ofPlainSequence (s : Control.ControlSequence) :
    (ofPlainSequence? s).elim True Counted := by
  unfold ofPlainSequence?
  dsimp only
  split
  case h_25 => exact counted_ifZero _ trivial
  case h_32 => exact count_pos _
  case h_33 => exact counted_ite trivial trivial
  all_goals trivial

theorem counted_ofPrivateSequence (s : Control.ControlSequence) :
    (ofPrivateSequence? s).elim True Counted := by
  unfold ofPrivateSequence?
  dsimp only
  split
  case h_5 => split <;> trivial
  all_goals trivial

theorem counted_ofSequence (s : Control.ControlSequence) : (ofSequence s).Counted := by
  refine counted_ite trivial (counted_getD ?_ trivial)
  unfold ofSequence?
  dsimp only
  split
  · exact counted_ofPlainSequence s
  · exact counted_ofPrivateSequence s
  · split <;> trivial
  · split <;> trivial
  · split
    · exact counted_ifZero _ trivial
    · split
      · exact counted_ifZero _ trivial
      · trivial
  · split
    · exact counted_ifZero _ trivial
    · trivial
  · split <;> trivial
  · split <;> trivial
  · trivial

end Command

namespace Terminal

/-- The settings of a terminal, on both screens. -/
structure Setup where
  screen : ScreenKind
  primary : Grid.Setup
  alternate : Grid.Setup
  rendition : Rendition
  cursorShape : CursorShape
  cursorBlink : Bool

/-- The settings in force and those that can come back. -/
def setup (t : Terminal) : Setup where
  screen := t.screen
  primary := t.primary.setup
  alternate := t.alternate.setup
  rendition := t.rendition
  cursorShape := t.cursorShape
  cursorBlink := t.cursorBlink

/-- What the settings of the screens depend on. -/
def Aspect.chosen : List Aspect :=
  [.screen, .hidden, .grid .size, .grid .region, .grid .saved, .rendition]

theorem grids_setup_of_alters {t u : Terminal} {aspects : List Aspect} (h : t.Alters aspects u)
    (hapart : Aspect.apart Aspect.chosen aspects = true) :
    u.primary.setup = t.primary.setup ∧ u.alternate.setup = t.alternate.setup := by
  have size := h.both (a := .size) (Aspect.apart_mono hapart (by decide))
  have region := h.both (a := .region) (Aspect.apart_mono hapart (by decide))
  have saved := h.both (a := .saved) (Aspect.apart_mono hapart (by decide))
  exact ⟨Grid.setup_of_aspects size.1 region.1 saved.1,
    Grid.setup_of_aspects size.2 region.2 saved.2⟩

theorem setup_of_alters {t u : Terminal} {aspects : List Aspect} (h : t.Alters aspects u)
    (hapart : Aspect.apart (.cursorStyle :: Aspect.chosen) aspects = true) : u.setup = t.setup := by
  obtain ⟨primary, alternate⟩ := grids_setup_of_alters h (Aspect.apart_mono hapart (by decide))
  have screen : u.screen = t.screen := h.of_apart hapart (a := .screen) (by decide)
  have rendition : u.rendition = t.rendition := h.of_apart hapart (a := .rendition) (by decide)
  obtain ⟨shape, blink⟩ := Prod.ext_iff.1 (h.of_apart hapart (a := .cursorStyle) (by decide))
  exact Setup.mk.injEq .. |>.mpr ⟨screen, primary, alternate, rendition, shape, blink⟩

/-- The settings of a terminal of the given height, each of which can be selected. -/
structure Setup.Selectable (rows : Nat) (s : Setup) : Prop where
  primary : s.primary.Selectable rows
  alternate : s.alternate.Selectable rows
  rendition : s.rendition.Selectable

namespace Selectable

variable {rows : Nat} {t : Terminal}

theorem of_alters {u : Terminal} {aspects : List Aspect} (h : t.setup.Selectable rows)
    (hu : t.Alters aspects u) (hapart : Aspect.apart Aspect.chosen aspects = true) :
    u.setup.Selectable rows := by
  obtain ⟨primary, alternate⟩ := grids_setup_of_alters hu hapart
  have rendition : u.rendition = t.rendition := hu.of_apart hapart (a := .rendition) (by decide)
  refine ⟨?_, ?_, ?_⟩
  · show u.primary.setup.Selectable rows
    exact primary ▸ h.primary
  · show u.alternate.setup.Selectable rows
    exact alternate ▸ h.alternate
  · show u.rendition.Selectable
    exact rendition ▸ h.rendition

theorem ite {p : Prop} [Decidable p] {a b : Terminal} (ha : a.setup.Selectable rows)
    (hb : b.setup.Selectable rows) : (if p then a else b).setup.Selectable rows := by
  split
  · exact ha
  · exact hb

theorem foldl {α : Type} {f : Terminal → α → Terminal} (h : t.setup.Selectable rows)
    (hf : ∀ t a, t.setup.Selectable rows → (f t a).setup.Selectable rows) (l : List α) :
    (l.foldl f t).setup.Selectable rows :=
  List.foldlRecOn l f h fun u hu a _ => hf u a hu

theorem grid (h : t.setup.Selectable rows) : t.grid.setup.Selectable rows := by
  unfold Terminal.grid
  cases t.screen with
  | primary => exact h.primary
  | alternate => exact h.alternate

/-- A change of the grid in use, given what its settings are. -/
theorem modifyGrid (h : t.setup.Selectable rows) {f : Grid → Grid}
    (hf : t.grid.setup.Selectable rows → (f t.grid).setup.Selectable rows) :
    (t.modifyGrid f).setup.Selectable rows := by
  have changed := hf (grid h)
  unfold Terminal.grid at changed
  unfold Terminal.modifyGrid
  cases hs : t.screen with
  | primary =>
    simp only [hs] at changed
    exact ⟨changed, h.alternate, h.rendition⟩
  | alternate =>
    simp only [hs] at changed
    exact ⟨h.primary, changed, h.rendition⟩

/-- Settings can still be selected when the rendition becomes another one that can. -/
theorem of_rendition (h : t.setup.Selectable rows) {rendition : Rendition}
    (hrendition : rendition.Selectable) {t' : Terminal} (hp : t'.primary = t.primary)
    (ha : t'.alternate = t.alternate) (hr : t'.rendition = rendition) :
    t'.setup.Selectable rows where
  primary := by
    show t'.primary.setup.Selectable rows
    exact hp ▸ h.primary
  alternate := by
    show t'.alternate.setup.Selectable rows
    exact ha ▸ h.alternate
  rendition := by
    show t'.rendition.Selectable
    exact hr ▸ hrendition

/-! ## What changes a setting -/

theorem saveCursor (h : t.setup.Selectable rows) : t.saveCursor.setup.Selectable rows :=
  modifyGrid h fun hg => { hg with saved := h.rendition }

theorem restoreCursor (h : t.setup.Selectable rows) : t.restoreCursor.setup.Selectable rows := by
  have saved := (grid h).saved
  unfold Terminal.restoreCursor
  dsimp only
  refine modifyGrid ?_ fun hg => ?_
  · exact of_rendition h saved rfl rfl rfl
  · split
    · exact hg
    · exact hg

theorem enterAlternate (h : t.setup.Selectable rows) (save : Bool) :
    (t.enterAlternate save).setup.Selectable rows := by
  unfold Terminal.enterAlternate
  split
  · exact h
  · have left : (if save then t.saveCursor else t).setup.Selectable rows := ite (saveCursor h) h
    dsimp only
    generalize (if save then t.saveCursor else t) = t at left ⊢
    have entered : (t.alternate.setRegion t.primary.region.top
        t.primary.region.bottom).setup.Selectable rows :=
      Grid.Selectable.setRegion left.alternate left.primary.region
    generalize t.alternate.setRegion t.primary.region.top t.primary.region.bottom = g at entered ⊢
    refine ⟨left.primary, ?_, left.rendition⟩
    show ((g.setCursor t.primary.cursor.row t.primary.cursor.col).eraseRows 0 g.rows
      .default).setup.Selectable rows
    exact (Grid.setup_of_bearings (Grid.bearings_eraseRows _ 0 g.rows .default)).symm ▸ entered

theorem leaveAlternate (h : t.setup.Selectable rows) (restore : Bool) :
    (t.leaveAlternate restore).setup.Selectable rows := by
  unfold Terminal.leaveAlternate
  split
  · have entered := Grid.Selectable.setRegion h.primary h.alternate.region
    have back : ({ t with
        screen := .primary
        primary := (t.primary.setRegion t.alternate.region.top t.alternate.region.bottom).setCursor
          t.alternate.cursor.row t.alternate.cursor.col } : Terminal).setup.Selectable rows :=
      ⟨entered, h.alternate, h.rendition⟩
    dsimp only
    generalize ({ t with
        screen := .primary
        primary := (t.primary.setRegion t.alternate.region.top t.alternate.region.bottom).setCursor
          t.alternate.cursor.row t.alternate.cursor.col } : Terminal) = t' at back ⊢
    have restored : (if restore then t'.restoreCursor else t').setup.Selectable rows :=
      ite (restoreCursor back) back
    exact ⟨restored.primary, restored.alternate, restored.rendition⟩
  · exact h

theorem softReset (h : t.setup.Selectable rows) : t.softReset.setup.Selectable rows := by
  have height : t.rows = rows := h.primary.rows_eq
  unfold Terminal.softReset
  dsimp only
  rw [height]
  refine modifyGrid ?_
    fun hg => { Grid.Selectable.whole hg with saved := Rendition.selectable_default }
  exact of_rendition h Rendition.selectable_default rfl rfl rfl

theorem hardReset (h : t.setup.Selectable rows) : t.hardReset.setup.Selectable rows := by
  have back := leaveAlternate h false
  refine ⟨?_, Grid.Selectable.clearAll back.alternate, Rendition.selectable_default⟩
  show (t.leaveAlternate false).primary.clearAll.viewToBottom.setup.Selectable rows
  exact (Grid.setup_of_bearings (Grid.bearings_viewToBottom _)).symm ▸
    Grid.Selectable.clearAll back.primary

theorem alignmentTest (h : t.setup.Selectable rows) : t.alignmentTest.setup.Selectable rows := by
  have height : t.rows = rows := h.primary.rows_eq
  unfold Terminal.alignmentTest
  refine modifyGrid h fun hg => ?_
  rw [height]
  have filled : (t.grid.fill 'E').setup.Selectable rows :=
    (Grid.setup_of_bearings (Grid.bearings_fill _ 'E')).symm ▸ hg
  exact Grid.Selectable.whole filled

theorem resize (h : t.setup.Selectable rows) (cols' rows' : Nat) :
    (t.resize cols' rows').setup.Selectable (max rows' 1) := by
  unfold Terminal.resize
  dsimp only
  split
  · rename_i same
    simp only [Bool.and_eq_true, decide_eq_true_eq] at same
    have height : t.rows = rows := h.primary.rows_eq
    rw [same.2, height]
    exact h
  · have cut (g : Grid) (hg : g.setup.Selectable rows) (reflow : Bool) :
        (g.resize (max rows' 1) (max cols' 1) reflow).setup.Selectable (max rows' 1) := by
      have resized := Grid.Selectable.resize hg (max rows' 1) (max cols' 1) reflow
      rwa [Nat.max_eq_left (Nat.le_max_right rows' 1)] at resized
    have resized : ({ t with
        tabs := t.tabsFor (max cols' 1)
        primary := t.primary.resize (max rows' 1) (max cols' 1) t.config.reflow
        alternate := t.alternate.resize (max rows' 1) (max cols' 1) false
        composeAt := none
        schedule := t.schedule.requestImmediate } : Terminal).setup.Selectable (max rows' 1) :=
      ⟨cut t.primary h.primary t.config.reflow, cut t.alternate h.alternate false, h.rendition⟩
    exact of_alters (of_alters resized (alters_repaint _) rfl) (alters_note ..) rfl

theorem setDecMode (h : t.setup.Selectable rows) (now : Instant) (on : Bool) (number : Nat) :
    (setDecMode now on t number).setup.Selectable rows := by
  by_cases screens : number ∈ screenNumbers
  · simp only [screenNumbers, List.mem_cons, List.not_mem_nil, or_false] at screens
    rcases screens with rfl | rfl | rfl | rfl
    · exact ite (enterAlternate h false) (leaveAlternate h false)
    · exact ite (enterAlternate h false) (leaveAlternate h false)
    · exact ite (saveCursor h) (restoreCursor h)
    · exact ite (enterAlternate h true) (leaveAlternate h true)
  · exact of_alters h (t.alters_setDecMode_toggled now on screens) rfl

theorem saveDecMode (h : t.setup.Selectable rows) (number : Nat) :
    (t.saveDecMode number).setup.Selectable rows := by
  unfold Terminal.saveDecMode
  refine ite (saveCursor h) ?_
  split <;> exact h

theorem restoreDecMode (h : t.setup.Selectable rows) (now : Instant) (number : Nat) :
    (restoreDecMode now t number).setup.Selectable rows := by
  unfold Terminal.restoreDecMode
  refine ite (restoreCursor h) ?_
  split
  · exact setDecMode h now _ number
  · exact h

/-- A region that is chosen has two rows. -/
theorem chooseRegion (h : t.setup.Selectable rows) {top : Nat} (htop : 1 ≤ top) (bottom : Nat) :
    (t.chooseRegion top bottom).setup.Selectable rows := by
  have height : t.grid.rows = rows := (grid h).rows_eq
  unfold Terminal.chooseRegion
  dsimp only
  rw [height]
  have inside : (if bottom = 0 then rows else min bottom rows) ≤ rows := by split <;> omega
  generalize (if bottom = 0 then rows else min bottom rows) = bottom at inside ⊢
  split
  · rename_i two
    refine of_alters (modifyGrid h fun hg => ?_) (alters_goTo _ 0 0) rfl
    have chosen : Region.Selectable rows ⟨top - 1, bottom⟩ := ⟨inside, .inl (by dsimp only; omega)⟩
    exact Grid.Selectable.setRegion hg chosen
  · exact h

theorem selectRendition (h : t.setup.Selectable rows) (params : Control.Params) :
    (t.selectRendition params).setup.Selectable rows :=
  of_rendition h (h.rendition.select params) rfl rfl rfl

/-! ## Every run -/

theorem run (h : t.setup.Selectable rows) (now : Instant) {command : Command}
    (hc : command.Counted) : (t.run now command).setup.Selectable rows := by
  cases command with
  | setRegion top bottom => exact chooseRegion h hc bottom
  | saveCursor => exact saveCursor h
  | restoreCursor => exact restoreCursor h
  | selectRendition params => exact selectRendition h params
  | setDecModes numbers on => exact foldl h (fun _ n ht => setDecMode ht now on n) numbers
  | saveDecModes numbers => exact foldl h (fun _ n ht => saveDecMode ht n) numbers
  | restoreDecModes numbers => exact foldl h (fun _ n ht => restoreDecMode ht now n) numbers
  | alignmentTest => exact alignmentTest h
  | softReset => exact softReset h
  | hardReset => exact hardReset h
  | _ => exact of_alters h (t.alters_run now _) rfl

theorem perform (h : t.setup.Selectable rows) (now : Instant) (action : Control.Action) :
    (perform now t action).setup.Selectable rows := by
  have apart : ({ t with composeAt := none } : Terminal).setup.Selectable rows := h
  cases action with
  | execute byte => exact run apart now (Command.counted_ofControl byte)
  | escape s => exact run apart now (Command.counted_ofEscape s)
  | control s => exact run apart now (Command.counted_ofSequence s)
  | _ => exact of_alters h (t.alters_perform now _) rfl

/-- Output leaves only settings that can be selected. -/
theorem feed (h : t.setup.Selectable rows) (bytes : List UInt8) (now : Instant) :
    (t.feed bytes now).setup.Selectable rows := by
  have read : (t.reading bytes).setup.Selectable rows := h
  exact feed_induction (p := fun u => u.setup.Selectable rows) read
    (fun _ hu action _ => perform hu now action) fun _ _ hu => hu

end Selectable

theorem selectable_new (config : Config) :
    (Terminal.new config).setup.Selectable (max config.size.height 1) where
  primary := Grid.Selectable.new ..
  alternate := Grid.Selectable.new ..
  rendition := Rendition.selectable_default

/-- Only a change of the size changes the height. -/
theorem Selectable.apply {t : Terminal} {rows : Nat} (h : t.setup.Selectable rows)
    (action : HostAction) : ∃ rows', (action.apply t).setup.Selectable rows' := by
  cases action with
  | feed bytes now => exact ⟨rows, feed h bytes now⟩
  | resize cols rows' => exact ⟨_, resize h cols rows'⟩
  | _ => exact ⟨rows, of_alters h (t.alters_apply _) rfl⟩

/-- Whatever a host and its applications did, the settings can be selected. -/
theorem drive_selectable (config : Config) (actions : List HostAction) :
    (drive config actions).setup.Selectable (drive config actions).rows := by
  suffices reached : ∃ rows, (drive config actions).setup.Selectable rows by
    obtain ⟨rows, h⟩ := reached
    have height : (drive config actions).rows = rows := h.primary.rows_eq
    exact height ▸ h
  unfold drive
  have start := selectable_new config
  generalize Terminal.new config = t at start
  generalize max config.size.height 1 = rows at start
  induction actions generalizing t rows with
  | nil => exact ⟨rows, start⟩
  | cons action actions ih =>
    obtain ⟨rows', acted⟩ := Selectable.apply start action
    exact ih _ rows' acted

end Terminal

end Teletype
