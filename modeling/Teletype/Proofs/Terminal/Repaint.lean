import Teletype.Proofs.Terminal.Damage
import Teletype.Proofs.Terminal.Feed
import Teletype.Proofs.Terminal.Reachable

/-!
# Colours are repainted

When output changes a colour in which cells are drawn, every row of the screen has to be drawn anew.
What changes one marks the screen, with two exceptions: the commands that reset the default colours.
-/

namespace Teletype

namespace Grid

/-- Every row of the screen is marked. -/
def Marked (g : Grid) : Prop := ∀ row < g.rows, ∃ r, g.row? row = some r ∧ r.dirty = true

instance (g : Grid) : Decidable g.Marked :=
  decidable_of_iff (∀ row < g.rows, (g.row? row).any Row.dirty = true)
    (forall₂_congr fun _ _ => Option.any_eq_true ..)

theorem Fresh.marked {g : Grid} {kind : ScreenKind} {cols rows : Nat} (h : g.Fresh)
    (hvalid : g.Valid kind cols rows) : g.Marked := by
  intro row hrow
  have lt : g.slotOf row < g.slots.size := Nat.mod_lt _ hvalid.capacity_pos
  have slot : g.slots[g.slotOf row]? = some g.slots[g.slotOf row] := Array.getElem?_eq_getElem lt
  refine ⟨g.slots[g.slotOf row], by rw [row?, if_pos hrow, slot], ?_⟩
  rcases h with ⟨hview, hall⟩ | hall
  · refine hall _ (mem_displayed.2 ⟨row, hrow, ?_⟩)
    rw [hview]
    exact slot
  · exact hall _ (Array.getElem_mem lt)

end Grid

namespace Terminal

/-- What the colours of cells depend on beside the cells. -/
structure Tint where
  palette : Palette
  foreground : Nat
  background : Nat
  reverseVideo : Bool
  deriving DecidableEq

/-- The colours in which cells are drawn. -/
def tint (t : Terminal) : Tint where
  palette := t.colors.palette
  foreground := t.colors.foreground
  background := t.colors.background
  reverseVideo := t.modes.dec.reverseVideo

theorem tint_of_alters {t u : Terminal} {aspects : List Aspect} (h : t.Alters aspects u)
    (hapart : Aspect.apart [.colors, .flag .reverseVideo] aspects = true) : u.tint = t.tint := by
  have colors := h.of_apart hapart (a := .colors) (by decide)
  have reverse : u.modes.dec.reverseVideo = t.modes.dec.reverseVideo :=
    h.of_apart hapart (a := .flag .reverseVideo) (by decide)
  obtain ⟨palette, grounds⟩ := Prod.ext_iff.1 colors
  obtain ⟨foreground, background⟩ := Prod.ext_iff.1 grounds
  exact Tint.mk.injEq .. |>.mpr ⟨palette, foreground, background, reverse⟩

/-! ## What changes them -/

/-- Between two states either all that is displayed came to be marked, or the colours are the same
and changed rows are marked. -/
structure Repaints (t t' : Terminal) : Prop where
  damages : t.Damages t'
  tint : t'.grid.Fresh ∨ t'.tint = t.tint

section

variable {t t' t'' : Terminal}

theorem Repaints.refl (t : Terminal) : t.Repaints t := ⟨.refl t, .inr rfl⟩

theorem Repaints.of_fresh (h : t'.grid.Fresh) : t.Repaints t' := ⟨.inl h, .inl h⟩

/-- An operation that alters neither the rows nor the colours repaints what it changes. -/
theorem Repaints.of_alters {aspects : List Aspect} (h : t.Alters aspects t')
    (hapart : Aspect.apart [.screen, .grid .ring, .colors, .flag .reverseVideo] aspects = true) :
    t.Repaints t' :=
  ⟨.of_alters h (Aspect.apart_mono hapart (by decide)),
    .inr (tint_of_alters h (Aspect.apart_mono hapart (by decide)))⟩

theorem Damages.fresh (h : t.Damages t') (hfresh : t.grid.Fresh) : t'.grid.Fresh := by
  rcases h with h | ⟨-, hkeeps⟩
  · exact h
  · exact hkeeps.fresh hfresh

theorem Repaints.trans (h : t.Repaints t') (h' : t'.Repaints t'') : t.Repaints t'' where
  damages := h.damages.trans h'.damages
  tint := by
    rcases h'.tint with hfresh | hsame
    · exact .inl hfresh
    · exact h.tint.imp h'.damages.fresh hsame.trans

theorem repaints_foldl {α : Type} {f : Terminal → α → Terminal}
    (hf : ∀ (t : Terminal) (a : α), t.Repaints (f t a)) (l : List α) (t : Terminal) :
    t.Repaints (l.foldl f t) :=
  List.foldlRecOn l f (.refl t) fun u hu a _ => hu.trans (hf u a)

end

variable (t : Terminal)

/-- Reverse video apart, no private mode changes the colours. -/
theorem tint_setDecMode (now : Instant) (on : Bool) {number : Nat} (h : number ≠ 5) :
    (setDecMode now on t number).tint = t.tint := by
  refine tint_of_alters (t.alters_setDecMode now on number) ?_
  by_cases screens : number ∈ screenNumbers
  · simp only [screenNumbers, List.mem_cons, List.not_mem_nil, or_false] at screens
    rcases screens with rfl | rfl | rfl | rfl <;> rfl
  · refine Aspect.apart_iff.2 fun a ha altered => ?_
    rcases List.mem_pair.1 ha with rfl | rfl
    · simpa using mem_ofDecMode screens altered
    · obtain ⟨f, hf, reverse⟩ : ∃ f : DecFlag, number = f.number ∧
          Aspect.flag .reverseVideo = .flag f := by
        simpa using mem_ofDecMode screens altered
      obtain rfl := Aspect.flag.inj reverse
      exact h hf

theorem repaints_setDecMode (now : Instant) (on : Bool) (number : Nat) :
    t.Repaints (setDecMode now on t number) := by
  refine ⟨t.damages_setDecMode now on number, ?_⟩
  by_cases h : number = 5
  · obtain rfl := h
    exact .inl (fresh_repaint _)
  · exact .inr (t.tint_setDecMode now on h)

theorem repaints_restoreDecMode (now : Instant) (number : Nat) :
    t.Repaints (restoreDecMode now t number) := by
  refine ⟨t.damages_restoreDecMode now number, ?_⟩
  unfold restoreDecMode
  split
  · exact .inr (tint_of_alters t.alters_restoreCursor rfl)
  · split
    · exact (t.repaints_setDecMode now _ number).tint
    · exact .inr (tint_of_alters (t.alters_note ..) rfl)

theorem repaints_run (now : Instant) (command : Command) : t.Repaints (t.run now command) := by
  refine ⟨t.damages_run now command, ?_⟩
  cases command with
  | setDecModes numbers on =>
    exact (repaints_foldl (fun t n => t.repaints_setDecMode now on n) numbers t).tint
  | restoreDecModes numbers =>
    exact (repaints_foldl (fun t n => t.repaints_restoreDecMode now n) numbers t).tint
  | hardReset => exact .inl t.fresh_hardReset
  | _ => exact .inr (tint_of_alters (t.alters_run now _) rfl)

/-! ## Operating system commands -/

theorem repaints_setColor (item : ColorItem) (value : Nat) :
    t.Repaints (t.setColor item value) := by
  cases item with
  | palette | foreground | background => exact .of_fresh (fresh_repaint _)
  | cursor => exact ⟨.inr ⟨rfl, .refl _⟩, .inr rfl⟩

theorem repaints_colorCommand (item : ColorItem) (payload : List UInt8) (terminator : Terminator) :
    t.Repaints (t.colorCommand item payload terminator) := by
  unfold colorCommand
  split
  · exact .of_alters (t.alters_reply _) rfl
  · split
    · exact t.repaints_setColor item _
    · exact .refl t
    · exact ⟨.inr ⟨rfl, .refl _⟩, .inr rfl⟩

theorem repaints_paletteCommand (terminator : Terminator) (items : List (List UInt8)) :
    t.Repaints (paletteCommand terminator t items) := by
  fun_induction paletteCommand terminator t items with
  | case1 => exact .refl _
  | case2 => exact .of_alters (alters_note ..) rfl
  | case3 t index payload rest i _ _ ih => exact (t.repaints_colorCommand _ _ _).trans ih
  | case4 => exact .refl _

/-- The number of an operating system command. -/
def commandNumber? (data : List UInt8) : Option Nat :=
  number? ((Text.cutAt? 0x3b data).getD (data, [])).1

/-- A command that resets a default colour. -/
def ResetsDefault (data : List UInt8) : Prop :=
  commandNumber? data = some 110 ∨ commandNumber? data = some 111

/-- Every command repaints, but for those that reset a default colour. -/
theorem repaints_operate {data : List UInt8} (h : ¬ResetsDefault data) (bell : Bool) :
    t.Repaints (t.operate data bell) := by
  unfold ResetsDefault commandNumber? at h
  unfold operate
  generalize (Text.cutAt? 0x3b data).getD (data, []) = parts at h
  dsimp only
  split
  · exact .of_alters (t.alters_note ..) rfl
  · rename_i command hcommand
    rw [hcommand] at h
    split
    · exact .of_alters (t.alters_setTitle _) rfl
    · exact .of_alters (t.alters_setTitle _) rfl
    · exact .refl t
    · exact .refl t
    · exact t.repaints_paletteCommand _ _
    · exact .of_alters (t.alters_directoryCommand _) rfl
    · exact .of_alters (t.alters_linkCommand _) rfl
    · exact .of_alters (t.alters_emit _) rfl
    · exact t.repaints_colorCommand _ _ _
    · exact t.repaints_colorCommand _ _ _
    · exact t.repaints_colorCommand _ _ _
    · exact ⟨.inr ⟨rfl, .refl _⟩, .inr rfl⟩
    · exact .of_alters (t.alters_clipboardCommand _ _) rfl
    · exact .of_alters (t.alters_partCommand _) rfl
    · exact .of_fresh (fresh_repaint _)
    · exact absurd (.inl rfl) h
    · exact absurd (.inr rfl) h
    · exact ⟨.inr ⟨rfl, .refl _⟩, .inr rfl⟩
    · have marked : t.Damages
          (t.modifyGrid (·.modifyRow t.cursor.row ({ · with prompt := true }))) :=
        t.damages_modifyGrid (.inr (Grid.keeps_modifyRow _ _ fun _ hr => hr))
      exact ⟨.ite marked (.refl t), .inr (tint_of_alters (t.alters_promptCommand _) rfl)⟩
    · exact .of_alters (t.alters_emit _) rfl
    · exact .of_alters (t.alters_notifyCommand _) rfl
    · exact .of_alters (t.alters_note ..) rfl

/-- Resetting a default colour changes nothing else of what is displayed, no mark either. -/
theorem operate_resetsDefault {data : List UInt8} (h : ResetsDefault data) (bell : Bool) :
    (t.operate data bell).grid = t.grid ∧ (t.operate data bell).tint.palette = t.tint.palette ∧
      (t.operate data bell).tint.reverseVideo = t.tint.reverseVideo := by
  unfold ResetsDefault commandNumber? at h
  unfold operate
  generalize (Text.cutAt? 0x3b data).getD (data, []) = parts at h
  dsimp only
  rcases h with h | h
  · rw [h]
    exact ⟨rfl, rfl, rfl⟩
  · rw [h]
    exact ⟨rfl, rfl, rfl⟩

/-! ## Output -/

/-- Colours change and nothing else of what is displayed does, no mark either. -/
structure Recolors (t t' : Terminal) : Prop where
  grid : t'.grid = t.grid
  tint : t'.tint ≠ t.tint

theorem repaints_perform (now : Instant) {action : Control.Action}
    (h : ∀ data bell, action = .command data bell → ¬ResetsDefault data) :
    t.Repaints (perform now t action) := by
  have apart := Repaints.of_alters (t.alters_composeAt none) rfl
  cases action with
  | execute | escape | control => exact apart.trans (repaints_run _ now _)
  | command data bell => exact apart.trans (repaints_operate _ (h data bell rfl) bell)
  | _ => exact ⟨t.damages_perform now _, .inr (tint_of_alters (t.alters_perform now _) rfl)⟩

theorem perform_resetsDefault (now : Instant) {data : List UInt8} (h : ResetsDefault data)
    (bell : Bool) : (perform now t (.command data bell)).grid = t.grid ∧
      (perform now t (.command data bell)).tint.palette = t.tint.palette ∧
      (perform now t (.command data bell)).tint.reverseVideo = t.tint.reverseVideo :=
  operate_resetsDefault { t with composeAt := none } h bell

/-- What there is to say of colours that were not repainted: only default colours changed, and the
last change was their reset. -/
structure Unpainted (now : Instant) (t : Terminal) (actions : List Control.Action) : Prop where
  palette : (actions.foldl (perform now) t).tint.palette = t.tint.palette
  reverseVideo : (actions.foldl (perform now) t).tint.reverseVideo = t.tint.reverseVideo
  reset : (actions.foldl (perform now) t).tint = t.tint ∨ ∃ before data bell after,
    actions = before ++ .command data bell :: after ∧ ResetsDefault data ∧
      (before.foldl (perform now) t).Recolors
      (perform now (before.foldl (perform now) t) (.command data bell))

theorem damages_foldl_perform (now : Instant) (actions : List Control.Action) :
    t.Damages (actions.foldl (perform now) t) := by
  induction actions generalizing t with
  | nil => exact .refl t
  | cons action actions ih => exact (damages_perform t now action).trans (ih _)

/-- What there is to say of actions can be said of them after one that recolours nothing or resets a
default colour. -/
theorem Unpainted.cons {now : Instant} {t : Terminal} {action : Control.Action}
    {actions : List Control.Action} (h : Unpainted now (perform now t action) actions)
    (palette : (perform now t action).tint.palette = t.tint.palette)
    (reverseVideo : (perform now t action).tint.reverseVideo = t.tint.reverseVideo)
    (first : (perform now t action).tint = t.tint ∨ ∃ data bell, action = .command data bell ∧
      ResetsDefault data ∧ t.Recolors (perform now t action)) :
        Unpainted now t (action :: actions) where
  palette := h.palette.trans palette
  reverseVideo := h.reverseVideo.trans reverseVideo
  reset := by
    rcases h.reset with hsame | ⟨before, data, bell, after, rfl, hdata, hrecolors⟩
    · rcases first with hfirst | ⟨data, bell, rfl, hdata, hrecolors⟩
      · exact .inl (hsame.trans hfirst)
      · exact .inr ⟨[], data, bell, actions, rfl, hdata, hrecolors⟩
    · exact .inr ⟨action :: before, data, bell, after, rfl, hdata, hrecolors⟩

theorem fresh_or_unpainted (now : Instant) (actions : List Control.Action) :
    (actions.foldl (perform now) t).grid.Fresh ∨ Unpainted now t actions := by
  induction actions generalizing t with
  | nil => exact .inr ⟨rfl, rfl, .inl rfl⟩
  | cons action actions ih =>
    rcases ih (perform now t action) with hfresh | hrest
    · exact .inl hfresh
    · by_cases hreset : ∃ data bell, action = .command data bell ∧ ResetsDefault data
      · obtain ⟨data, bell, rfl, hdata⟩ := hreset
        obtain ⟨grid, palette, reverseVideo⟩ := t.perform_resetsDefault now hdata bell
        refine .inr (hrest.cons palette reverseVideo ?_)
        by_cases hsame : (perform now t (.command data bell)).tint = t.tint
        · exact .inl hsame
        · exact .inr ⟨data, bell, rfl, hdata, grid, hsame⟩
      · have step : t.Repaints (perform now t action) :=
          t.repaints_perform now fun data bell haction hdata => hreset ⟨data, bell, haction, hdata⟩
        rcases step.tint with hfresh | hsame
        · exact .inl ((damages_foldl_perform _ now actions).fresh hfresh)
        · exact .inr (hrest.cons (congrArg Tint.palette hsame) (congrArg Tint.reverseVideo hsame)
            (.inl hsame))

/-- When output changes a colour in which cells are drawn, either every row of the screen in use is
marked, or only default colours changed and a command of the output reset one of them to another
value, which leaves every mark as it was. -/
theorem recolored_marked_or_reset (config : Config) (actions : List HostAction) (bytes : List UInt8)
    (now : Instant) :
    let t := drive config actions
    let t' := t.feed bytes now
    t'.tint ≠ t.tint → t'.grid.Marked ∨
      t'.tint.palette = t.tint.palette ∧ t'.tint.reverseVideo = t.tint.reverseVideo ∧
        ∃ before data bell after, (t.decoder.feed bytes).2.toList =
          before ++ .command data bell :: after ∧ ResetsDefault data ∧
          (before.foldl (perform now) (t.reading bytes)).Recolors
            (perform now (before.foldl (perform now) (t.reading bytes)) (.command data bell)) := by
  intro t t' h
  have valid := (drive_valid config actions).feed bytes now
  have fed :
      t'.grid = ((t.decoder.feed bytes).2.toList.foldl (perform now) (t.reading bytes)).grid ∧
      t'.tint = ((t.decoder.feed bytes).2.toList.foldl (perform now) (t.reading bytes)).tint := by
    show (t.feed bytes now).grid = _ ∧ (t.feed bytes now).tint = _
    rw [feed_eq]
    dsimp only
    split <;> exact ⟨rfl, rfl⟩
  rcases (t.reading bytes).fresh_or_unpainted now (t.decoder.feed bytes).2.toList with
    hfresh | hunpainted
  · rw [← fed.1] at hfresh
    exact .inl (hfresh.marked valid.grid)
  · rw [fed.2] at h ⊢
    exact .inr ⟨hunpainted.palette, hunpainted.reverseVideo, hunpainted.reset.resolve_left h⟩

/-- A terminal of one cell. -/
def oneCell : Config := { size := ⟨1, 1⟩, scrollback := 0 }

/-- The foreground is red, and a frame was drawn since. -/
def redDrawn : Terminal :=
  drive oneCell [.feed (Text.Utf8.encode "\x1b]10;#ff0000\x07") 0, .clearDirty]

/-- Reverse video marks the row. -/
theorem recolored_marked_reverse :
    (redDrawn.feed (Text.Utf8.encode "\x1b[?5h") 0).tint ≠ redDrawn.tint ∧
      (redDrawn.feed (Text.Utf8.encode "\x1b[?5h") 0).grid.Marked := by
  have switched : (redDrawn.feed (Text.Utf8.encode "\x1b[?5h") 0).tint.reverseVideo ≠
      redDrawn.tint.reverseVideo := by
    decide +kernel
  have changed : (redDrawn.feed (Text.Utf8.encode "\x1b[?5h") 0).tint ≠ redDrawn.tint := fun same =>
    switched (congrArg Tint.reverseVideo same)
  have marked :=
    recolored_marked_or_reset oneCell [.feed (Text.Utf8.encode "\x1b]10;#ff0000\x07") 0,
      .clearDirty] (Text.Utf8.encode "\x1b[?5h") 0 changed
  exact ⟨changed, marked.resolve_right fun kept => switched kept.2.1⟩

/-- Resetting the foreground changes it and leaves the row without a mark. -/
theorem recolored_unmarked_foreground :
    (redDrawn.feed (Text.Utf8.encode "\x1b]110\x07") 0).tint.foreground ≠ redDrawn.tint.foreground ∧
      ¬(redDrawn.feed (Text.Utf8.encode "\x1b]110\x07") 0).grid.Marked := by
  decide +kernel

end Terminal

end Teletype
