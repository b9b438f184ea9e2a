import Teletype.Proofs.Terminal.LastColumn
import Teletype.Proofs.Terminal.SavedCursor

/-!
# The deferred wrap

A wrap is pending to keep a backspace and a return to the row possible before the text goes on in
the next one. It makes sense with autowrap only: without it the next character stays in the row
anyway. Every operation but printing looks at the mode: the wrap is dropped when autowrap is
switched, and a saved cursor brings the mode back that was saved with it. Printing into the last
column does not.
-/

namespace Teletype

/-- A wrap is pending only with autowrap. -/
def SavedCursor.Deferred (s : SavedCursor) : Prop := s.cursor.pendingWrap = true → s.autowrap = true

namespace Grid

/-- With another size nothing is pending. -/
theorem pending_resize (g : Grid) (rows cols : Nat) (reflow : Bool) :
    (g.resize rows cols reflow).bearings = g.bearings ∨
      (g.resize rows cols reflow).cursor.pendingWrap = false ∧
        (g.resize rows cols reflow).saved.cursor.pendingWrap = false := by
  unfold resize
  dsimp only
  split
  · exact .inl rfl
  · exact .inr ⟨rfl, rfl⟩

theorem saved_setRegion (g : Grid) (top bottom : Nat) :
    (g.setRegion top bottom).saved = g.saved :=
  (g.alters_setRegion top bottom).kept .saved rfl

end Grid

namespace Terminal

variable {t u : Terminal} {cols rows : Nat}

/-! ## The invariant -/

/-- A wrap is pending only with autowrap, now and in what was saved. -/
structure Deferred (t : Terminal) : Prop where
  current : t.current.Deferred
  primary : t.primary.saved.Deferred
  alternate : t.alternate.saved.Deferred

theorem Deferred.saved (h : t.Deferred) : t.grid.saved.Deferred := by
  unfold grid
  cases t.screen with
  | primary => exact h.primary
  | alternate => exact h.alternate

theorem Deferred.of_saves (h : t.Deferred) (hsaves : u.saves = t.saves)
    (hcurrent : u.current.Deferred) : u.Deferred := by
  obtain ⟨-, primary, alternate⟩ :
      u.screen = t.screen ∧ u.primary.saved = t.primary.saved ∧
      u.alternate.saved = t.alternate.saved := by
    simpa [saves] using hsaves
  exact ⟨hcurrent, primary ▸ h.primary, alternate ▸ h.alternate⟩

/-- What depends on the mode beside the cursor in use. -/
def Aspect.deferring : List Aspect := [.screen, .hidden, .grid .saved, .flag .autowrap]

/-- A wrap is still pending only with autowrap where none comes to be pending and the mode stays. -/
theorem Deferred.of_pending {aspects : List Aspect} (h : t.Deferred) (hu : t.Alters aspects u)
    (hapart : Aspect.apart Aspect.deferring aspects = true)
    (hpending : u.cursor.pendingWrap = true → t.cursor.pendingWrap = true) : u.Deferred := by
  have autowrap : u.modes.dec.autowrap = t.modes.dec.autowrap :=
    hu.of_apart hapart (a := .flag .autowrap) (by decide)
  exact h.of_saves (saves_of_alters hu (Aspect.apart_mono hapart (by decide))) fun hp =>
    autowrap.trans (h.current (hpending hp))

/-- A wrap that is dropped is pending no more, whatever becomes of the mode. -/
theorem Deferred.of_dropped {aspects : List Aspect} (h : t.Deferred) (hu : t.Alters aspects u)
    (hapart : Aspect.apart [.screen, .hidden, .grid .saved] aspects = true)
    (hpending : u.cursor.pendingWrap = false) : u.Deferred :=
  h.of_saves (saves_of_alters hu hapart) fun hp =>
    absurd (hpending.symm.trans hp) Bool.false_ne_true

/-- A wrap is still pending only with autowrap where neither the cursor nor the mode is altered. -/
theorem Deferred.of_alters {aspects : List Aspect} (h : t.Deferred) (hu : t.Alters aspects u)
    (hapart : Aspect.apart (.grid .cursor :: Aspect.deferring) aspects = true) : u.Deferred := by
  have cursor : u.cursor = t.cursor := hu.of_apart hapart (a := .grid .cursor) (by decide)
  exact h.of_pending hu (Aspect.apart_mono hapart (by decide)) fun hp => cursor ▸ hp

theorem Deferred.ite {p : Prop} [Decidable p] {a b : Terminal} (ha : a.Deferred) (hb : b.Deferred) :
    (if p then a else b).Deferred := by
  split
  · exact ha
  · exact hb

theorem Deferred.foldl {α : Type} {f : Terminal → α → Terminal} (h : t.Deferred)
    (hf : ∀ t a, t.Deferred → (f t a).Deferred) (l : List α) : (l.foldl f t).Deferred :=
  List.foldlRecOn l f h fun u hu a _ => hf u a hu

theorem pendingWrap_modifyGrid (t : Terminal) (f : Grid → Grid) :
    (t.modifyGrid f).cursor.pendingWrap = (f t.grid).cursor.pendingWrap := by
  rw [cursor, grid_modifyGrid]

theorem Deferred.backspace (h : t.Deferred) : t.backspace.Deferred := by
  refine h.of_pending t.alters_backspace rfl fun hp => ?_
  rw [Terminal.backspace, pendingWrap_modifyGrid] at hp
  dsimp only at hp
  unfold Terminal.cursor
  split at hp
  · assumption
  · split at hp
    · exact hp
    · split at hp <;> exact hp

/-! ### Saving and restoring -/

theorem current_saveCursor (t : Terminal) : t.saveCursor.current = t.current := by
  unfold Terminal.saveCursor modifyGrid current Terminal.cursor grid
  cases t.screen <;> rfl

theorem Deferred.saveCursor (h : t.Deferred) : t.saveCursor.Deferred := by
  have current : t.saveCursor.current.Deferred := t.current_saveCursor ▸ h.current
  unfold Terminal.saveCursor modifyGrid at current ⊢
  cases hs : t.screen with
  | primary =>
    rw [hs] at current
    exact ⟨current, h.current, h.alternate⟩
  | alternate =>
    rw [hs] at current
    exact ⟨current, h.primary, h.current⟩

/-- The mode comes back with the wrap. -/
theorem Deferred.restoreCursor (h : t.Deferred) : t.restoreCursor.Deferred := by
  refine h.of_saves (saves_of_alters t.alters_restoreCursor rfl) fun hp => ?_
  have autowrap : t.restoreCursor.modes.dec.autowrap = t.grid.saved.autowrap :=
    congrArg (·.dec.autowrap) (modes_modifyGrid ..)
  refine autowrap.trans (h.saved ?_)
  have pending : t.restoreCursor.cursor.pendingWrap = true := hp
  rw [Terminal.restoreCursor, pendingWrap_modifyGrid] at pending
  dsimp only at pending
  split at pending
  · exact pending
  · exact absurd pending Bool.false_ne_true

/-! ### Screens and modes -/

theorem Deferred.enterAlternate (h : t.Deferred) (save : Bool) :
    (t.enterAlternate save).Deferred := by
  have saved : (if save then t.saveCursor else t).Deferred := .ite h.saveCursor h
  unfold Terminal.enterAlternate
  refine .ite h ?_
  dsimp only
  generalize (if save then t.saveCursor else t) = t at saved ⊢
  have blank := ((t.alternate.setRegion t.primary.region.top t.primary.region.bottom).setCursor
    t.primary.cursor.row t.primary.cursor.col).bearings_eraseRows 0
      (t.alternate.setRegion t.primary.region.top
    t.primary.region.bottom).rows .default
  have pending := congrArg (·.cursor.pendingWrap) blank
  have kept := (congrArg Grid.Bearings.saved blank).trans (t.alternate.saved_setRegion _ _)
  exact ⟨fun hp => absurd (pending.symm.trans hp) Bool.false_ne_true, saved.primary,
    (congrArg SavedCursor.Deferred kept).mpr saved.alternate⟩

theorem Deferred.returned (h : t.Deferred) : t.returned.Deferred where
  current := fun hp => absurd hp Bool.false_ne_true
  primary := (t.primary.saved_setRegion t.alternate.region.top t.alternate.region.bottom).symm ▸
    h.primary
  alternate := h.alternate

theorem Deferred.leaveAlternate (h : t.Deferred) (restore : Bool) :
    (t.leaveAlternate restore).Deferred := by
  have back : (if restore then t.returned.restoreCursor else t.returned).Deferred :=
    .ite h.returned.restoreCursor h.returned
  have marked (u : Terminal) (hu : u.Deferred) :
      (({ u with primary := u.primary.markAllDirty } : Terminal).note .debug
        "left alternate screen").Deferred := by
    have same : ({ u with primary := u.primary.markAllDirty } : Terminal).current = u.current := by
      unfold Terminal.current Terminal.cursor grid
      cases u.screen <;> rfl
    exact hu.of_saves rfl (same.symm ▸ hu.current)
  unfold Terminal.leaveAlternate
  exact .ite (marked _ back) h

theorem Deferred.softReset (h : t.Deferred) : t.softReset.Deferred := by
  have current : t.softReset.current.Deferred := fun _ =>
    congrArg (·.dec.autowrap) (modes_modifyGrid ..)
  unfold Terminal.softReset modifyGrid at current ⊢
  dsimp only at current ⊢
  cases hs : t.screen with
  | primary =>
    rw [hs] at current
    exact ⟨current, fun _ => rfl, h.alternate⟩
  | alternate =>
    rw [hs] at current
    exact ⟨current, h.primary, fun _ => rfl⟩

theorem deferred_hardReset (t : Terminal) : t.hardReset.Deferred where
  current := fun _ => rfl
  primary := fun _ => congrArg (·.saved.autowrap) (Grid.bearings_viewToBottom _)
  alternate := fun _ => rfl

theorem Deferred.setDecMode (h : t.Deferred) (now : Instant) (on : Bool) (number : Nat) :
    (setDecMode now on t number).Deferred := by
  by_cases screens : number ∈ screenNumbers
  · simp only [screenNumbers, List.mem_cons, List.not_mem_nil, or_false] at screens
    rcases screens with rfl | rfl | rfl | rfl
    · exact .ite (h.enterAlternate false) (h.leaveAlternate false)
    · exact .ite (h.enterAlternate false) (h.leaveAlternate false)
    · exact .ite h.saveCursor h.restoreCursor
    · exact .ite (h.enterAlternate true) (h.leaveAlternate true)
  · by_cases moves : number = 6 ∨ number = 7
    · refine h.of_dropped (t.alters_setDecMode_toggled now on screens) rfl ?_
      rcases moves with rfl | rfl
      · exact pendingWrap_modifyGrid ..
      · exact pendingWrap_modifyGrid ..
    · refine h.of_alters (t.alters_setDecMode now on number)
        (Aspect.apart_iff.2 fun a ha altered => ?_)
      rcases mem_ofDecMode screens altered with
        rfl | ⟨f, hf, rfl⟩ | ⟨-, rfl⟩ | ⟨hmoves, -⟩ | ⟨-, rfl⟩
      · exact absurd ha (by decide)
      · have autowrap : f = .autowrap := by simpa [Aspect.deferring] using ha
        exact moves (.inr (hf.trans (congrArg DecFlag.number autowrap)))
      · exact absurd ha (by decide)
      · exact moves hmoves
      · exact absurd ha (by decide)

theorem Deferred.saveDecMode (h : t.Deferred) (number : Nat) : (t.saveDecMode number).Deferred := by
  by_cases saves : number = 1048
  · rw [Terminal.saveDecMode, if_pos saves]
    exact h.saveCursor
  · have kept := t.alters_saveDecMode number
    rw [if_neg saves] at kept
    exact h.of_alters kept rfl

theorem Deferred.restoreDecMode (h : t.Deferred) (now : Instant) (number : Nat) :
    (restoreDecMode now t number).Deferred := by
  unfold Terminal.restoreDecMode
  refine .ite h.restoreCursor ?_
  split
  · exact h.setDecMode now _ number
  · exact h.of_alters (t.alters_note ..) rfl

/-! ### Editing -/

theorem Deferred.chooseRegion (h : t.Deferred) (top bottom : Nat) :
    (t.chooseRegion top bottom).Deferred := by
  refine h.of_pending (t.alters_chooseRegion top bottom) rfl fun hp => ?_
  unfold Terminal.chooseRegion at hp
  dsimp only at hp
  generalize (if bottom = 0 then t.grid.rows else min bottom t.grid.rows) = bottom at hp
  split at hp
  · exact absurd ((pendingWrap_modifyGrid ..).symm.trans hp) Bool.false_ne_true
  · exact hp

/-- The cursor is moved to the first column at most. -/
theorem Deferred.editLines (h : t.Deferred) {edit : Grid → Nat → Color → Grid}
    (he : ∀ g n background, (edit g n background).bearings = g.bearings ∨
      (edit g n background).bearings = g.toFirstColumn.bearings) (n : Nat)
    (hu : t.Alters Aspect.editing (t.editLines edit n)) : (t.editLines edit n).Deferred := by
  refine h.of_pending hu rfl fun hp => ?_
  rw [Terminal.editLines, pendingWrap_modifyGrid] at hp
  split at hp
  · rcases he t.grid (min n (t.grid.region.bottom - t.grid.cursor.row)) t.rendition.background with
      kept | moved
    · exact (congrArg (·.cursor.pendingWrap) kept).symm.trans hp
    · exact absurd ((congrArg (·.cursor.pendingWrap) moved).symm.trans hp) Bool.false_ne_true
  · exact hp

/-! ### Printing -/

/-- The character that was printed last ends in the last column, without autowrap. -/
def Overruns (t : Terminal) : Prop := t.modes.dec.autowrap = false ∧ t.fillsRow = true

instance (t : Terminal) : Decidable t.Overruns := inferInstanceAs (Decidable (_ ∧ _))

/-- The cursor only moves for a character that can be joined. -/
theorem cursor_printGlyph {c : Char} {width : Nat} (h : (t.printGlyph c width).composeAt = none) :
    t.composeAt = none ∧ (t.printGlyph c width).cursor = t.cursor := by
  unfold printGlyph at h ⊢
  split at h
  · rename_i wide
    rw [if_pos wide]
    exact ⟨h, rfl⟩
  · exact absurd h (Option.some_ne_none _)

theorem cursor_print {c : Char} (h : (t.print c).composeAt = none) :
    (t.print c).cursor = t.cursor := by
  rcases t.print_cases c with ⟨row, col, c', hat, -, printed⟩ | printed | ⟨c', -, printed⟩
  · have kept := (alters_compose { t with charsets := (t.charsets.translate c).1 } row col c').kept
      .composeAt rfl
    rw [printed] at h
    exact absurd (hat.symm.trans (kept.symm.trans h)) (Option.some_ne_none _)
  · exact printed ▸ rfl
  · rw [printed] at h ⊢
    exact (cursor_printGlyph h).2

theorem cursor_repeatLast {n : Nat} (h : (t.repeatLast n).composeAt = none) :
    (t.repeatLast n).cursor = t.cursor :=
  repeatLast_induction (p := fun u => u.composeAt = none → u.cursor = t.cursor)
    (fun _ _ _ hu hnone => (cursor_printGlyph hnone).2.trans (hu (cursor_printGlyph hnone).1))
    (fun _ => rfl) n h

/-- A character that was printed tells whether the wrap that is pending is one with autowrap. -/
theorem Deferred.printed {aspects : List Aspect} (h : t.Deferred) (ha : t.Alters aspects u)
    (hapart : Aspect.apart Aspect.deferring aspects = true)
    (hcursor : u.composeAt = none → u.cursor = t.cursor) (harrived : u.Arrived) (hu : ¬u.Overruns) :
    u.Deferred := by
  cases hat : u.composeAt with
  | none =>
    exact h.of_pending ha hapart fun hp => (congrArg (·.pendingWrap) (hcursor hat)).symm.trans hp
  | some place =>
    refine h.of_saves (saves_of_alters ha (Aspect.apart_mono hapart (by decide))) fun hp => ?_
    have fills : u.fillsRow = true := (harrived.fillsRow hat).trans hp
    exact Bool.of_not_eq_false fun off => hu ⟨off, fills⟩

/-! ## Output -/

/-- Every command but the one that prints looks at the mode. -/
theorem Deferred.run (h : t.Deferred) (now : Instant) {command : Command}
    (hc : ∀ n, command ≠ .repeatLast n) : (t.run now command).Deferred := by
  cases command with
  | backspace => exact h.backspace
  | lineFeed =>
    refine h.of_dropped (t.alters_run now _) rfl ?_
    show (if t.modes.newline then t.lineFeed.carriageReturn else t.lineFeed).cursor.pendingWrap =
      false
    split
    · exact pendingWrap_modifyGrid ..
    · exact pendingWrap_lineFeed t
  | index => exact h.of_dropped (t.alters_run now _) rfl (pendingWrap_lineFeed t)
  | nextRow => exact h.of_dropped (t.alters_run now _) rfl (pendingWrap_lineFeed _)
  | carriageReturn | reverseIndex | tabBackward | cursorUp | cursorDown | cursorRight | cursorLeft
  | toColumn | cursorNextLine | cursorPreviousLine | toRow | toPlace | insertChars | deleteChars
  | eraseChars | eraseDisplay | eraseLine | alignmentTest =>
    exact h.of_dropped (t.alters_run now _) rfl (pendingWrap_modifyGrid ..)
  | tabForward n =>
    exact h.of_pending (t.alters_run now _) rfl fun hp => (pendingWrap_modifyGrid ..).symm.trans hp
  | insertLines n =>
    exact h.editLines Grid.bearings_insertLines n (t.alters_run now (.insertLines n))
  | deleteLines n =>
    exact h.editLines Grid.bearings_deleteLines n (t.alters_run now (.deleteLines n))
  | repeatLast n => exact absurd rfl (hc n)
  | setRegion top bottom => exact h.chooseRegion top bottom
  | saveCursor => exact h.saveCursor
  | restoreCursor => exact h.restoreCursor
  | setDecModes numbers on => exact h.foldl (fun _ n ht => ht.setDecMode now on n) numbers
  | saveDecModes numbers => exact h.foldl (fun _ n ht => ht.saveDecMode n) numbers
  | restoreDecModes numbers => exact h.foldl (fun _ n ht => ht.restoreDecMode now n) numbers
  | softReset => exact h.softReset
  | hardReset => exact t.deferred_hardReset
  | _ => exact h.of_alters (t.alters_run now _) rfl

/-- A wrap without autowrap comes from a character that ends in the last column. -/
theorem Deferred.perform (h : t.Deferred) (now : Instant) {action : Control.Action}
    (ha : (perform now t action).Arrived) (ho : ¬(perform now t action).Overruns) :
    (perform now t action).Deferred := by
  have apart := h.of_alters (t.alters_composeAt none) rfl
  have carried (command : Command)
      (ha : (({ t with composeAt := none } : Terminal).run now command).Arrived)
      (ho : ¬(({ t with composeAt := none } : Terminal).run now command).Overruns) :
      (({ t with composeAt := none } : Terminal).run now command).Deferred := by
    by_cases hc : ∀ n, command ≠ .repeatLast n
    · exact apart.run now hc
    · simp only [not_forall, not_not] at hc
      obtain ⟨n, rfl⟩ := hc
      exact apart.printed (alters_repeatLast _ n) rfl cursor_repeatLast ha ho
  cases action with
  | print c => exact h.printed (t.alters_print c) rfl cursor_print ha ho
  | execute byte => exact carried _ ha ho
  | escape s => exact carried _ ha ho
  | control s => exact carried _ ha ho
  | _ => exact h.of_alters (t.alters_perform now _) rfl

end Terminal

/-! ## Histories -/

/-- The terminals that a host's action leads through: while output is read one after every sequence
or character that is carried out. -/
def HostAction.passes (t : Terminal) : HostAction → List Terminal
  | .feed bytes now =>
    (t.decoder.feed bytes).2.toList.scanl (Terminal.perform now) (t.reading bytes)
  | _ => []

/-- The host has output read. -/
def HostAction.isFeed : HostAction → Bool
  | .feed .. => true
  | _ => false

namespace Terminal

/-- All the terminals that a host's actions lead through. -/
def history (t : Terminal) : List HostAction → List Terminal
  | [] => [t]
  | action :: actions => t :: (action.passes t ++ history (action.apply t) actions)

/-- The last of them is the one that the host holds then. -/
theorem foldl_mem_history (t : Terminal) (actions : List HostAction) :
    actions.foldl HostAction.apply t ∈ history t actions := by
  induction actions generalizing t with
  | nil => exact List.mem_singleton_self t
  | cons action actions ih => exact List.mem_cons_of_mem _ (List.mem_append_right _ (ih _))

section

variable {p q : Terminal → Prop} {now : Instant}

/-- What steps keep that end in a terminal with `q` holds all along such steps. -/
theorem forall_scanl {α : Type} {f : Terminal → α → Terminal}
    (hstep : ∀ t a, p t → q (f t a) → p (f t a)) {t : Terminal} (ht : p t) {l : List α}
    (hq : ∀ u ∈ l.scanl f t, q u) :
    (∀ u ∈ l.scanl f t, p u) ∧ p (l.foldl f t) := by
  induction l generalizing t with
  | nil => exact ⟨fun u hu => List.mem_singleton.1 hu ▸ ht, ht⟩
  | cons a l ih =>
    rw [List.scanl_cons] at hq ⊢
    have first : f t a ∈ l.scanl f (f t a) := by cases l <;> simp
    obtain ⟨all, last⟩ := ih (hstep t a ht (hq _ (List.mem_cons_of_mem _ first)))
      fun u hu => hq u (List.mem_cons_of_mem _ hu)
    refine ⟨fun u hu => ?_, last⟩
    rcases List.mem_cons.1 hu with rfl | hu
    · exact ht
    · exact all u hu

/-- What actions keep that end in a terminal with `q` holds all along a history of such terminals,
if it depends neither on what is read nor on when it is drawn, and if all else that a host does
keeps it without `q`. -/
theorem forall_history
    (hperform : ∀ now t action, p t → q (perform now t action) → p (perform now t action))
    (hread : ∀ t bytes, p t → p (t.reading bytes))
    (hdrawn : ∀ t schedule, p t → p { t with schedule := schedule })
    (hhost : ∀ t (action : HostAction), action.isFeed = false → p t → p (action.apply t))
    {t : Terminal} (ht : p t) {actions : List HostAction} (hq : ∀ u ∈ history t actions, q u) :
    ∀ u ∈ history t actions, p u := by
  induction actions generalizing t with
  | nil => exact fun u hu => List.mem_singleton.1 hu ▸ ht
  | cons action actions ih =>
    have after : ∀ u ∈ history (action.apply t) actions, q u := fun u hu =>
      hq u (List.mem_cons_of_mem _ (List.mem_append_right _ hu))
    have through : (∀ u ∈ action.passes t, p u) ∧ p (action.apply t) := by
      cases action with
      | feed bytes now =>
        obtain ⟨passed, fed⟩ := forall_scanl (hperform now) (hread t bytes ht) fun u hu =>
          hq u (List.mem_cons_of_mem _ (List.mem_append_left _ hu))
        refine ⟨passed, ?_⟩
        show p (t.feed bytes now)
        rw [feed_eq]
        dsimp only
        split
        · exact fed
        · exact hdrawn _ _ fed
      | resize | viewUp | viewDown | viewToBottom | previousPrompt | nextPrompt | clearDirty | poll
      | requestImmediate | setClipboard | startImages | takeReplies | takeEvents | takeReports
      | takeImages =>
        exact ⟨fun u hu => absurd hu List.not_mem_nil, hhost t _ rfl ht⟩
    intro u hu
    rcases List.mem_cons.1 hu with rfl | hu
    · exact ht
    · rcases List.mem_append.1 hu with hu | hu
      · exact through.1 u hu
      · exact ih through.2 after u hu

end

variable {t u : Terminal} {cols rows : Nat}

theorem Deferred.resize (h : t.Deferred) (cols rows : Nat) : (t.resize cols rows).Deferred := by
  have dropped {s : SavedCursor} (hs : s.cursor.pendingWrap = false) : s.Deferred := fun hp =>
    absurd (hs.symm.trans hp) Bool.false_ne_true
  have saved {g : Grid} (hg : g.saved.Deferred) (rows cols : Nat) (reflow : Bool) :
      (g.resize rows cols reflow).saved.Deferred := by
    rcases g.pending_resize rows cols reflow with same | ⟨-, none⟩
    · exact (congrArg (·.saved.Deferred) same).mpr hg
    · exact dropped none
  have here {g : Grid} (hg : g.cursor.pendingWrap = true → t.modes.dec.autowrap = true)
      (rows cols : Nat) (reflow : Bool) : (g.resize rows cols reflow).cursor.pendingWrap = true →
      t.modes.dec.autowrap = true := by
    rcases g.pending_resize rows cols reflow with same | ⟨none, -⟩
    · exact fun hp => hg ((congrArg (·.cursor.pendingWrap) same).symm.trans hp)
    · exact fun hp => absurd (none.symm.trans hp) Bool.false_ne_true
  have current := h.current
  unfold SavedCursor.Deferred Terminal.current Terminal.cursor Terminal.grid at current
  unfold Terminal.resize
  dsimp only at current ⊢
  split
  · exact h
  · refine Deferred.of_alters (t := { t with
        tabs := t.tabsFor (max cols 1)
        primary := t.primary.resize (max rows 1) (max cols 1) t.config.reflow
        alternate := t.alternate.resize (max rows 1) (max cols 1) false
        composeAt := none
        schedule := t.schedule.requestImmediate }) ?_
      ((alters_repaint _).trans ((alters_note ..).mono rfl)) rfl
    refine ⟨?_, saved h.primary (max rows 1) (max cols 1) t.config.reflow,
      saved h.alternate (max rows 1) (max cols 1) false⟩
    unfold SavedCursor.Deferred Terminal.current Terminal.cursor Terminal.grid
    cases hs : t.screen with
    | primary =>
      rw [hs] at current
      exact here current (max rows 1) (max cols 1) t.config.reflow
    | alternate =>
      rw [hs] at current
      exact here current (max rows 1) (max cols 1) false

/-- Nothing but output lets a wrap be pending. -/
theorem Deferred.apply (h : t.Deferred) {action : HostAction} (hfeed : action.isFeed = false) :
    (action.apply t).Deferred := by
  cases action with
  | feed bytes now => exact absurd hfeed.symm Bool.false_ne_true
  | resize cols rows => exact h.resize cols rows
  | _ => exact h.of_alters (t.alters_apply _) rfl

/-- What every terminal of a history keeps to. -/
def Printed (t : Terminal) : Prop := (∃ cols rows, t.Valid cols rows) ∧ t.Arrived

theorem Printed.perform (h : t.Printed) (now : Instant) (action : Control.Action) :
    (perform now t action).Printed := by
  obtain ⟨⟨cols, rows, valid⟩, arrived⟩ := h
  exact ⟨⟨cols, rows, valid.perform now action⟩, arrived.perform valid now action⟩

theorem Printed.apply (h : t.Printed) (action : HostAction) : (action.apply t).Printed := by
  obtain ⟨⟨cols, rows, valid⟩, arrived⟩ := h
  exact ⟨valid.apply action, arrived.apply valid action⟩

theorem printed_history (config : Config) (actions : List HostAction) :
    ∀ t ∈ history (.new config) actions, t.Printed :=
  forall_history (p := Printed) (q := fun _ => True)
    (fun now _ action ht _ => ht.perform now action)
    (fun t bytes ⟨⟨cols, rows, valid⟩, arrived⟩ =>
      ⟨⟨cols, rows, valid.of_alters (t.alters_reading bytes) rfl⟩, arrived⟩)
    (fun t schedule ⟨⟨cols, rows, valid⟩, arrived⟩ =>
      ⟨⟨cols, rows, valid.of_alters (t.alters_schedule schedule) rfl⟩, arrived⟩)
    (fun _ action _ ht => ht.apply action) ⟨⟨_, _, valid_new config⟩, arrived_of_none rfl⟩
    fun _ _ => trivial

/-- As long as no character ends in the last column without autowrap, a wrap is pending only with
autowrap. -/
theorem deferred_history {config : Config} {actions : List HostAction}
    (h : ∀ t ∈ history (.new config) actions, ¬t.Overruns) :
    ∀ t ∈ history (.new config) actions, t.Deferred := by
  have kept := forall_history (p := fun t => t.Deferred ∧ t.Printed) (q := fun t => ¬t.Overruns)
    (fun now t action ⟨ht, printed⟩ ho =>
      have after := printed.perform now action
      ⟨ht.perform now after.2 ho, after⟩)
    (fun t bytes ⟨ht, ⟨cols, rows, valid⟩, arrived⟩ =>
      have read := t.alters_reading bytes
      ⟨ht.of_alters read rfl, ⟨cols, rows, valid.of_alters read rfl⟩, arrived⟩)
    (fun t schedule ⟨ht, ⟨cols, rows, valid⟩, arrived⟩ =>
      have drawn := t.alters_schedule schedule
      ⟨ht.of_alters drawn rfl, ⟨cols, rows, valid.of_alters drawn rfl⟩, arrived⟩)
    (fun _ action hfeed ⟨ht, printed⟩ => ⟨ht.apply hfeed, printed.apply action⟩)
    ⟨⟨fun _ => rfl, fun _ => rfl, fun _ => rfl⟩, ⟨_, _, valid_new config⟩, arrived_of_none rfl⟩ h
  exact fun t ht => (kept t ht).1

/-- The character that fills the row without autowrap leaves a wrap pending. -/
theorem Arrived.pending (h : t.Arrived) (ho : t.Overruns) : t.cursor.pendingWrap = true := by
  obtain ⟨place, hat, -⟩ := (Option.any_eq_true _ _).1 ho.2
  exact (h.fillsRow hat).symm.trans ho.2

theorem cursor_backspace (t : Terminal) : t.backspace.cursor =
    if t.cursor.pendingWrap then { t.cursor with pendingWrap := false }
    else if 0 < t.cursor.col then { t.cursor with col := t.cursor.col - 1 }
    else if t.modes.dec.reverseWrap && 0 < t.cursor.row then
      { t.cursor with row := t.cursor.row - 1, col := t.grid.cols - 1 }
    else t.cursor := by
  rw [backspace, cursor, grid_modifyGrid]
  dsimp only
  rw [apply_ite Grid.cursor, apply_ite Grid.cursor, apply_ite Grid.cursor]
  rfl

/-- Without autowrap no wrap is pending, and a backspace moves the cursor back. -/
def StepsBack (t : Terminal) : Prop :=
  t.modes.dec.autowrap = false → t.cursor.pendingWrap = false ∧
    (0 < t.cursor.col → t.backspace.cursor = { t.cursor with col := t.cursor.col - 1 })

/-- Without autowrap no wrap is pending in any of the terminals that a host's actions lead through,
just if none of them has printed a character that ends in the last column without autowrap. One that
has keeps its cursor there at a backspace. -/
theorem stepsBack_iff (config : Config) (actions : List HostAction) :
    ((∀ t ∈ history (.new config) actions, t.StepsBack) ↔
      ∀ t ∈ history (.new config) actions, ¬t.Overruns) ∧
        ∀ t ∈ history (.new config) actions, t.Overruns → t.cursor.pendingWrap = true ∧
        t.backspace.cursor = { t.cursor with pendingWrap := false } := by
  have overrun : ∀ t ∈ history (.new config) actions, t.Overruns → t.cursor.pendingWrap = true :=
    fun t ht ho =>
    (printed_history config actions t ht).2.pending ho
  refine ⟨⟨fun hback t ht ho => ?_, fun hno t ht off => ?_⟩, fun t ht ho => ⟨overrun t ht ho, ?_⟩⟩
  · exact absurd ((hback t ht ho.1).1.symm.trans (overrun t ht ho)) Bool.false_ne_true
  · have none : t.cursor.pendingWrap = false := Bool.eq_false_iff.2 fun hp =>
      Bool.false_ne_true (off.symm.trans ((deferred_history hno t ht).current hp))
    refine ⟨none, fun inside => ?_⟩
    rw [cursor_backspace, none, if_neg Bool.false_ne_true, if_pos inside]
  · rw [cursor_backspace, if_pos (overrun t ht ho)]

/-- Three characters on a screen of three columns, without autowrap. -/
def filled : List HostAction := [.feed (Text.Utf8.encode "\x1b[?7labc") 0]

/-- A wrap is pending, and a backspace stays in the last column. -/
theorem not_stepsBack_filled :
    let t := drive { size := ⟨3, 2⟩, scrollback := 0 } filled
    t.modes.dec.autowrap = false ∧ t.cursor = ⟨0, 2, true⟩ ∧ t.backspace.cursor = ⟨0, 2, false⟩ ∧
      ¬∀ u ∈ history (.new { size := ⟨3, 2⟩, scrollback := 0 }) filled, u.StepsBack := by
  intro t
  have off : t.modes.dec.autowrap = false := by decide +kernel
  have pending : t.cursor = ⟨0, 2, true⟩ := by decide +kernel
  have back : t.backspace.cursor = ⟨0, 2, false⟩ := by decide +kernel
  refine ⟨off, pending, back, fun hback => ?_⟩
  have none : t.cursor.pendingWrap = false := (hback t (foldl_mem_history _ filled) off).1
  exact absurd (none.symm.trans (congrArg Cursor.pendingWrap pending)) Bool.false_ne_true

end Terminal

end Teletype
