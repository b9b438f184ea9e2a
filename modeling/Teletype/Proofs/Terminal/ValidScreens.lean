import Teletype.Proofs.Grid.Resize
import Teletype.Proofs.Terminal.AspectsRun
import Teletype.Proofs.Terminal.Valid

/-!
# Valid terminals: screens, modes and titles

Going to the other screen and back, resets, another size, modes, and saving and restoring titles
keep a terminal valid.
-/

namespace Teletype.Terminal

variable {cols rows : Nat} {t : Terminal}

/-! ## Screens -/

theorem Valid.saveCursor (h : t.Valid cols rows) : t.saveCursor.Valid cols rows := by
  unfold Terminal.saveCursor
  exact h.modifyGrid fun hg => { hg with saved_pending := hg.pending }

theorem Valid.restoreCursor (h : t.Valid cols rows) : t.restoreCursor.Valid cols rows := by
  have hsaved := h.grid.saved_pending
  unfold Terminal.restoreCursor
  dsimp only
  generalize t.grid.saved = saved at hsaved ⊢
  have ht : ({ t with
      rendition := saved.rendition
      charsets := saved.charsets
      modes := { t.modes with
        dec := { t.modes.dec with origin := saved.origin, autowrap := saved.autowrap } } } :
        Terminal).Valid cols rows := h.of_eq rfl rfl rfl rfl
  refine ht.modifyGrid fun hg => ?_
  have hmoved := hg.setCursor saved.cursor.row saved.cursor.col
  split
  · rename_i hcol
    refine hmoved.of_cursor hmoved.cursor_row hmoved.cursor_col fun hp => ?_
    dsimp only at hp ⊢
    rw [hcol]
    exact hsaved hp
  · exact hmoved

theorem Valid.enterAlternate (h : t.Valid cols rows) (save : Bool) :
    (t.enterAlternate save).Valid cols rows := by
  unfold Terminal.enterAlternate
  split
  · exact h
  · have ht : (if save then t.saveCursor else t).Valid cols rows := .ite h.saveCursor h
    dsimp only
    generalize (if save then t.saveCursor else t) = t at ht ⊢
    have hg := ((ht.alternate.setRegion t.primary.region.top t.primary.region.bottom).setCursor
      t.primary.cursor.row t.primary.cursor.col)
    exact ⟨ht.primary, (hg.eraseRows 0 _ .default).markAllDirty, ht.tabs, ht.titles⟩

theorem Valid.leaveAlternate (h : t.Valid cols rows) (restore : Bool) :
    (t.leaveAlternate restore).Valid cols rows := by
  unfold Terminal.leaveAlternate
  split
  · have hg := (h.primary.setRegion t.alternate.region.top t.alternate.region.bottom).setCursor
      t.alternate.cursor.row t.alternate.cursor.col
    have ht : ({ t with
        screen := .primary
        primary := (t.primary.setRegion t.alternate.region.top t.alternate.region.bottom).setCursor
          t.alternate.cursor.row t.alternate.cursor.col } : Terminal).Valid cols rows :=
      ⟨hg, h.alternate, h.tabs, h.titles⟩
    dsimp only
    generalize ({ t with
        screen := .primary
        primary := (t.primary.setRegion t.alternate.region.top t.alternate.region.bottom).setCursor
          t.alternate.cursor.row t.alternate.cursor.col } : Terminal) = t' at ht ⊢
    have hr : (if restore then t'.restoreCursor else t').Valid cols rows :=
      .ite ht.restoreCursor ht
    exact ⟨hr.primary.markAllDirty, hr.alternate, hr.tabs, hr.titles⟩
  · exact h

theorem Valid.softReset (h : t.Valid cols rows) : t.softReset.Valid cols rows := by
  unfold Terminal.softReset
  dsimp only
  refine Valid.modifyGrid ?_ fun hg => Grid.Valid.clearPending ?_
  · exact h.of_eq rfl rfl rfl rfl
  · exact { hg.setRegion 0 t.rows with saved_pending := fun hp => absurd hp Bool.false_ne_true }

theorem lt_of_mem_standardTabs {first cols c : Nat} (hc : c ∈ standardTabs first cols) :
    c < cols := by
  have := (List.mem_filter.1 hc).2
  simp only [Bool.and_eq_true, decide_eq_true_eq] at this
  exact this.2

theorem Valid.hardReset (h : t.Valid cols rows) : t.hardReset.Valid cols rows := by
  have hleft := h.leaveAlternate false
  unfold Terminal.hardReset
  refine ⟨hleft.primary.clearAll.viewToBottom, hleft.alternate.clearAll, fun c hc => ?_,
    Nat.zero_le _⟩
  have hlt := lt_of_mem_standardTabs hc
  rwa [Terminal.cols, hleft.primary.cols_eq] at hlt

theorem Valid.alignmentTest (h : t.Valid cols rows) : t.alignmentTest.Valid cols rows := by
  unfold Terminal.alignmentTest
  exact h.modifyGrid fun hg => ((hg.fill 'E').setRegion 0 _).setCursor 0 0

theorem lt_of_mem_tabsFor {cols c : Nat} (hc : c ∈ t.tabsFor cols) : c < cols := by
  unfold Terminal.tabsFor at hc
  rcases List.mem_append.1 hc with hc | hc
  · simpa using (List.mem_filter.1 hc).2
  · split at hc
    · exact lt_of_mem_standardTabs hc
    · exact absurd hc (by simp)

/-- The screens take the new size, of at least one row and column. -/
theorem Valid.resize (h : t.Valid cols rows) (cols' rows' : Nat) :
    (t.resize cols' rows').Valid (max cols' 1) (max rows' 1) := by
  have hcols : t.cols = cols := h.primary.cols_eq
  have hrows : t.rows = rows := h.primary.rows_eq
  unfold Terminal.resize
  dsimp only
  split
  · rename_i hsame
    simp only [Bool.and_eq_true, decide_eq_true_eq] at hsame
    rw [hsame.1, hsame.2, hcols, hrows]
    exact h
  · have hp := h.primary.resize (max rows' 1) (max cols' 1) t.config.reflow
    have ha := h.alternate.resize (max rows' 1) (max cols' 1) false
    rw [Nat.max_eq_left (Nat.le_max_right rows' 1), Nat.max_eq_left (Nat.le_max_right cols' 1)]
      at hp ha
    have ht : ({ t with
        tabs := t.tabsFor (max cols' 1)
        primary := t.primary.resize (max rows' 1) (max cols' 1) t.config.reflow
        alternate := t.alternate.resize (max rows' 1) (max cols' 1) false
        composeAt := none
        schedule := t.schedule.requestImmediate } : Terminal).Valid (max cols' 1) (max rows' 1) :=
      ⟨hp, ha, fun _ hc => lt_of_mem_tabsFor hc, h.titles⟩
    exact (ht.modifyGrid fun hg => hg.markAllDirty).note ..

/-! ## Modes -/

theorem Valid.switchDec (h : t.Valid cols rows) (mode : DecMode) (on : Bool) :
    (t.switchDec mode on).Valid cols rows :=
  h.of_eq rfl rfl rfl rfl

theorem Valid.setDecMode (h : t.Valid cols rows) (now : Instant) (on : Bool) (number : Nat) :
    (setDecMode now on t number).Valid cols rows := by
  unfold Terminal.setDecMode
  split
  · exact (h.switchDec _ on).modifyGrid fun hg => hg.markAllDirty
  · exact (h.switchDec _ on).goTo 0 0
  · exact (h.switchDec _ on).modifyGrid fun hg => hg.clearPending
  · exact .ite (h.note ..) h
  · exact .ite (h.note ..) h
  · exact .ite (h.note ..) h
  · exact .ite (h.enterAlternate false) (h.leaveAlternate false)
  · exact .ite (h.enterAlternate false) (h.leaveAlternate false)
  · exact .ite h.saveCursor h.restoreCursor
  · exact .ite (h.enterAlternate true) (h.leaveAlternate true)
  · exact .ite (h.of_alters (t.alters_beginSync now) rfl) (h.of_alters t.alters_endSync rfl)
  · split
    · exact h.switchDec _ on
    · exact .ite (h.note ..) (h.note ..)

theorem Valid.saveDecMode (h : t.Valid cols rows) (number : Nat) :
    (t.saveDecMode number).Valid cols rows := by
  unfold Terminal.saveDecMode
  refine .ite h.saveCursor ?_
  split
  · exact h.of_eq rfl rfl rfl rfl
  · exact h.of_eq rfl rfl rfl rfl
  · exact h.note ..

theorem Valid.restoreDecMode (h : t.Valid cols rows) (now : Instant) (number : Nat) :
    (restoreDecMode now t number).Valid cols rows := by
  unfold Terminal.restoreDecMode
  refine .ite h.restoreCursor ?_
  split
  · exact h.setDecMode now _ number
  · exact h.note ..

/-! ## Titles -/

theorem Valid.pushTitle (h : t.Valid cols rows) : t.pushTitle.Valid cols rows where
  primary := h.primary
  alternate := h.alternate
  tabs := h.tabs
  titles := by
    rw [Terminal.pushTitle, List.length_take]
    omega

theorem Valid.popTitle (h : t.Valid cols rows) : t.popTitle.Valid cols rows := by
  unfold Terminal.popTitle
  split
  · exact h
  · rename_i title rest hstack
    have htitles := h.titles
    rw [hstack, List.length_cons] at htitles
    have popped : ({ t with titleStack := rest } : Terminal).Valid cols rows :=
      ⟨h.primary, h.alternate, h.tabs, by dsimp only; omega⟩
    exact popped.of_alters (alters_setTitle ..) rfl

theorem Valid.windowOperation (h : t.Valid cols rows) (op arg : Nat) :
    (t.windowOperation op arg).Valid cols rows := by
  have replied (r : Reply) : (t.reply r).Valid cols rows := h.of_alters (t.alters_reply r) rfl
  have ignored : (t.ignoreWindowOperation op).Valid cols rows := .ite (h.note ..) (h.note ..)
  unfold Terminal.windowOperation
  dsimp only
  split
  · exact replied _
  · exact .ite (replied _) ignored
  · exact replied _
  · exact replied _
  · exact replied _
  · exact replied _
  · exact replied _
  · exact .ite h.pushTitle ignored
  · exact .ite h.popTitle ignored
  · exact ignored

end Teletype.Terminal
