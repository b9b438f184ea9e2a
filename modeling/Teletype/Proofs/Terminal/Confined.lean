import Teletype.Proofs.Terminal.Reachable

/-!
# Origin mode and the region

In origin mode the cursor is meant to stay in the region. Motions to a place, motions by rows and
line feeds keep it there, and so does every change of the region or of the screen. Two operations do
not look at the region: a backspace that goes to the row above, and the return of a saved cursor.
-/

namespace Teletype

/-! ## Grids -/

namespace Grid

/-- The cursor is in the region. -/
def Inside (g : Grid) : Prop := g.region.contains g.cursor.row = true

instance (g : Grid) : Decidable g.Inside := inferInstanceAs (Decidable (_ = true))

theorem inside_iff {g : Grid} :
    g.Inside ↔ g.region.top ≤ g.cursor.row ∧ g.cursor.row < g.region.bottom := by
  simp [Inside, Region.contains]

/-- The region and the row of the cursor. -/
def level (g : Grid) : Region × Nat := (g.region, g.cursor.row)

theorem level_of_bearings {g g' : Grid} (h : g'.bearings = g.bearings) : g'.level = g.level :=
  congrArg (fun b : Bearings => (b.region, b.cursor.row)) h

theorem Inside.of_level {g g' : Grid} (hg : g.Inside) (h : g'.level = g.level) : g'.Inside := by
  have region : g'.region = g.region := congrArg Prod.fst h
  have row : g'.cursor.row = g.cursor.row := congrArg Prod.snd h
  rw [Inside, region, row]
  exact hg

theorem level_ite (g : Grid) {p : Prop} [Decidable p] {a b : Grid} (ha : a.level = g.level)
    (hb : b.level = g.level) : (if p then a else b).level = g.level := by
  split
  · exact ha
  · exact hb

theorem level_insertLines (g : Grid) (n : Nat) (background : Color) :
    (g.insertLines n background).level = g.level := by
  rcases g.bearings_insertLines n background with h | h
  · exact level_of_bearings h
  · exact level_of_bearings (g := g.toFirstColumn) h

theorem level_deleteLines (g : Grid) (n : Nat) (background : Color) :
    (g.deleteLines n background).level = g.level := by
  rcases g.bearings_deleteLines n background with h | h
  · exact level_of_bearings h
  · exact level_of_bearings (g := g.toFirstColumn) h

variable {kind : ScreenKind} {cols rows : Nat} {g : Grid}

/-- Sending the cursor to a column of its row leaves the region and the row alone. -/
theorem level_setCursor (hg : g.Valid kind cols rows) (col : Nat) :
    (g.setCursor g.cursor.row col).level = g.level := by
  have row := hg.cursor_row
  have height := hg.rows_eq
  exact Prod.ext rfl (Nat.min_eq_left (by omega))

theorem inside_setCursor (hg : g.Valid kind cols rows) {row : Nat}
    (hrow : g.region.top ≤ row ∧ row < g.region.bottom) (col : Nat) :
    (g.setCursor row col).Inside := by
  have bottom := hg.region_le
  have height := hg.rows_eq
  have fits : min row (g.rows - 1) = row := Nat.min_eq_left (by omega)
  rw [inside_iff]
  show g.region.top ≤ min row (g.rows - 1) ∧ min row (g.rows - 1) < g.region.bottom
  rwa [fits]

/-- A region that another grid of the size has is taken over. -/
theorem region_setRegion (hg : g.Valid kind cols rows) {r : Region} (htop : r.top < r.bottom)
    (hbottom : r.bottom ≤ rows) : (g.setRegion r.top r.bottom).region = r := by
  have fits : min r.bottom g.rows = r.bottom := Nat.min_eq_left (hg.rows_eq ▸ hbottom)
  unfold setRegion
  rw [fits, if_pos htop]

/-- The region and the row of another grid of the size. -/
theorem level_adopt {other : Grid} {kind' : ScreenKind} (hg : g.Valid kind cols rows)
    (ho : other.Valid kind' cols rows) :
    ((g.setRegion other.region.top other.region.bottom).setCursor
      other.cursor.row other.cursor.col).level = other.level := by
  have row := ho.cursor_row
  have height := (hg.setRegion other.region.top other.region.bottom).rows_eq
  exact Prod.ext (region_setRegion hg ho.region_lt ho.region_le) (Nat.min_eq_left (by omega))

/-- With the whole screen for a region the cursor is nowhere else. -/
theorem inside_of_full (hg : g.Valid kind cols rows) (h : g.region = .full rows) : g.Inside :=
  inside_iff.2 (h ▸ ⟨Nat.zero_le _, hg.cursor_row⟩)

end Grid

/-! ## Terminals -/

namespace Terminal

/-- Origin mode confines the cursor to the region. -/
def Confined (t : Terminal) : Prop := t.modes.dec.origin = true → t.grid.Inside

instance (t : Terminal) : Decidable t.Confined := inferInstanceAs (Decidable (_ → _))

@[simp] theorem modes_modifyGrid (t : Terminal) (f : Grid → Grid) :
    (t.modifyGrid f).modes = t.modes :=
  (t.alters_grid f).kept .modes rfl

/-- A valid terminal in which the cursor is confined. -/
structure ConfinedOn (cols rows : Nat) (t : Terminal) : Prop where
  valid : t.Valid cols rows
  confined : t.Confined

variable {cols rows : Nat} {t t' : Terminal}

/-- The cursor stays confined where neither its level nor the mode is changed. -/
theorem ConfinedOn.of_level (h : t.ConfinedOn cols rows) (hv : t'.Valid cols rows)
    (hlevel : t'.grid.level = t.grid.level) (horigin : t'.modes.dec.origin = t.modes.dec.origin) :
    t'.ConfinedOn cols rows where
  valid := hv
  confined := fun hon => (h.confined (horigin ▸ hon)).of_level hlevel

theorem level_of_alters {aspects : List Aspect} (h : t.Alters aspects t')
    (hapart : Aspect.apart [.grid .region, .grid .cursor] aspects = true) :
    t'.grid.level = t.grid.level := by
  have region : t'.grid.region = t.grid.region := h.of_apart hapart (a := .grid .region) (by decide)
  have cursor : t'.grid.cursor = t.grid.cursor := h.of_apart hapart (a := .grid .cursor) (by decide)
  exact Prod.ext region (congrArg Cursor.row cursor)

theorem ConfinedOn.of_alters {aspects : List Aspect} (h : t.ConfinedOn cols rows)
    (hv : t'.Valid cols rows) (ha : t.Alters aspects t')
    (hapart : Aspect.apart [.grid .region, .grid .cursor, .flag .origin] aspects = true) :
    t'.ConfinedOn cols rows :=
  h.of_level hv (level_of_alters ha (Aspect.apart_mono hapart (by decide)))
    (ha.of_apart hapart (a := .flag .origin) (by decide))

theorem ConfinedOn.ite {p : Prop} [Decidable p] {a b : Terminal} (ha : a.ConfinedOn cols rows)
    (hb : b.ConfinedOn cols rows) : (if p then a else b).ConfinedOn cols rows := by
  split
  · exact ha
  · exact hb

/-- The cursor stays confined where the modes are kept and it does not leave the region. -/
theorem ConfinedOn.of_inside (h : t.ConfinedOn cols rows) (hv : t'.Valid cols rows)
    (hmodes : t'.modes = t.modes) (hinside : t.grid.Inside → t'.grid.Inside) :
    t'.ConfinedOn cols rows where
  valid := hv
  confined := fun hon => hinside (h.confined (hmodes ▸ hon))

theorem ConfinedOn.level (h : t.ConfinedOn cols rows) {f : Grid → Grid}
    (hv : (t.modifyGrid f).Valid cols rows) (hf : (f t.grid).level = t.grid.level) :
    (t.modifyGrid f).ConfinedOn cols rows :=
  h.of_level hv ((congrArg Grid.level (grid_modifyGrid t f)).trans hf)
    (congrArg (·.dec.origin) (modes_modifyGrid ..))

/-! ## Motions -/

theorem ConfinedOn.putCursor (h : t.ConfinedOn cols rows) {cursor : Cursor}
    (hv : (t.putCursor cursor).Valid cols rows) (hrow : cursor.row = t.cursor.row) :
    (t.putCursor cursor).ConfinedOn cols rows := h.level hv (Prod.ext rfl hrow)

theorem inside_lineFeed (h : t.grid.Inside) : t.lineFeed.grid.Inside := by
  unfold lineFeed
  rw [grid_modifyGrid]
  dsimp only
  refine Grid.Inside.of_level (g := if t.grid.cursor.row + 1 = t.grid.region.bottom then _
    else _) ?_ rfl
  split
  · exact h.of_level (Grid.level_of_bearings (t.grid.bearings_scrollUp 1 _))
  · rename_i hlast
    split
    · obtain ⟨low, high⟩ := Grid.inside_iff.1 h
      exact Grid.inside_iff.2 ⟨by dsimp only; omega, by dsimp only; omega⟩
    · exact h

theorem ConfinedOn.lineFeed (h : t.ConfinedOn cols rows) : t.lineFeed.ConfinedOn cols rows :=
  h.of_inside h.valid.lineFeed (modes_modifyGrid ..) inside_lineFeed

theorem inside_reverseIndex (h : t.grid.Inside) : t.reverseIndex.grid.Inside := by
  unfold reverseIndex
  rw [grid_modifyGrid]
  dsimp only
  refine Grid.Inside.of_level (g := if t.grid.cursor.row = t.grid.region.top then _ else _) ?_ rfl
  split
  · exact h.of_level (Grid.level_of_bearings (t.grid.bearings_scrollDown 1 _))
  · obtain ⟨low, high⟩ := Grid.inside_iff.1 h
    exact Grid.inside_iff.2 ⟨by dsimp only; omega, by dsimp only; omega⟩

theorem ConfinedOn.reverseIndex (h : t.ConfinedOn cols rows) :
    t.reverseIndex.ConfinedOn cols rows :=
  h.of_inside h.valid.reverseIndex (modes_modifyGrid ..) inside_reverseIndex

theorem ConfinedOn.carriageReturn (h : t.ConfinedOn cols rows) :
    t.carriageReturn.ConfinedOn cols rows := h.level h.valid.carriageReturn rfl

/-- The cursor is moved to a row that is in the region if origin mode asks for it. -/
theorem confined_setCursor (hv : t.Valid cols rows) {r c : Grid → Nat}
    (hrow : t.modes.dec.origin = true → t.grid.region.top ≤ r t.grid ∧
      r t.grid < t.grid.region.bottom) :
    (t.modifyGrid fun g => g.setCursor (r g) (c g)).Confined := by
  unfold Confined
  rw [modes_modifyGrid, grid_modifyGrid]
  exact fun hon => Grid.inside_setCursor hv.grid (hrow hon) _

theorem addressableRows_of_origin (hon : t.modes.dec.origin = true) :
    t.addressableRows = (t.grid.region.top, t.grid.region.bottom - 1) := if_pos hon

/-- A place that the cursor is sent to is inside, wherever the cursor was. -/
theorem confinedOn_goTo (hv : t.Valid cols rows) (row col : Nat) :
    (t.goTo row col).ConfinedOn cols rows where
  valid := hv.goTo row col
  confined := by
    refine confined_setCursor (r := fun _ => min (t.addressableRows.1 + row) t.addressableRows.2) hv
      fun hon => ?_
    have region := hv.grid.region_lt
    rw [addressableRows_of_origin hon]
    dsimp only
    omega

theorem ConfinedOn.goTo (h : t.ConfinedOn cols rows) (row col : Nat) :
    (t.goTo row col).ConfinedOn cols rows := confinedOn_goTo h.valid row col

theorem ConfinedOn.cursorUp (h : t.ConfinedOn cols rows) (n : Nat) :
    (t.cursorUp n).ConfinedOn cols rows where
  valid := h.valid.cursorUp n
  confined := confined_setCursor h.valid fun hon => by
    have inside := Grid.inside_iff.1 (h.confined hon)
    rw [addressableRows_of_origin hon]
    dsimp only
    omega

theorem ConfinedOn.cursorDown (h : t.ConfinedOn cols rows) (n : Nat) :
    (t.cursorDown n).ConfinedOn cols rows where
  valid := h.valid.cursorDown n
  confined := confined_setCursor h.valid fun hon => by
    have inside := Grid.inside_iff.1 (h.confined hon)
    rw [addressableRows_of_origin hon]
    dsimp only
    omega

/-- The cursor stays confined when it is sent to another column. -/
theorem ConfinedOn.toColumn (h : t.ConfinedOn cols rows) (col : Grid → Nat) :
    (t.modifyGrid fun g => g.setCursor g.cursor.row (col g)).ConfinedOn cols rows :=
  h.level (h.valid.modifyGrid fun hg => hg.setCursor _ _) (Grid.level_setCursor h.valid.grid _)

/-! ## Backspace -/

/-- A backspace goes to the row above. -/
def BacksUp (t : Terminal) : Prop :=
  t.cursor.pendingWrap = false ∧ t.cursor.col = 0 ∧ t.modes.dec.reverseWrap = true ∧
    0 < t.cursor.row

instance (t : Terminal) : Decidable t.BacksUp := inferInstanceAs (Decidable (_ ∧ _))

theorem level_backspace (t : Terminal) :
    t.backspace.grid.level =
      (t.grid.region, if t.BacksUp then t.cursor.row - 1 else t.cursor.row) := by
  unfold backspace
  rw [grid_modifyGrid]
  dsimp only
  split
  · rename_i pending
    rw [if_neg fun up => Bool.false_ne_true (up.1.symm.trans pending)]
    rfl
  · rename_i settled
    split
    · rename_i inner
      rw [if_neg fun up => Nat.ne_of_gt inner up.2.1]
      rfl
    · rename_i first
      split
      · rename_i above
        rw [Bool.and_eq_true, decide_eq_true_eq] at above
        rw [if_pos ⟨Bool.eq_false_of_not_eq_true settled, Nat.eq_zero_of_not_pos first, above⟩]
        rfl
      · rename_i stays
        rw [Bool.and_eq_true, decide_eq_true_eq] at stays
        rw [if_neg fun up => stays up.2.2]
        rfl

/-- In origin mode a backspace that goes to the row above does not start in the first row of the
region. -/
def BacksInside (t : Terminal) : Prop :=
  t.modes.dec.origin = true → t.BacksUp → t.cursor.row ≠ t.grid.region.top

instance (t : Terminal) : Decidable t.BacksInside := inferInstanceAs (Decidable (_ → _))

/-- A backspace leads out of the region just if it goes to the row above from the first row of the
region. -/
theorem confined_backspace_iff (h : t.Confined) : t.backspace.Confined ↔ t.BacksInside := by
  have modes : t.backspace.modes = t.modes := modes_modifyGrid ..
  have region : t.backspace.grid.region = t.grid.region := congrArg Prod.fst t.level_backspace
  have row : t.backspace.grid.cursor.row = if t.BacksUp then t.cursor.row - 1 else t.cursor.row :=
    congrArg Prod.snd t.level_backspace
  unfold Confined BacksInside
  rw [modes]
  refine forall_congr' fun hon => ?_
  obtain ⟨low, high⟩ : t.grid.region.top ≤ t.cursor.row ∧ t.cursor.row < t.grid.region.bottom :=
    Grid.inside_iff.1 (h hon)
  rw [Grid.inside_iff, region, row]
  by_cases up : t.BacksUp
  · have above : 0 < t.cursor.row := up.2.2.2
    rw [if_pos up]
    exact ⟨fun inside _ => by omega, fun apart => by have := apart up; omega⟩
  · rw [if_neg up]
    exact iff_of_true ⟨low, high⟩ fun goes => absurd goes up

theorem ConfinedOn.backspace (h : t.ConfinedOn cols rows) (hb : t.BacksInside) :
    t.backspace.ConfinedOn cols rows where
  valid := h.valid.backspace
  confined := (confined_backspace_iff h.confined).2 hb

/-! ## The saved cursor -/

/-- The saved cursor is in the region, or origin mode was off when it was saved. -/
def RestoresInside (t : Terminal) : Prop :=
  t.grid.saved.origin = true →
    t.grid.region.contains (min t.grid.saved.cursor.row (t.grid.rows - 1)) = true

instance (t : Terminal) : Decidable t.RestoresInside := inferInstanceAs (Decidable (_ → _))

/-- The cursor that comes back is confined just if it was saved in what is the region now, or
without origin mode. -/
theorem confined_restoreCursor_iff (t : Terminal) :
    t.restoreCursor.Confined ↔ t.RestoresInside := by
  unfold Confined restoreCursor
  rw [modes_modifyGrid, grid_modifyGrid]
  dsimp only
  split <;> exact Iff.rfl

theorem ConfinedOn.saveCursor (h : t.ConfinedOn cols rows) : t.saveCursor.ConfinedOn cols rows := by
  have valid := h.valid.saveCursor
  unfold Terminal.saveCursor at valid ⊢
  exact h.level valid rfl

theorem ConfinedOn.restoreCursor (h : t.ConfinedOn cols rows) (hr : t.RestoresInside) :
    t.restoreCursor.ConfinedOn cols rows where
  valid := h.valid.restoreCursor
  confined := t.confined_restoreCursor_iff.2 hr

/-! ## Screens -/

/-- The alternate screen takes the region over. -/
theorem ConfinedOn.enterAlternate (h : t.ConfinedOn cols rows) (save : Bool) :
    (t.enterAlternate save).ConfinedOn cols rows := by
  have valid := h.valid.enterAlternate save
  have saved : (if save then t.saveCursor else t).ConfinedOn cols rows := .ite h.saveCursor h
  have screen : (if save then t.saveCursor else t).screen = t.screen := by
    split
    · exact t.screen_modifyGrid _
    · rfl
  unfold Terminal.enterAlternate isAlternate at valid ⊢
  cases hs : t.screen with
  | alternate => exact h
  | primary =>
    rw [hs] at valid screen
    rw [if_neg (by decide)] at valid ⊢
    generalize (if save then t.saveCursor else t) = t at valid saved screen ⊢
    have here : t.grid = t.primary := by rw [grid, screen]
    refine saved.of_level valid ?_ rfl
    rw [here]
    exact (Grid.level_of_bearings (Grid.bearings_eraseRows ..)).trans
      (Grid.level_adopt saved.valid.alternate saved.valid.primary)

/-- The terminal back on the primary screen, which takes the region and the cursor over. -/
def returned (t : Terminal) : Terminal :=
  { t with
    screen := .primary
    primary := (t.primary.setRegion t.alternate.region.top t.alternate.region.bottom).setCursor
      t.alternate.cursor.row t.alternate.cursor.col }

theorem ConfinedOn.returned (h : t.ConfinedOn cols rows) (hs : t.screen = .alternate) :
    t.returned.ConfinedOn cols rows := by
  have here : t.grid = t.alternate := by rw [grid, hs]
  refine h.of_level ⟨(h.valid.primary.setRegion _ _).setCursor _ _, h.valid.alternate, h.valid.tabs,
    h.valid.titles⟩ ?_ rfl
  rw [here]
  exact Grid.level_adopt h.valid.primary h.valid.alternate

theorem ConfinedOn.leaveAlternate (h : t.ConfinedOn cols rows) :
    (t.leaveAlternate false).ConfinedOn cols rows := by
  have valid := h.valid.leaveAlternate false
  unfold Terminal.leaveAlternate isAlternate at valid ⊢
  cases hs : t.screen with
  | primary => exact h
  | alternate =>
    rw [hs] at valid
    exact (h.returned hs).of_level valid rfl rfl

/-- The saved cursor comes back to the region of the screen that is left. -/
theorem ConfinedOn.leaveRestoring (h : t.ConfinedOn cols rows)
    (hr : t.screen = .alternate → t.returned.RestoresInside) :
    (t.leaveAlternate true).ConfinedOn cols rows := by
  have valid := h.valid.leaveAlternate true
  unfold Terminal.leaveAlternate isAlternate at valid ⊢
  cases hs : t.screen with
  | primary => exact h
  | alternate =>
    rw [hs] at valid
    exact ((h.returned hs).restoreCursor (hr hs)).of_level valid rfl rfl

theorem ConfinedOn.softReset (h : t.ConfinedOn cols rows) : t.softReset.ConfinedOn cols rows where
  valid := h.valid.softReset
  confined := fun hon => by
    unfold Terminal.softReset at hon
    rw [modes_modifyGrid] at hon
    exact absurd hon Bool.false_ne_true

theorem ConfinedOn.hardReset (h : t.ConfinedOn cols rows) : t.hardReset.ConfinedOn cols rows where
  valid := h.valid.hardReset
  confined := fun hon => absurd hon Bool.false_ne_true

/-- The alignment test makes the whole screen the region, which confines no cursor. -/
theorem ConfinedOn.alignmentTest (h : t.ConfinedOn cols rows) :
    t.alignmentTest.ConfinedOn cols rows := by
  have filled := h.valid.grid.fill 'E'
  have height : t.rows = rows := h.valid.primary.rows_eq
  refine h.of_inside h.valid.alignmentTest (modes_modifyGrid ..) fun _ => ?_
  unfold Terminal.alignmentTest
  rw [grid_modifyGrid, height]
  refine Grid.inside_of_full ((filled.setRegion 0 rows).setCursor 0 0) ?_
  exact Grid.region_setRegion (r := .full rows) filled filled.rows_pos (Nat.le_refl rows)

/-- A region is only chosen with the cursor at its first row. -/
theorem ConfinedOn.chooseRegion (h : t.ConfinedOn cols rows) (top bottom : Nat) :
    (t.chooseRegion top bottom).ConfinedOn cols rows :=
  .ite (confinedOn_goTo (h.valid.modifyGrid fun hg => hg.setRegion _ _) 0 0) h

/-! ## Modes -/

/-- Switching a private mode on or off brings no cursor back from outside the region. -/
def SwitchesInside (t : Terminal) (on : Bool) (number : Nat) : Prop :=
  on = false → (number = 1048 → t.RestoresInside) ∧
    (number = 1049 → t.screen = .alternate → t.returned.RestoresInside)

instance (t : Terminal) (on : Bool) (number : Nat) : Decidable (t.SwitchesInside on number) :=
  inferInstanceAs (Decidable (_ → _))

/-- Restoring a private mode brings no cursor back from outside the region. -/
def ReinstatesInside (t : Terminal) (number : Nat) : Prop :=
  (number = 1048 → t.RestoresInside) ∧ ∀ on ∈ t.savedModes.lookup number, t.SwitchesInside on number

instance (t : Terminal) (number : Nat) : Decidable (t.ReinstatesInside number) :=
  inferInstanceAs (Decidable (_ ∧ _))

theorem ConfinedOn.setDecMode (h : t.ConfinedOn cols rows) (now : Instant) {on : Bool}
    {number : Nat} (hs : t.SwitchesInside on number) :
    (setDecMode now on t number).ConfinedOn cols rows := by
  have valid := h.valid.setDecMode now on number
  by_cases screens : number ∈ screenNumbers
  · simp only [screenNumbers, List.mem_cons, List.not_mem_nil, or_false] at screens
    rcases screens with rfl | rfl | rfl | rfl
    · exact .ite (h.enterAlternate false) h.leaveAlternate
    · exact .ite (h.enterAlternate false) h.leaveAlternate
    · cases on with
      | true => exact h.saveCursor
      | false => exact h.restoreCursor ((hs rfl).1 rfl)
    · cases on with
      | true => exact h.enterAlternate true
      | false => exact h.leaveRestoring ((hs rfl).2 rfl)
  · by_cases origin : number = 6
    · subst number
      exact confinedOn_goTo (h.valid.switchDec (.flag .origin) on) 0 0
    · by_cases autowrap : number = 7
      · subst number
        have switched :=
          h.of_alters (h.valid.switchDec (.flag .autowrap) on) (t.alters_switchDec _ on) rfl
        exact switched.level valid rfl
      · refine h.of_alters valid (t.alters_setDecMode now on number) (Aspect.apart_iff.2 ?_)
        intro a ha mem
        rcases mem_ofDecMode screens mem with rfl | ⟨f, hf, rfl⟩ | ⟨-, rfl⟩ | ⟨places, -⟩ | ⟨-, rfl⟩
        · exact absurd ha (by decide)
        · obtain rfl : f = .origin := by simpa using ha
          exact origin hf
        · exact absurd ha (by decide)
        · exact places.elim origin autowrap
        · exact absurd ha (by decide)

theorem ConfinedOn.restoreDecMode (h : t.ConfinedOn cols rows) (now : Instant) {number : Nat}
    (hs : t.ReinstatesInside number) : (restoreDecMode now t number).ConfinedOn cols rows := by
  unfold Terminal.restoreDecMode
  split
  · exact h.restoreCursor (hs.1 ‹_›)
  · split
    · exact h.setDecMode now (hs.2 _ ‹_›)
    · exact h.of_alters (h.valid.note ..) (t.alters_note ..) rfl

end Terminal

end Teletype
