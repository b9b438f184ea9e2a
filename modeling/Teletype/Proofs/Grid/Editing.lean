import Teletype.Proofs.Grid.Shift
import Teletype.Proofs.Grid.Valid

/-!
# Editing and scrolling keep grids valid

One lemma for each operation. Those that change single rows rest on the lemmas about rows; those
that turn the ring or drop the scrollback also say where the view is afterwards.
-/

namespace Teletype.Grid

variable {kind : ScreenKind} {cols rows : Nat} {g : Grid}

/-! ## Erasing -/

theorem Valid.eraseInRow (h : Valid kind cols rows g) (row first last : Nat) (background : Color) :
    Valid kind cols rows (g.eraseInRow row first last background) :=
  h.modifyRow row fun _ hr => hr.eraseRange first last background

theorem Valid.eraseRow (h : Valid kind cols rows g) (background : Color) (row : Nat) :
    Valid kind cols rows (eraseRow background g row) :=
  h.modifyRow row fun r hr => hr.reset background r.seq

theorem Valid.eraseRows (h : Valid kind cols rows g) (first last : Nat) (background : Color) :
    Valid kind cols rows (g.eraseRows first last background) :=
  h.foldl (fun _ row hg => hg.eraseRow background row) _

theorem Valid.clearWrap (h : Valid kind cols rows g) (row : Nat) :
    Valid kind cols rows (g.clearWrap row) :=
  h.modifyRow row fun _ hr => hr.of_cells rfl

theorem Valid.eraseRight (h : Valid kind cols rows g) (background : Color) :
    Valid kind cols rows (g.eraseRight background) :=
  (h.eraseInRow _ _ _ background).clearWrap _

theorem Valid.eraseLeft (h : Valid kind cols rows g) (background : Color) :
    Valid kind cols rows (g.eraseLeft background) :=
  h.eraseInRow _ _ _ background

/-- The view is at the screen when there is no scrollback. -/
theorem Valid.drop_history (h : Valid kind cols rows g) :
    Valid kind cols rows { g with history := 0, view := g.offset } := by
  have := h.room
  exact { h with
    room := by
      show 0 + rows ≤ g.capacity
      omega
    view_lt := h.offset_lt
    view_le := Nat.le_of_eq (viewDistance_of_eq rfl) }

theorem Valid.eraseScrollback (h : Valid kind cols rows g) :
    Valid kind cols rows g.eraseScrollback := by
  refine (h.foldl_slots (List.range g.history) (g.nextSeq + g.history) ?_).drop_history
  intro slots i _ hr
  refine ⟨Array.size_modify .., forall_mem_modify hr fun r hr' => ?_⟩
  exact (hr r (Array.mem_of_getElem? hr')).reset _ _

theorem Valid.eraseDisplay (h : Valid kind cols rows g) (mode : Nat) (background : Color) :
    Valid kind cols rows (g.eraseDisplay mode background).value := by
  unfold Grid.eraseDisplay
  split
  · exact (h.eraseRight background).eraseRows _ _ background
  · exact (h.eraseRows _ _ background).eraseLeft background
  · exact h.eraseRows _ _ background
  · exact h.eraseScrollback
  · exact h

theorem Valid.eraseLine (h : Valid kind cols rows g) (mode : Nat) (background : Color) :
    Valid kind cols rows (g.eraseLine mode background).value := by
  unfold Grid.eraseLine
  split
  · exact h.eraseRight background
  · exact h.eraseLeft background
  · exact h.eraseRow background _
  · exact h

theorem Valid.eraseChars (h : Valid kind cols rows g) (n : Nat) (background : Color) :
    Valid kind cols rows (g.eraseChars n background) :=
  h.eraseInRow _ _ _ background

theorem Valid.clearAll (h : Valid kind cols rows g) : Valid kind cols rows g.clearAll := by
  have fresh : ∀ r ∈ g.slots.mapIdx fun i r => r.reset .default (g.nextSeq + i), r.Valid cols := by
    intro r hr
    obtain ⟨i, hi, rfl⟩ := Array.mem_mapIdx.1 hr
    exact (h.row _ (Array.getElem_mem hi)).reset _ _
  have hg := (h.of_slots (g.nextSeq + g.capacity) (Array.size_mapIdx ..) fresh).drop_history
  exact { hg with
    region_lt := by
      show 0 < g.rows
      exact h.rows_eq ▸ h.rows_pos
    region_le := Nat.le_of_eq h.rows_eq
    cursor_row := h.rows_pos
    cursor_col := h.cols_pos
    pending := fun hp => absurd hp Bool.false_ne_true
    saved_pending := fun hp => absurd hp Bool.false_ne_true }

theorem Valid.fill (h : Valid kind cols rows g) (c : Char) : Valid kind cols rows (g.fill c) :=
  h.foldl (fun _ row hg => hg.modifyRow row fun r hr =>
    Row.valid_filled c (by rw [hr.size])) _

/-! ## Cells -/

theorem Valid.insertChars (h : Valid kind cols rows g) (n : Nat) (background : Color) :
    Valid kind cols rows (g.insertChars n background) :=
  h.modifyRow _ fun _ hr => hr.insertBlanks _ n background

theorem Valid.deleteChars (h : Valid kind cols rows g) (n : Nat) (background : Color) :
    Valid kind cols rows (g.deleteChars n background) :=
  h.modifyRow _ fun _ hr => hr.deleteCells _ n background

theorem Valid.write (h : Valid kind cols rows g) (row col key width : Nat) (rendition : Rendition)
    (link : Nat) : Valid kind cols rows (g.write row col key width rendition link) := by
  have hcols := h.cols_eq
  unfold Grid.write
  generalize (if width ≤ 1 then 1 else 2) = w
  by_cases hfits : g.fits row col w
  · rw [if_pos hfits]
    simp only [fits, Bool.and_eq_true, Bool.or_eq_true, decide_eq_true_eq] at hfits
    exact h.modifyRow row fun r hr => hr.write key rendition link (by split <;> omega)
  · rwa [if_neg hfits]

/-- Composing needs a glyph to compose with. -/
theorem Valid.compose (h : Valid kind cols rows g) (row col key width : Nat)
    (hc : ∀ c, g.cell? row col = some c → c.key ≠ 0) :
    Valid kind cols rows (g.compose row col key width).1 := by
  show Valid kind cols rows (g.modifyRow row fun r => (r.compose col key width).1)
  refine h.modifyRow_of row fun r hrow hr => ?_
  have hr' : ({ r with dirty := true } : Row).Valid cols := hr.of_cells rfl
  refine hr'.compose key width fun c hcell => hc c ?_
  rw [cell?, hrow]
  exact hcell

/-! ## Scrolling -/

theorem Valid.markScreenDirty (h : Valid kind cols rows g) :
    Valid kind cols rows g.markScreenDirty := by
  refine h.foldl_slots (List.range g.rows) g.nextSeq ?_
  intro slots row _ hr
  refine ⟨Array.size_modify .., forall_mem_modify hr fun r hr' => ?_⟩
  exact (hr r (Array.mem_of_getElem? hr')).of_cells rfl

/-- Rows that are moved stay valid, and so are those that are started anew. -/
theorem keptBetween_valid (kind : ScreenKind) (cols rows top bottom : Nat) (background : Color) :
    KeptBetween (Valid kind cols rows) top bottom background where
  swap _ _ h := h.of_slots _ Array.size_swapIfInBounds fun r hr =>
    h.row r ((mem_swapRows ..).1 hr)
  reset _ h := h.of_slots _ Array.size_modify (forall_mem_modify h.row fun r hr =>
    (h.row r (Array.mem_of_getElem? hr)).reset background _)
  mark _ h := h.of_slots _ Array.size_modify (forall_mem_modify h.row fun r hr =>
    (h.row r (Array.mem_of_getElem? hr)).of_cells rfl)

theorem Valid.shiftUp (h : Valid kind cols rows g) (top bottom n : Nat) (background : Color) :
    Valid kind cols rows (g.shiftUp top bottom n background) :=
  (keptBetween_valid kind cols rows top _ background).shiftUp h n

theorem Valid.shiftDown (h : Valid kind cols rows g) (top bottom n : Nat) (background : Color) :
    Valid kind cols rows (g.shiftDown top bottom n background) :=
  (keptBetween_valid kind cols rows top _ background).shiftDown h n

/-- The grid as it is with the view moved to the screen. -/
def atScreen (g : Grid) : Grid := { g with view := g.offset }

theorem Valid.atScreen (h : Valid kind cols rows g) : Valid kind cols rows g.atScreen :=
  { h with
    view_lt := h.offset_lt
    view_le := by
      rw [viewDistance_of_eq rfl]
      exact Nat.zero_le _ }

@[simp] theorem capacity_turn (background : Color) (g : Grid) :
    (g.turn background).capacity = g.capacity := by
  simp [turn, capacity]

/-- A turn of the ring leaves the view behind, so it is only said what holds at the screen. -/
theorem Valid.turn (h : Valid kind cols rows g.atScreen) (background : Color) :
    Valid kind cols rows (g.turn background).atScreen := by
  have slots : ∀ r ∈ (g.turn background).slots, r.Valid cols :=
    forall_mem_modify h.row fun r hr => (h.row r (Array.mem_of_getElem? hr)).reset _ _
  have hg : Valid kind cols rows
      { g.atScreen with slots := (g.turn background).slots, nextSeq := g.nextSeq + 1 } :=
    h.of_slots _ (Array.size_modify ..) slots
  have room : g.history + rows ≤ g.capacity := h.room
  have hrows : g.rows = rows := h.rows_eq
  have hpos := h.rows_pos
  have size : (g.turn background).atScreen.capacity = g.capacity := capacity_turn background g
  have offset : (g.offset + 1) % g.capacity < g.capacity := Nat.mod_lt _ (by omega)
  exact { hg with
    room := by
      rw [size]
      show min (g.history + 1) (g.capacity - g.rows) + rows ≤ g.capacity
      omega
    offset_lt := by
      rw [size]
      exact offset
    view_lt := by
      rw [size]
      exact offset
    view_le := by
      rw [viewDistance_of_eq rfl]
      exact Nat.zero_le _ }

theorem Valid.repeat_turn (h : Valid kind cols rows g.atScreen) (background : Color) (n : Nat) :
    Valid kind cols rows (Nat.repeat (Grid.turn background) n g).atScreen ∧
      (Nat.repeat (Grid.turn background) n g).view = g.view ∧
      (Nat.repeat (Grid.turn background) n g).capacity = g.capacity := by
  induction n with
  | zero => exact ⟨h, rfl, rfl⟩
  | succ n ih =>
    obtain ⟨hv, hview, hcap⟩ := ih
    exact ⟨hv.turn background, hview, (capacity_turn _ _).trans hcap⟩

/-- Following the view makes it valid again, wherever it was left. -/
theorem Valid.followView (h : Valid kind cols rows g.atScreen) (hview : g.view < g.capacity)
    (atBottom : Bool) : Valid kind cols rows (g.followView atBottom) := by
  have room : g.history + rows ≤ g.capacity := h.room
  have offset : g.offset < g.capacity := h.offset_lt
  have hpos := h.rows_pos
  unfold Grid.followView
  split
  · exact h
  · split
    · have hlt : (g.offset + g.capacity - g.history) % g.capacity < g.capacity :=
        Nat.mod_lt _ (by omega)
      have none : (g.offset + g.capacity - g.offset) % g.capacity = 0 := by simp
      have distance := distance_back offset offset (m := g.history) (by omega)
      rw [none, Nat.zero_add] at distance
      exact { h with view_lt := hlt, view_le := Nat.le_of_eq distance }
    · rename_i hle
      exact { h with view_lt := hview, view_le := Nat.le_of_not_lt hle }

theorem Valid.rotateUp (h : Valid kind cols rows g) (n : Nat) (background : Color) :
    Valid kind cols rows (g.rotateUp n background) := by
  unfold Grid.rotateUp
  dsimp only
  split
  · exact h
  · obtain ⟨hturned, hview, hcap⟩ := h.atScreen.repeat_turn background (min n g.rows)
    refine (hturned.followView ?_ _).markScreenDirty
    rw [hview, hcap]
    exact h.view_lt

theorem Valid.scrollUp (h : Valid kind cols rows g) (n : Nat) (background : Color) :
    Valid kind cols rows (g.scrollUp n background) := by
  unfold Grid.scrollUp
  split
  · exact h.rotateUp n background
  · exact h.shiftUp _ _ n background

theorem Valid.scrollDown (h : Valid kind cols rows g) (n : Nat) (background : Color) :
    Valid kind cols rows (g.scrollDown n background) :=
  h.shiftDown _ _ n background

theorem Valid.toFirstColumn (h : Valid kind cols rows g) : Valid kind cols rows g.toFirstColumn :=
  h.of_cursor h.cursor_row h.cols_pos fun hp => absurd hp Bool.false_ne_true

theorem Valid.insertLines (h : Valid kind cols rows g) (n : Nat) (background : Color) :
    Valid kind cols rows (g.insertLines n background) := by
  unfold Grid.insertLines
  split
  · exact (h.shiftDown _ _ n background).toFirstColumn
  · exact h

theorem Valid.deleteLines (h : Valid kind cols rows g) (n : Nat) (background : Color) :
    Valid kind cols rows (g.deleteLines n background) := by
  unfold Grid.deleteLines
  split
  · exact (h.shiftUp _ _ n background).toFirstColumn
  · exact h

/-! ## Looking back -/

/-- Moving the view to a slot that shows lines of the scrollback. -/
theorem Valid.setView (h : Valid kind cols rows g) {view : Nat}
    (hle : (g.offset + g.capacity - view % g.capacity) % g.capacity ≤ g.history) :
    Valid kind cols rows (g.setView view) := by
  have room := h.room
  have hpos := h.rows_pos
  refine Valid.markAllDirty ?_
  exact { h with view_lt := Nat.mod_lt _ (by omega), view_le := hle }

theorem Valid.viewUp (h : Valid kind cols rows g) (n : Nat) :
    Valid kind cols rows (g.viewUp n).1 := by
  have room := h.room
  have hpos := h.rows_pos
  have hle := h.view_le
  unfold Grid.viewUp
  dsimp only
  split
  · exact h
  · refine h.setView ?_
    rw [distance_back h.offset_lt h.view_lt]
    all_goals unfold viewDistance at *; omega

theorem Valid.viewDown (h : Valid kind cols rows g) (n : Nat) :
    Valid kind cols rows (g.viewDown n).1 := by
  have hle := h.view_le
  unfold Grid.viewDown
  dsimp only
  split
  · exact h
  · refine h.setView ?_
    have hmin : min n g.viewDistance ≤ (g.offset + g.capacity - g.view) % g.capacity :=
      Nat.min_le_right _ _
    rw [distance_nearer h.offset_lt h.view_lt hmin]
    unfold viewDistance at *
    omega

theorem Valid.viewToBottom (h : Valid kind cols rows g) :
    Valid kind cols rows g.viewToBottom := by
  unfold Grid.viewToBottom
  split
  · exact h
  · refine h.setView ?_
    rw [Nat.mod_eq_of_lt h.offset_lt]
    simp

theorem Valid.previousPrompt (h : Valid kind cols rows g) :
    Valid kind cols rows g.previousPrompt.1 := by
  unfold Grid.previousPrompt
  split
  · exact h
  · exact h.viewUp _

theorem Valid.nextPrompt (h : Valid kind cols rows g) : Valid kind cols rows g.nextPrompt.1 := by
  unfold Grid.nextPrompt
  split
  · exact h
  · exact h.viewDown _

end Teletype.Grid
