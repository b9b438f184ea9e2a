import Teletype.Proofs.Grid.Damage
import Teletype.Proofs.Grid.Editing
import Teletype.Proofs.Grid.Ring

/-!
# A view that is scrolled back

The view counts slots back from the screen, around the ring. When the screen scrolls, the count
grows with the scrollback and the view stays on its lines. A count that comes to the size of the
ring is one of 0: the view is then taken to be at the screen.
-/

namespace Teletype

/-- The row without its mark. -/
def Row.unmark (r : Row) : Row := { r with dirty := false }

namespace Grid

variable {kind : ScreenKind} {cols rows n : Nat} {g g' : Grid}

/-! ## Turning the ring -/

/-- The ring was turned `n` times. -/
structure Turned (n : Nat) (g g' : Grid) : Prop where
  rows : g'.rows = g.rows
  capacity : g'.capacity = g.capacity
  view : g'.view = g.view
  offset : g'.offset = (g.offset + n) % g.capacity
  history : g'.history = min (g.history + n) (g.capacity - g.rows)
  /-- The rows that were started anew are the `n` that follow the screen. -/
  slots : ∀ i, (∀ k < n, i ≠ (g.offset + g.rows + k) % g.capacity) → g'.slots[i]? = g.slots[i]?

theorem Turned.turn (h : Turned n g g') (hrows : 0 < g.rows) (background : Color) :
    Turned (n + 1) g (turn background g') where
  rows := h.rows
  capacity := (capacity_turn background g').trans h.capacity
  view := h.view
  offset := by
    show (g'.offset + 1) % g'.capacity = _
    rw [h.offset, h.capacity, Nat.mod_add_mod, Nat.add_assoc]
  history := by
    show min (g'.history + 1) (g'.capacity - g'.rows) = _
    rw [h.history, h.capacity, h.rows]
    omega
  slots := by
    intro i hi
    have exposed : ((g'.offset + 1) % g'.capacity + (g'.rows - 1)) % g'.capacity =
        (g.offset + g.rows + n) % g.capacity := by
      rw [Nat.mod_add_mod, h.offset, h.capacity, h.rows, Nat.add_assoc, Nat.mod_add_mod]
      congr 1
      omega
    show (g'.slots.modify _ _)[i]? = _
    rw [exposed, Array.getElem?_modify, if_neg (hi n (Nat.lt_succ_self n)).symm]
    exact h.slots i fun k hk => hi k (Nat.lt_succ_of_lt hk)

theorem Valid.turned (h : g.Valid kind cols rows) (n : Nat) (background : Color) :
    Turned n g (Nat.repeat (Grid.turn background) n g) := by
  induction n with
  | zero =>
    have room := h.room
    have rows := h.rows_eq
    have unturned : g.history = min (g.history + 0) (g.capacity - g.rows) := by omega
    exact ⟨rfl, rfl, rfl, (Nat.mod_eq_of_lt h.offset_lt).symm, unturned, fun _ _ => rfl⟩
  | succ n ih => exact ih.turn (h.rows_eq ▸ h.rows_pos) background

/-- The top row of the view is as many slots before the screen as the view is above it. -/
theorem view_add_viewDistance (h : g.view < g.capacity) :
    g.view + g.viewDistance ≡ g.offset [MOD g.capacity] := by
  have around : g.view + (g.offset + g.capacity - g.view) = g.offset + g.capacity := by omega
  calc g.view + g.viewDistance
    _ ≡ g.view + (g.offset + g.capacity - g.view) [MOD g.capacity] := (Nat.mod_modEq _ _).add_left _
    _ = g.offset + g.capacity := around
    _ ≡ g.offset [MOD g.capacity] := Nat.add_modEq_right

/-- The view is at no distance from the screen just if it shows the screen. -/
theorem Valid.viewDistance_eq_zero_iff (h : g.Valid kind cols rows) :
    g.viewDistance = 0 ↔ g.viewAtBottom = true := by
  have view := h.view_lt
  have offset := h.offset_lt
  rw [viewAtBottom, decide_eq_true_eq]
  refine ⟨fun hzero => ?_, viewDistance_of_eq⟩
  rw [viewDistance, mod_of_lt_add (by omega)] at hzero
  split at hzero <;> omega

/-- The view falls back by as many lines as the ring was turned, counted around the ring. -/
theorem Turned.viewDistance (h : Turned n g g') (hg : g.Valid kind cols rows) :
    g'.viewDistance = (g.viewDistance + n) % g.capacity := by
  have turned : g'.view + g'.viewDistance ≡ g'.offset [MOD g'.capacity] :=
    view_add_viewDistance (by rw [h.view, h.capacity]; exact hg.view_lt)
  rw [h.view, h.capacity, h.offset] at turned
  have back : g.view + g'.viewDistance ≡ g.view + (g.viewDistance + n) [MOD g.capacity] := by
    calc g.view + g'.viewDistance
      _ ≡ (g.offset + n) % g.capacity [MOD g.capacity] := turned
      _ ≡ g.offset + n [MOD g.capacity] := Nat.mod_modEq _ _
      _ ≡ g.view + g.viewDistance + n [MOD g.capacity] :=
      (view_add_viewDistance hg.view_lt).symm.add_right _
      _ = g.view + (g.viewDistance + n) := Nat.add_assoc ..
  have lt : g'.viewDistance < g.capacity := by
    rw [Grid.viewDistance, h.capacity]
    exact Nat.mod_lt _ (Nat.lt_of_le_of_lt (Nat.zero_le _) hg.view_lt)
  exact (Nat.mod_eq_of_lt lt).symm.trans (Nat.ModEq.add_left_cancel' _ back)

/-- A view that still is among the lines shows what it showed. -/
theorem Turned.displayed (h : Turned n g g') (hg : g.Valid kind cols rows)
    (hroom : g.viewDistance + n + g.rows ≤ g.capacity) : g'.displayed = g.displayed := by
  unfold Grid.displayed
  rw [h.rows, h.view, h.capacity]
  refine List.filterMap_congr fun i hi => h.slots _ fun k hk same => ?_
  have row := List.mem_range.1 hi
  have slot : g.view + i ≡ g.view + (g.viewDistance + g.rows + k) [MOD g.capacity] := by
    calc g.view + i
      _ ≡ g.offset + g.rows + k [MOD g.capacity] := same
      _ = g.offset + (g.rows + k) := Nat.add_assoc ..
      _ ≡ g.view + g.viewDistance + (g.rows + k) [MOD g.capacity] :=
      (view_add_viewDistance hg.view_lt).symm.add_right _
      _ = g.view + (g.viewDistance + g.rows + k) := by omega
  -- Both are less than a turn from the view, so the slots are the same only if the distances are.
  have index := (Nat.ModEq.add_left_cancel' _ slot).eq_of_lt_of_lt (by omega) (by omega)
  omega

/-! ## Following the view -/

/-- The view is taken to the oldest line if it would be above it. -/
theorem viewDistance_followView (hoffset : g.offset < g.capacity)
    (hhistory : g.history < g.capacity) :
    (g.followView false).viewDistance = min g.viewDistance g.history := by
  unfold followView
  rw [if_neg Bool.false_ne_true]
  split
  · rename_i hlt
    have none : (g.offset + g.capacity - g.offset) % g.capacity = 0 := by simp
    have back := distance_back (m := g.history) hoffset hoffset (by omega)
    rw [none, Nat.zero_add] at back
    exact back.trans (Nat.min_eq_right (Nat.le_of_lt hlt)).symm
  · rename_i hle
    exact (Nat.min_eq_left (Nat.le_of_not_lt hle)).symm

theorem followView_of_le (h : g.viewDistance ≤ g.history) : g.followView false = g := by
  unfold followView
  rw [if_neg Bool.false_ne_true]
  exact if_neg (Nat.not_lt.2 h)

theorem history_followView (g : Grid) (atBottom : Bool) :
    (g.followView atBottom).history = g.history := by
  unfold followView
  split
  · rfl
  · split <;> rfl

theorem size_markScreenDirty (g : Grid) : g.markScreenDirty.capacity = g.capacity :=
  (touched_markScreenDirty g).size

theorem map_displayed_markScreenDirty (g : Grid) :
    g.markScreenDirty.displayed.map Row.unmark = g.displayed.map Row.unmark := by
  have unmarked (r : Row) : Row.unmark { r with dirty := true } = r.unmark := rfl
  have marked : g.markScreenDirty.slots.toList.map Row.unmark = g.slots.toList.map Row.unmark :=
    map_foldl_slots (fun _ => unmarked) _ g.slots
  unfold displayed
  rw [List.map_filterMap, List.map_filterMap, size_markScreenDirty]
  refine List.filterMap_congr fun i _ => ?_
  have slot := congrArg (·[(g.view + i) % g.capacity]?) marked
  rw [List.getElem?_map, List.getElem?_map, Array.getElem?_toList, Array.getElem?_toList] at slot
  exact slot

/-! ## Scrolling -/

/-- The view stays on its lines while `n` more rows scroll off the screen. If some of these lines
are gone it is on the oldest one. -/
structure Pinned (n : Nat) (g g' : Grid) : Prop where
  distance : g'.viewDistance = min (g.viewDistance + min n g.rows) g'.history
  displayed : g.viewDistance + min n g.rows ≤ g'.history →
    g'.displayed.map Row.unmark = g.displayed.map Row.unmark
  oldest : g'.history < g.viewDistance + min n g.rows → g'.viewTop = 0
  back : g'.viewAtBottom = false

theorem Valid.rotateUp_eq (h : g.Valid kind cols rows) (hback : 0 < g.viewDistance) (n : Nat)
    (background : Color) : ∃ g₁, Turned (min n g.rows) g g₁ ∧
      (g.rotateUp n background = g₁ ∧ min n g.rows = 0 ∨
        g.rotateUp n background = (g₁.followView false).markScreenDirty) := by
  refine ⟨_, h.turned (min n g.rows) background, ?_⟩
  unfold Grid.rotateUp
  dsimp only
  split
  · rename_i hzero
    rw [hzero]
    exact .inl ⟨rfl, rfl⟩
  · have away : g.view ≠ g.offset := fun hview => by
      rw [viewDistance_of_eq hview] at hback
      exact Nat.lt_irrefl 0 hback
    rw [decide_eq_false away]
    exact .inr rfl

/-- Where a view that is scrolled back is after the screen scrolled. -/
theorem Valid.view_rotateUp (h : g.Valid kind cols rows) (hback : 0 < g.viewDistance) (n : Nat)
    (background : Color) : let g' := g.rotateUp n background
    let distance := g.viewDistance + min n g.rows
    g'.history = min (g.history + min n g.rows) (g.capacity - g.rows) ∧
      g'.viewDistance = min (distance % g.capacity) g'.history ∧
      (distance ≤ g'.history → g'.displayed.map Row.unmark = g.displayed.map Row.unmark) := by
  have room := h.room
  have same := h.rows_eq
  have pos := h.rows_pos
  have below := h.view_le
  have some : min n g.rows ≤ g.rows := Nat.min_le_right ..
  obtain ⟨g₁, turned, hrotate⟩ := h.rotateUp_eq hback n background
  have distance := turned.viewDistance h
  have history := turned.history
  have unmoved (hle : g.viewDistance + min n g.rows ≤ g₁.history) : g₁.displayed = g.displayed :=
    turned.displayed h (by omega)
  rcases hrotate with ⟨hrotate, hzero⟩ | hrotate
  · rw [hrotate]
    refine ⟨history, ?_, fun hle => by rw [unmoved hle]⟩
    rw [distance, hzero, Nat.mod_eq_of_lt (by omega), Nat.min_eq_left (by omega)]
  · have hhistory := history_followView g₁ false
    have marked : (g₁.followView false).markScreenDirty.viewDistance =
        (g₁.followView false).viewDistance := by
      rw [Grid.viewDistance, size_markScreenDirty]
      rfl
    have followed : (g₁.followView false).viewDistance = min g₁.viewDistance g₁.history := by
      refine viewDistance_followView ?_ ?_
      · rw [turned.offset, turned.capacity]
        exact Nat.mod_lt _ (by omega)
      · rw [turned.capacity, history]
        omega
    dsimp only
    rw [hrotate]
    refine ⟨hhistory.trans history, ?_, fun hle => ?_⟩
    · rw [marked, followed, distance]
      exact congrArg _ hhistory.symm
    · have hle : g.viewDistance + min n g.rows ≤ g₁.history :=
        Nat.le_trans hle (Nat.le_of_eq hhistory)
      have near : g₁.viewDistance ≤ g₁.history := by
        rw [distance]
        exact Nat.le_trans (Nat.mod_le _ _) hle
      rw [map_displayed_markScreenDirty, followView_of_le near, unmoved hle]

/-- A view that is scrolled back stays on its lines when the whole screen scrolls up. Only if it is
as far back as the ring has room for and all rows of the screen scroll off does it come to show the
screen. -/
theorem Valid.scrollUp_pinned (h : g.Valid .primary cols rows) (hregion : g.region.isFull g.rows)
    (hback : 0 < g.viewDistance) (n : Nat) (background : Color) :
    if g.viewDistance + g.rows = g.capacity ∧
      g.rows ≤ n then (g.scrollUp n background).viewAtBottom = true
    else Pinned n g (g.scrollUp n background) := by
  have room := h.room
  have same := h.rows_eq
  have pos := h.rows_pos
  have below := h.view_le
  have scrolled : g.scrollUp n background = g.rotateUp n background := if_pos hregion
  obtain ⟨history, distance, displayed⟩ := h.view_rotateUp hback n background
  have zero_iff := (h.rotateUp n background).viewDistance_eq_zero_iff
  rw [scrolled]
  split
  · rename_i hfull
    have whole : g.viewDistance + min n g.rows = g.capacity := by omega
    rw [← zero_iff, distance, whole, Nat.mod_self, Nat.zero_min]
  · rename_i hfull
    have lt : g.viewDistance + min n g.rows < g.capacity := by omega
    rw [Nat.mod_eq_of_lt lt] at distance
    refine ⟨distance, displayed, fun hlt => ?_, ?_⟩
    · rw [viewTop, distance, Nat.min_eq_right (Nat.le_of_lt hlt), Nat.sub_self]
    · rw [← Bool.not_eq_true, ← zero_iff]
      omega

/-- A screen of two rows that `n` rows scrolled off, with the view on the oldest one. -/
def lookingBack (n : Nat) : Grid := (((new .primary 3 2 2).scrollUp n .default).viewUp n).1

theorem valid_lookingBack (n : Nat) : (lookingBack n).Valid .primary 3 2 := by
  have empty : (new .primary 3 2 2).Valid .primary 3 2 := valid_new .primary 3 2 2
  exact (empty.scrollUp n .default).viewUp n

/-- One line back there is room for another one. -/
theorem scrollUp_pinned_one :
    (lookingBack 1).viewDistance = 1 ∧ ((lookingBack 1).scrollUp 1 .default).viewDistance = 2 ∧
      Pinned 1 (lookingBack 1) ((lookingBack 1).scrollUp 1 .default) := by
  have pinned :=
    (valid_lookingBack 1).scrollUp_pinned (by decide +kernel) (by decide +kernel) 1 .default
  rw [if_neg (by decide +kernel)] at pinned
  exact ⟨by decide +kernel, by decide +kernel, pinned⟩

/-- Two lines back, with a scrollback of two lines that are both replaced, the view comes to show
the screen. -/
theorem scrollUp_unpinned :
    (lookingBack 2).Valid .primary 3 2 ∧ (lookingBack 2).region.isFull (lookingBack 2).rows ∧
      0 < (lookingBack 2).viewDistance ∧
      ((lookingBack 2).scrollUp 2 .default).viewDistance ≠
        min ((lookingBack 2).viewDistance + min 2 (lookingBack 2).rows)
          ((lookingBack 2).scrollUp 2 .default).history ∧
      ((lookingBack 2).scrollUp 2 .default).viewAtBottom = true :=
  ⟨valid_lookingBack 2, by decide +kernel⟩

end Grid

end Teletype
