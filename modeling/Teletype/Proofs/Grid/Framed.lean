import Teletype.Proofs.Grid.Rows

/-!
# The frame of the region

What lies outside of the region: the rows above and below it, and the scrollback. In the ring these
are the rows before the top of the region and all those from its bottom on. Edits of a row of the
region do not reach them, and neither do rows that are moved in a region that is not the whole
screen.
-/

namespace Teletype

namespace Region

theorem contains_iff {r : Region} {row : Nat} :
    r.contains row = true ↔ r.top ≤ row ∧ row < r.bottom := by
  simp [contains]

theorem isFull_iff {r : Region} {rows : Nat} : r.isFull rows = true ↔ r = .full rows := by
  cases r
  simp [isFull, full]

end Region

namespace Grid

/-- A grid that comes from another one by changes in the region and of the cursor. -/
structure Framed (g₀ g : Grid) : Prop where
  rows : g.rows = g₀.rows
  history : g.history = g₀.history
  region : g.region = g₀.region
  capacity : g.capacity = g₀.capacity
  /-- The rows above the region are the same. -/
  above : g.ring.take g.region.top = g₀.ring.take g.region.top
  /-- The rows below the region are the same, and behind them the scrollback is. -/
  below : g.ring.drop g.region.bottom = g₀.ring.drop g.region.bottom
  region_le : g.region.bottom ≤ g.rows
  room : g.history + g.rows ≤ g.capacity

theorem Valid.framed {kind : ScreenKind} {cols rows : Nat} {g : Grid} (h : g.Valid kind cols rows) :
    g.Framed g where
  rows := rfl
  history := rfl
  region := rfl
  capacity := rfl
  above := rfl
  below := rfl
  region_le := h.rows_eq ▸ h.region_le
  room := h.rows_eq ▸ h.room

variable {g₀ g : Grid}

/-! ## What is in the frame -/

/-- A row of the screen outside of the region is the same. -/
theorem Framed.row?_outside (h : g₀.Framed g) {row : Nat} (hrow : g₀.region.contains row = false) :
    g.row? row = g₀.row? row := by
  have outside : row < g.region.top ∨ g.region.bottom ≤ row := by
    rw [← h.region, ← Bool.not_eq_true, Region.contains_iff] at hrow
    omega
  by_cases here : row < g.rows
  · have room := h.room
    have rows := h.rows
    have capacity := h.capacity
    rw [row?_eq (by omega) here, row?_eq (by omega) (by omega)]
    rcases outside with above | below
    · rw [← List.getElem?_take_of_lt above, h.above, List.getElem?_take_of_lt above]
    · obtain ⟨n, rfl⟩ := Nat.exists_eq_add_of_le below
      rw [← List.getElem?_drop, h.below, List.getElem?_drop]
  · rw [row?, row?, if_neg here, if_neg (h.rows ▸ here)]

/-- A line of the scrollback is the same. -/
theorem Framed.line?_above (h : g₀.Framed g) {line : Nat} (hline : line < g₀.history) :
    g.line? line = g₀.line? line := by
  have room := h.room
  have history := h.history
  have region_le := h.region_le
  have behind : g.region.bottom ≤ g.capacity - g.history := by omega
  obtain ⟨n, hn⟩ := Nat.exists_eq_add_of_le behind
  rw [line?_eq_of_lt (by omega) (by omega), line?_eq_of_lt (by rw [← h.capacity]; omega) hline,
    ← h.capacity, ← history, hn, Nat.add_assoc, ← List.getElem?_drop, h.below, List.getElem?_drop]

/-! ## Steps -/

theorem Framed.ite {p : Prop} [Decidable p] {a b : Grid} (ha : g₀.Framed a) (hb : g₀.Framed b) :
    g₀.Framed (if p then a else b) := by
  split
  · exact ha
  · exact hb

/-- Moving the cursor changes nothing outside of the region. -/
theorem Framed.moved (h : g₀.Framed g) (cursor : Cursor) : g₀.Framed { g with cursor := cursor } :=
  ⟨h.rows, h.history, h.region, h.capacity, h.above, h.below, h.region_le, h.room⟩

/-- Only rows of the ring are changed, and none in the frame. -/
theorem Framed.of_ring (h : g₀.Framed g) {slots : Array Row} {nextSeq : Nat} {ring : List Row}
    (hring : ({ g with slots := slots, nextSeq := nextSeq } : Grid).ring = ring)
    (habove : ring.take g.region.top = g.ring.take g.region.top)
    (hbelow : ring.drop g.region.bottom = g.ring.drop g.region.bottom)
    (hlength : ring.length = g.ring.length) :
    g₀.Framed { g with slots := slots, nextSeq := nextSeq } := by
  have capacity : ({ g with slots := slots, nextSeq := nextSeq } : Grid).capacity = g.capacity := by
    rw [← length_ring, hring, hlength, length_ring]
  refine ⟨h.rows, h.history, h.region, capacity.trans h.capacity, ?_, ?_, h.region_le,
    capacity ▸ h.room⟩
  · rw [hring]
    exact habove.trans h.above
  · rw [hring]
    exact hbelow.trans h.below

/-- Changing slots of the region changes nothing outside of it. -/
theorem Framed.of_inside (h : g₀.Framed g) {slots : Array Row} {nextSeq : Nat}
    (hsize : slots.size = g.slots.size)
    (houtside : ∀ i, i < g.region.top ∨ g.region.bottom ≤ i →
      ({ g with slots := slots, nextSeq := nextSeq } : Grid).ring[i]? = g.ring[i]?) :
    g₀.Framed { g with slots := slots, nextSeq := nextSeq } := by
  refine h.of_ring rfl (List.ext_getElem? fun i => ?_) (List.ext_getElem? fun i => ?_) ?_
  · rw [List.getElem?_take, List.getElem?_take]
    split
    · exact houtside i (.inl ‹_›)
    · rfl
  · rw [List.getElem?_drop, List.getElem?_drop]
    exact houtside _ (.inr (Nat.le_add_right ..))
  · rw [length_ring, length_ring]
    exact hsize

/-- An edit of a row of the region changes nothing outside of it. -/
theorem Framed.modifyRow (h : g₀.Framed g) {row : Nat} (hrow : g.region.contains row = true)
    (f : Row → Row) : g₀.Framed (g.modifyRow row f) := by
  obtain ⟨low, high⟩ := Region.contains_iff.1 hrow
  have region_le := h.region_le
  have room := h.room
  have here : row < g.rows := Nat.lt_of_lt_of_le high region_le
  have ring := ring_modifyRow (by omega) here f
  unfold Grid.modifyRow at ring ⊢
  rw [if_pos here] at ring ⊢
  refine h.of_inside Array.size_modify fun i hi => ?_
  exact ring ▸ List.getElem?_modify_ne _ _ (by omega)

/-! ## Moving rows -/

/-- What moving rows does to the rows of the region does not reach the frame. -/
theorem keptBetween_framed (g₀ : Grid) (background : Color) :
    KeptBetween g₀.Framed g₀.region.top g₀.region.bottom background where
  swap {g a b} ha hb h := by
    have room := h.room
    have region := h.region
    have region_le := h.region_le
    rw [← region] at ha hb
    refine h.of_inside Array.size_swapIfInBounds fun i hi => ?_
    exact (getElem?_ring_swapRows (by omega) (by omega)).trans
      ((if_neg (by omega)).trans (if_neg (by omega)))
  reset {g row} hrow h := by
    have room := h.room
    have region := h.region
    have region_le := h.region_le
    rw [← region] at hrow
    refine h.of_inside Array.size_modify fun i hi => ?_
    show (g.resetRow background row).ring[i]? = _
    rw [ring_resetRow (by omega), List.getElem?_modify_ne _ _ (by omega)]
  mark {g row} hrow h := by
    have room := h.room
    have region := h.region
    have region_le := h.region_le
    rw [← region] at hrow
    refine h.of_inside Array.size_modify fun i hi => ?_
    show (g.markRow row).ring[i]? = _
    rw [ring_markRow (by omega), List.getElem?_modify_ne _ _ (by omega)]

section

variable (h : g₀.Framed g) (n : Nat) (background : Color)

include h

theorem Framed.shiftUp {top : Nat} (hlow : g.region.top ≤ top) :
    g₀.Framed (g.shiftUp top g.region.bottom n background) := by
  have kept := h.region ▸ keptBetween_framed g₀ background
  exact (kept.mono hlow (Nat.min_le_left ..)).shiftUp h n

theorem Framed.shiftDown {top : Nat} (hlow : g.region.top ≤ top) :
    g₀.Framed (g.shiftDown top g.region.bottom n background) := by
  have kept := h.region ▸ keptBetween_framed g₀ background
  exact (kept.mono hlow (Nat.min_le_left ..)).shiftDown h n

/-- A region that is a part of the screen scrolls without the scrollback. -/
theorem Framed.scrollUp (hpart : g.region ≠ .full g.rows) :
    g₀.Framed (g.scrollUp n background) := by
  unfold Grid.scrollUp
  rw [if_neg fun hfull => hpart (Region.isFull_iff.1 hfull)]
  exact h.shiftUp n background (Nat.le_refl _)

theorem Framed.scrollDown : g₀.Framed (g.scrollDown n background) :=
  h.shiftDown n background (Nat.le_refl _)

theorem Framed.insertLines : g₀.Framed (g.insertLines n background) := by
  unfold Grid.insertLines
  split
  · rename_i inside
    exact (h.shiftDown n background (Region.contains_iff.1 inside).1).moved _
  · exact h

theorem Framed.deleteLines : g₀.Framed (g.deleteLines n background) := by
  unfold Grid.deleteLines
  split
  · rename_i inside
    exact (h.shiftUp n background (Region.contains_iff.1 inside).1).moved _
  · exact h

end

/-! ## Editing rows -/

section

variable (h : g₀.Framed g) {row : Nat} (hrow : g.region.contains row = true)

include h hrow

theorem Framed.eraseInRow (first last : Nat) (background : Color) :
    g₀.Framed (g.eraseInRow row first last background) := h.modifyRow hrow _

theorem Framed.clearWrap : g₀.Framed (g.clearWrap row) := h.modifyRow hrow _

theorem Framed.eraseRow (background : Color) :
    g₀.Framed (eraseRow background g row) := h.modifyRow hrow _

theorem Framed.write (col key width : Nat) (rendition : Rendition) (link : Nat) :
    g₀.Framed (g.write row col key width rendition link) := .ite (h.modifyRow hrow _) h

theorem Framed.compose (col key width : Nat) : g₀.Framed (g.compose row col key width).1 :=
  h.modifyRow hrow fun r => (r.compose col key width).1

end

section

variable (h : g₀.Framed g) (hcursor : g.region.contains g.cursor.row = true) (n : Nat)
    (background : Color)

include h hcursor

theorem Framed.eraseRight : g₀.Framed (g.eraseRight background) := by
  have erased := h.eraseInRow hcursor g.cursor.col g.cols background
  refine erased.clearWrap ?_
  rw [erased.region, ← h.region]
  exact hcursor

theorem Framed.insertChars : g₀.Framed (g.insertChars n background) := h.modifyRow hcursor _

theorem Framed.deleteChars : g₀.Framed (g.deleteChars n background) := h.modifyRow hcursor _

theorem Framed.eraseChars : g₀.Framed (g.eraseChars n background) := h.eraseInRow hcursor ..

theorem Framed.eraseLine : g₀.Framed (g.eraseLine n background).value := by
  unfold Grid.eraseLine
  split
  · exact h.eraseRight hcursor background
  · exact h.eraseInRow hcursor ..
  · exact h.eraseRow hcursor background
  · exact h

end

end Grid

end Teletype
