import Mathlib.Tactic.Common
import Teletype.Grid.Edit
import Teletype.Grid.View
import Teletype.Proofs.Grid.Shift

/-!
# Marks on changed rows

A row that changes is marked until the next frame. What is displayed also changes when other rows
come into view: then all of it is marked, but for one case. A view that is scrolled back is moved by
the screen's scrolling and by erasing the scrollback without any mark.
-/

namespace Teletype

/-- Rows that are not marked are as they were. -/
structure Touched (slots slots' : Array Row) : Prop where
  size : slots'.size = slots.size
  unmarked : ∀ (i : Nat) (r : Row), slots'[i]? = some r → r.dirty = false → slots[i]? = some r

theorem Touched.refl (slots : Array Row) : Touched slots slots := ⟨rfl, fun _ _ h _ => h⟩

theorem Touched.trans {a b c : Array Row} (h : Touched a b) (h' : Touched b c) : Touched a c :=
  ⟨h'.size.trans h.size, fun i r hr hd => h.unmarked i r (h'.unmarked i r hr hd) hd⟩

/-- A change marks the row it is made to. -/
theorem touched_modify (slots : Array Row) (k : Nat) {f : Row → Row}
    (hf : ∀ r, (f r).dirty = true) : Touched slots (slots.modify k f) where
  size := Array.size_modify
  unmarked := by
    intro i r hr hd
    rw [Array.getElem?_modify] at hr
    split at hr
    · obtain ⟨r', -, rfl⟩ := Option.map_eq_some_iff.1 hr
      rw [hf] at hd
      exact absurd hd (by decide)
    · exact hr

theorem touched_foldl {α : Type} {f : Array Row → α → Array Row}
    (hf : ∀ slots x, Touched slots (f slots x)) (l : List α) (slots : Array Row) :
    Touched slots (l.foldl f slots) := by
  induction l generalizing slots with
  | nil => exact .refl slots
  | cons x l ih => exact (hf slots x).trans (ih (f slots x))

namespace Row

variable {r : Row}

theorem dirty_eraseRange (h : r.dirty = true) (first last : Nat) (background : Color) :
    (r.eraseRange first last background).dirty = true := by
  unfold eraseRange
  dsimp only
  split
  · exact h
  · rfl

theorem dirty_insertBlanks (h : r.dirty = true) (col n : Nat) (background : Color) :
    (r.insertBlanks col n background).dirty = true := by
  unfold insertBlanks
  dsimp only
  split <;> exact h

theorem dirty_deleteCells (h : r.dirty = true) (col n : Nat) (background : Color) :
    (r.deleteCells col n background).dirty = true := by
  unfold deleteCells
  dsimp only
  split <;> exact h

theorem dirty_write (h : r.dirty = true) (col key width : Nat) (rendition : Rendition)
    (link : Nat) : (r.write col key width rendition link).dirty = true := by
  unfold write
  dsimp only
  split <;> exact h

theorem dirty_compose (h : r.dirty = true) (col key width : Nat) :
    (r.compose col key width).1.dirty = true := by
  unfold compose
  split <;> exact h

end Row

namespace Grid

variable {g g' : Grid}

/-- All that is displayed is marked, and stays so as long as only the screen changes. -/
def Fresh (g : Grid) : Prop :=
  (g.view = g.offset ∧ ∀ r ∈ g.displayed, r.dirty = true) ∨ ∀ r ∈ g.slots, r.dirty = true

/-- Changed rows are marked, and a view of the screen stays where it is. -/
structure Keeps (g g' : Grid) : Prop where
  rows : g'.rows = g.rows
  slots : Touched g.slots g'.slots
  view : g.view = g.offset → g'.view = g.view ∧ g'.offset = g.offset

theorem getElem?_filterMap_range {α : Type} {f : Nat → Option α} {n : Nat}
    (h : ∀ i < n, (f i).isSome) (i : Nat) :
    ((List.range n).filterMap f)[i]? = if i < n then f i else none := by
  induction n with
  | zero => rfl
  | succ n ih =>
    have before : ∀ i < n, (f i).isSome := fun i hi => h i (Nat.lt_succ_of_lt hi)
    have length : ((List.range n).filterMap f).length = n := by
      rw [List.filterMap_length_eq_length.2 fun i hi => before i (List.mem_range.1 hi),
        List.length_range]
    obtain ⟨last, hlast⟩ := Option.isSome_iff_exists.1 (h n (Nat.lt_succ_self n))
    rw [List.range_succ, List.filterMap_append, List.getElem?_append, length, ih before]
    by_cases hi : i < n
    · rw [if_pos hi, if_pos hi, if_pos (Nat.lt_succ_of_lt hi)]
    · rw [if_neg hi, List.filterMap_cons_some hlast, List.filterMap_nil]
      by_cases hn : i = n
      · rw [hn, Nat.sub_self, if_pos (Nat.lt_succ_self n), hlast]
        rfl
      · rw [if_neg (by omega), List.getElem?_eq_none (by rw [List.length_singleton]; omega)]

theorem getElem?_displayed (g : Grid) (i : Nat) : g.displayed[i]? =
    if i < g.rows then g.slots[(g.view + i) % g.capacity]? else none := by
  rcases Nat.eq_zero_or_pos g.capacity with hempty | hpos
  · have none (k : Nat) : g.slots[k]? = none :=
      Array.getElem?_eq_none (Nat.le_trans (Nat.le_of_eq hempty) (Nat.zero_le k))
    have empty : g.displayed = [] := List.filterMap_eq_nil_iff.2 fun row _ => none _
    rw [empty, none, ite_self]
    rfl
  · rw [displayed, getElem?_filterMap_range]
    intro row _
    have lt : (g.view + row) % g.capacity < g.slots.size := Nat.mod_lt _ hpos
    rw [Array.getElem?_eq_getElem lt]
    rfl

/-- The rows that are displayed are among those of the ring. -/
theorem mem_displayed {r : Row} : r ∈ g.displayed ↔
    ∃ i < g.rows, g.slots[(g.view + i) % g.capacity]? = some r := by
  simp [displayed]

theorem Fresh.displayed (h : g.Fresh) : ∀ r ∈ g.displayed, r.dirty = true := by
  intro r hr
  rcases h with ⟨-, hall⟩ | hall
  · exact hall r hr
  · obtain ⟨i, -, hi⟩ := mem_displayed.1 hr
    exact hall r (Array.mem_of_getElem? hi)

theorem Keeps.refl (g : Grid) : g.Keeps g := ⟨rfl, .refl _, fun _ => ⟨rfl, rfl⟩⟩

theorem Keeps.trans {g'' : Grid} (h : g.Keeps g') (h' : g'.Keeps g'') : g.Keeps g'' where
  rows := h'.rows.trans h.rows
  slots := h.slots.trans h'.slots
  view := by
    intro hview
    obtain ⟨view, offset⟩ := h.view hview
    obtain ⟨view', offset'⟩ := h'.view (by rw [view, offset, hview])
    exact ⟨view'.trans view, offset'.trans offset⟩

/-- A grid that was fresh is still fresh after changes that keep the view of the screen. -/
theorem Keeps.fresh (h : g.Keeps g') (hg : g.Fresh) : g'.Fresh := by
  rcases hg with ⟨hview, hall⟩ | hall
  · obtain ⟨view, offset⟩ := h.view hview
    refine .inl ⟨by rw [view, offset, hview], fun r hr => ?_⟩
    cases hd : r.dirty with
    | true => rfl
    | false =>
      obtain ⟨i, hi, hslot⟩ := mem_displayed.1 hr
      have before := h.slots.unmarked _ r hslot hd
      rw [view, capacity, h.slots.size] at before
      rw [← hd]
      exact hall r (mem_displayed.2 ⟨i, h.rows ▸ hi, before⟩)
  · refine .inr fun r hr => ?_
    cases hd : r.dirty with
    | true => rfl
    | false =>
      obtain ⟨i, hi⟩ := Array.mem_iff_getElem?.1 hr
      rw [← hd]
      exact hall r (Array.mem_of_getElem? (h.slots.unmarked i r hi hd))

/-- What an operation does to the marks: either all that is displayed is marked then, or changed
rows are and a view of the screen stays. -/
def Damages (g g' : Grid) : Prop := g'.Fresh ∨ g.Keeps g'

theorem Damages.trans {g'' : Grid} (h : g.Damages g') (h' : g'.Damages g'') : g.Damages g'' := by
  rcases h' with h' | h'
  · exact .inl h'
  · rcases h with h | h
    · exact .inl (h'.fresh h)
    · exact .inr (h.trans h')

/-! ## Operations -/

theorem keeps_of_slots (hrows : g'.rows = g.rows) (hslots : Touched g.slots g'.slots)
    (hview : g'.view = g.view) (hoffset : g'.offset = g.offset) : g.Keeps g' :=
  ⟨hrows, hslots, fun _ => ⟨hview, hoffset⟩⟩

theorem keeps_modifyRow (g : Grid) (row : Nat) {f : Row → Row}
    (hf : ∀ r, r.dirty = true → (f r).dirty = true) : g.Keeps (g.modifyRow row f) := by
  unfold modifyRow
  split
  · exact keeps_of_slots rfl
      (touched_modify _ _ (f := fun r => f { r with dirty := true }) fun r => hf _ rfl) rfl rfl
  · exact .refl g

theorem keeps_foldl {α : Type} {f : Grid → α → Grid} (hf : ∀ g x, Keeps g (f g x)) (l : List α)
    (g : Grid) : g.Keeps (l.foldl f g) :=
  List.foldlRecOn l f (.refl g) fun u hu x _ => hu.trans (hf u x)

theorem keeps_eraseInRow (g : Grid) (row first last : Nat) (background : Color) :
    g.Keeps (g.eraseInRow row first last background) :=
  keeps_modifyRow g row fun _ h => Row.dirty_eraseRange h first last background

theorem keeps_eraseRow (g : Grid) (background : Color) (row : Nat) :
    g.Keeps (eraseRow background g row) := keeps_modifyRow g row fun _ _ => rfl

theorem keeps_eraseRows (g : Grid) (first last : Nat) (background : Color) :
    g.Keeps (g.eraseRows first last background) :=
  keeps_foldl (fun g row => g.keeps_eraseRow background row) _ g

theorem keeps_eraseRight (g : Grid) (background : Color) : g.Keeps (g.eraseRight background) :=
  (keeps_eraseInRow g _ _ _ background).trans
    (keeps_modifyRow _ _ (f := ({ · with wrapped := false })) fun _ h => h)

theorem keeps_eraseLeft (g : Grid) (background : Color) : g.Keeps (g.eraseLeft background) :=
  keeps_eraseInRow g _ _ _ background

/-- The view of the screen stays; the one that is scrolled back is moved there. -/
theorem keeps_eraseScrollback (g : Grid) : g.Keeps g.eraseScrollback where
  rows := rfl
  slots := touched_foldl (fun slots _ => touched_modify slots _ fun _ => rfl) _ _
  view := fun h => ⟨h.symm, rfl⟩

theorem keeps_eraseDisplay (g : Grid) (mode : Nat) (background : Color) :
    g.Keeps (g.eraseDisplay mode background).value := by
  unfold eraseDisplay
  split
  · exact (keeps_eraseRight g background).trans (keeps_eraseRows _ _ _ _)
  · exact (keeps_eraseRows g _ _ _).trans (keeps_eraseLeft _ background)
  · exact keeps_eraseRows g _ _ _
  · exact keeps_eraseScrollback g
  · exact .refl g

theorem keeps_eraseLine (g : Grid) (mode : Nat) (background : Color) :
    g.Keeps (g.eraseLine mode background).value := by
  unfold eraseLine
  split
  · exact keeps_eraseRight g background
  · exact keeps_eraseLeft g background
  · exact keeps_eraseRow g background _
  · exact .refl g

theorem keeps_insertChars (g : Grid) (n : Nat) (background : Color) :
    g.Keeps (g.insertChars n background) :=
  keeps_modifyRow g _ fun _ h => Row.dirty_insertBlanks h _ n background

theorem keeps_deleteChars (g : Grid) (n : Nat) (background : Color) :
    g.Keeps (g.deleteChars n background) :=
  keeps_modifyRow g _ fun _ h => Row.dirty_deleteCells h _ n background

theorem keeps_write (g : Grid) (row col key width : Nat) (rendition : Rendition) (link : Nat) :
    g.Keeps (g.write row col key width rendition link) := by
  unfold write
  dsimp only
  generalize (if width ≤ 1 then 1 else 2) = width
  split
  · exact keeps_modifyRow g row fun _ h => Row.dirty_write h col key width rendition link
  · exact .refl g

theorem keeps_compose (g : Grid) (row col key width : Nat) :
    g.Keeps (g.compose row col key width).1 :=
  keeps_modifyRow g row fun _ h => Row.dirty_compose h col key width

theorem keeps_fill (g : Grid) (c : Char) : g.Keeps (g.fill c) :=
  keeps_foldl (fun g row => keeps_modifyRow g row (f := fun r =>
    { r with wrapped := false, cells := Array.replicate r.cells.size (.ofChar c) })
      fun _ h => h) _ g

theorem keeps_setRegion (g : Grid) (top bottom : Nat) : g.Keeps (g.setRegion top bottom) := by
  unfold setRegion
  dsimp only
  split
  · exact keeps_of_slots rfl (.refl _) rfl rfl
  · exact .refl g

/-- What moves the cursor or saves it marks nothing. -/
theorem keeps_cursor (g : Grid) (cursor : Cursor) (saved : SavedCursor) :
    g.Keeps { g with cursor := cursor, saved := saved } := keeps_of_slots rfl (.refl _) rfl rfl

/-- A grid that differs from another one in the rows between `top` and `bottom`, whether they are
marked or not. -/
structure AlteredBetween (top bottom : Nat) (g g' : Grid) : Prop where
  refills : g.Refills g'
  size : g'.slots.size = g.slots.size
  other : ∀ i, (∀ row, top ≤ row ∧ row < bottom → g.slotOf row ≠ i) → g'.slots[i]? = g.slots[i]?

theorem AlteredBetween.refl (top bottom : Nat) (g : Grid) : AlteredBetween top bottom g g :=
  ⟨rfl, rfl, fun _ _ => rfl⟩

theorem AlteredBetween.slotOf {top bottom : Nat} (h : AlteredBetween top bottom g g') (row : Nat) :
    g'.slotOf row = g.slotOf row := by
  rw [Grid.slotOf, Grid.slotOf, capacity, capacity, h.size,
    show g'.offset = g.offset by rw [h.refills]]

theorem getElem?_swapIfInBounds_of_ne {α : Type} (xs : Array α) {a b i : Nat} (ha : a ≠ i)
    (hb : b ≠ i) : (xs.swapIfInBounds a b)[i]? = xs[i]? := by
  unfold Array.swapIfInBounds
  split
  · split
    · rw [Array.getElem?_swap, if_neg hb, if_neg ha]
    · rfl
  · rfl

theorem getElem?_modify_of_ne {α : Type} (xs : Array α) {a i : Nat} (ha : a ≠ i) (f : α → α) :
    (xs.modify a f)[i]? = xs[i]? := by
  rw [Array.getElem?_modify, if_neg ha]

theorem keptBetween_altered (g : Grid) (top bottom : Nat) (background : Color) :
    KeptBetween (AlteredBetween top bottom g) top bottom background where
  swap ha hb h := by
    refine ⟨(keptBetween_refills g top bottom background).swap ha hb h.refills,
      Array.size_swapIfInBounds.trans h.size, fun i hi => ?_⟩
    exact (getElem?_swapIfInBounds_of_ne _ (h.slotOf _ ▸ hi _ ha) (h.slotOf _ ▸ hi _ hb)).trans
      (h.other i hi)
  reset hrow h := by
    refine ⟨(keptBetween_refills g top bottom background).reset hrow h.refills,
      Array.size_modify.trans h.size, fun i hi => ?_⟩
    exact (getElem?_modify_of_ne _ (h.slotOf _ ▸ hi _ hrow) _).trans (h.other i hi)
  mark hrow h := by
    refine ⟨(keptBetween_refills g top bottom background).mark hrow h.refills,
      Array.size_modify.trans h.size, fun i hi => ?_⟩
    exact (getElem?_modify_of_ne _ (h.slotOf _ ▸ hi _ hrow) _).trans (h.other i hi)

theorem touched_foldl_markRow (l : List Nat) (g : Grid) :
    Touched g.slots (l.foldl markRow g).slots :=
  List.foldlRecOn (motive := fun u : Grid => Touched g.slots u.slots) l _ (.refl _) fun _ hu _ _ =>
    hu.trans (touched_modify _ _ (f := fun r => { r with dirty := true }) fun _ => rfl)

theorem dirty_foldl_markRow {l : List Nat} {row : Nat} (hrow : row ∈ l) {r : Row}
    (hr : (l.foldl markRow g).slots[g.slotOf row]? = some r) : r.dirty = true := by
  induction l generalizing g with
  | nil => exact absurd hrow List.not_mem_nil
  | cons x l ih =>
    rw [List.foldl_cons] at hr
    have slot : (g.markRow x).slotOf row = g.slotOf row := by
      rw [slotOf, capacity_markRow]
      rfl
    rcases List.mem_cons.1 hrow with rfl | hrow
    · cases hd : r.dirty with
      | true => rfl
      | false =>
        have before := (touched_foldl_markRow l (g.markRow row)).unmarked _ r hr hd
        rw [markRow, Array.getElem?_modify, if_pos rfl] at before
        obtain ⟨r', -, rfl⟩ := Option.map_eq_some_iff.1 before
        exact absurd hd (by simp)
    · exact ih hrow (slot ▸ hr)

/-- Rows that are marked in the end may have been altered before. -/
theorem AlteredBetween.keeps_markRows {top bottom : Nat} (h : AlteredBetween top bottom g g') :
    g.Keeps (g'.markRows top bottom) := by
  have marked := (keptBetween_altered g top bottom .default).markRows h
  have refills : g'.markRows top bottom = _ := marked.refills
  refine keeps_of_slots (by rw [refills]) ⟨marked.size, fun i r hr hd => ?_⟩ (by rw [refills])
    (by rw [refills])
  by_cases inside : ∃ row, (top ≤ row ∧ row < bottom) ∧ g.slotOf row = i
  · obtain ⟨row, hrow, rfl⟩ := inside
    rw [← h.slotOf] at hr
    have dirty := dirty_foldl_markRow (List.mem_range'_1.2 (by omega)) hr
    exact absurd (dirty.symm.trans hd) (by decide)
  · rw [← marked.other i fun row hrow slot => inside ⟨row, hrow, slot⟩]
    exact hr

theorem keeps_shiftUp (g : Grid) (top bottom n : Nat) (background : Color) :
    g.Keeps (g.shiftUp top bottom n background) := by
  unfold shiftUp
  dsimp only
  split
  · exact .refl g
  · have between := keptBetween_altered g top (min bottom g.rows) background
    exact (between.resetRows (between.swapUp (.refl ..) _) (by omega) (by omega)).keeps_markRows

theorem keeps_shiftDown (g : Grid) (top bottom n : Nat) (background : Color) :
    g.Keeps (g.shiftDown top bottom n background) := by
  unfold shiftDown
  dsimp only
  split
  · exact .refl g
  · have between := keptBetween_altered g top (min bottom g.rows) background
    exact (between.resetRows (between.swapDown (.refl ..) _) (Nat.le_refl _)
      (by omega)).keeps_markRows

/-- Marking the screen is marking its rows. -/
theorem markScreenDirty_eq (g : Grid) :
    g.markScreenDirty = (List.range g.rows).foldl markRow g := by
  unfold markScreenDirty
  generalize List.range g.rows = l
  induction l generalizing g with
  | nil => rfl
  | cons row l ih => exact ih (g.markRow row)

theorem touched_markScreenDirty (g : Grid) : Touched g.slots g.markScreenDirty.slots :=
  markScreenDirty_eq g ▸ touched_foldl_markRow _ g

theorem touched_repeat_turn (g : Grid) (n : Nat) (background : Color) :
    (Nat.repeat (turn background) n g).rows = g.rows ∧
      Touched g.slots (Nat.repeat (turn background) n g).slots := by
  induction n with
  | zero => exact ⟨rfl, .refl _⟩
  | succ n ih =>
    refine ⟨ih.1, ih.2.trans ?_⟩
    exact touched_modify _ _ (f := (·.reset background _)) fun _ => rfl

theorem slots_followView (g : Grid) (atBottom : Bool) :
    (g.followView atBottom).rows = g.rows ∧ (g.followView atBottom).slots = g.slots := by
  unfold followView
  split
  · exact ⟨rfl, rfl⟩
  · split <;> exact ⟨rfl, rfl⟩

/-- Marking the screen marks all that a view of the screen displays. -/
theorem fresh_markScreenDirty (h : g.view = g.offset) : g.markScreenDirty.Fresh := by
  refine .inl ⟨h, fun r hr => ?_⟩
  obtain ⟨i, hi, hslot⟩ := mem_displayed.1 hr
  rw [capacity, (touched_markScreenDirty g).size, show g.markScreenDirty.view = g.offset from h,
    markScreenDirty_eq] at hslot
  exact dirty_foldl_markRow (List.mem_range.2 hi) hslot

/-- When the screen scrolls, a view of it is fresh; a view that is scrolled back may be moved. -/
theorem damages_rotateUp (g : Grid) (n : Nat) (background : Color) :
    g.Damages (g.rotateUp n background) := by
  unfold rotateUp
  dsimp only
  split
  · exact .inr (.refl g)
  · by_cases h : g.view = g.offset
    · exact .inl (fresh_markScreenDirty (by rw [decide_eq_true h]; rfl))
    · have turned := touched_repeat_turn g (min n g.rows) background
      have followed := slots_followView (Nat.repeat (turn background) (min n g.rows) g)
        (decide (g.view = g.offset))
      refine .inr ⟨followed.1.trans turned.1, ?_, fun hview => absurd hview h⟩
      refine Touched.trans ?_ (touched_markScreenDirty _)
      rw [followed.2]
      exact turned.2

theorem damages_scrollUp (g : Grid) (n : Nat) (background : Color) :
    g.Damages (g.scrollUp n background) := by
  unfold scrollUp
  split
  · exact damages_rotateUp g n background
  · exact .inr (keeps_shiftUp g _ _ n background)

theorem damages_scrollDown (g : Grid) (n : Nat) (background : Color) :
    g.Damages (g.scrollDown n background) := .inr (keeps_shiftDown g _ _ n background)

theorem keeps_insertLines (g : Grid) (n : Nat) (background : Color) :
    g.Keeps (g.insertLines n background) := by
  unfold insertLines
  split
  · exact (keeps_shiftDown g _ _ n background).trans (keeps_cursor _ _ _)
  · exact .refl g

theorem keeps_deleteLines (g : Grid) (n : Nat) (background : Color) :
    g.Keeps (g.deleteLines n background) := by
  unfold deleteLines
  split
  · exact (keeps_shiftUp g _ _ n background).trans (keeps_cursor _ _ _)
  · exact .refl g

theorem fresh_markAllDirty (g : Grid) : g.markAllDirty.Fresh := by
  refine .inr fun r hr => ?_
  obtain ⟨r', -, rfl⟩ := Array.mem_map.1 hr
  rfl

theorem fresh_clearAll (g : Grid) : g.clearAll.Fresh := by
  refine .inr fun r hr => ?_
  obtain ⟨i, -, rfl⟩ := Array.mem_mapIdx.1 hr
  rfl

/-- A grid that was started anew shows its screen. -/
theorem viewToBottom_clearAll (g : Grid) : g.clearAll.viewToBottom = g.clearAll :=
  if_pos (decide_eq_true rfl)

/-! ## Looking back -/

/-- The view moves with all that it shows marked, or stays. -/
theorem viewUp_eq_or_fresh (g : Grid) (n : Nat) : (g.viewUp n).1 = g ∨ (g.viewUp n).1.Fresh := by
  unfold viewUp
  dsimp only
  split
  · exact .inl rfl
  · exact .inr (fresh_markAllDirty _)

theorem viewDown_eq_or_fresh (g : Grid) (n : Nat) :
    (g.viewDown n).1 = g ∨ (g.viewDown n).1.Fresh := by
  unfold viewDown
  dsimp only
  split
  · exact .inl rfl
  · exact .inr (fresh_markAllDirty _)

theorem viewToBottom_eq_or_fresh (g : Grid) : g.viewToBottom = g ∨ g.viewToBottom.Fresh := by
  unfold viewToBottom
  split
  · exact .inl rfl
  · exact .inr (fresh_markAllDirty _)

theorem previousPrompt_eq_or_fresh (g : Grid) :
    g.previousPrompt.1 = g ∨ g.previousPrompt.1.Fresh := by
  unfold previousPrompt
  split
  · exact .inl rfl
  · exact viewUp_eq_or_fresh g _

theorem nextPrompt_eq_or_fresh (g : Grid) : g.nextPrompt.1 = g ∨ g.nextPrompt.1.Fresh := by
  unfold nextPrompt
  split
  · exact .inl rfl
  · exact viewDown_eq_or_fresh g _

/-! ## What is displayed -/

/-- What is displayed now and was not displayed in the same place is marked. -/
def Marks (g g' : Grid) : Prop :=
  (∀ r ∈ g'.displayed, r.dirty = true) ∨
    (g'.rows = g.rows ∧ Touched g.slots g'.slots ∧ g'.view = g.view)

theorem Marks.refl (g : Grid) : g.Marks g := .inr ⟨rfl, .refl _, rfl⟩

theorem Fresh.marks (h : g'.Fresh) : g.Marks g' := .inl h.displayed

/-- A row that is displayed without a mark was displayed in its place before. -/
theorem Marks.displayed (h : g.Marks g') {i : Nat} {r : Row} (hr : g'.displayed[i]? = some r)
    (hd : r.dirty = false) : g.displayed[i]? = some r := by
  rcases h with hall | ⟨hrows, hslots, hview⟩
  · rw [hall r (List.mem_of_getElem? hr)] at hd
    exact absurd hd (by decide)
  · rw [getElem?_displayed] at hr ⊢
    rw [hrows, hview, capacity, hslots.size] at hr
    split at hr
    · rename_i hi
      rw [if_pos hi]
      exact hslots.unmarked _ r hr hd
    · exact absurd hr (by simp)

theorem Marks.trans {g'' : Grid} (h : g.Marks g') (h' : g'.Marks g'') : g.Marks g'' := by
  rcases h' with hall' | ⟨hrows', hslots', hview'⟩
  · exact .inl hall'
  · rcases h with hall | ⟨hrows, hslots, hview⟩
    · refine .inl fun r hr => ?_
      cases hd : r.dirty with
      | true => rfl
      | false =>
        obtain ⟨i, hi⟩ := List.mem_iff_getElem?.1 hr
        have before := Marks.displayed (.inr ⟨hrows', hslots', hview'⟩) hi hd
        exact hd ▸ hall r (List.mem_of_getElem? before)
    · exact .inr ⟨hrows'.trans hrows, hslots.trans hslots', hview'.trans hview⟩

end Grid

end Teletype
