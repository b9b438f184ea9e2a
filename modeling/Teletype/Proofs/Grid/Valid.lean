import Mathlib.Tactic.Common
import Teletype.Grid.Edit
import Teletype.Grid.Scroll
import Teletype.Grid.View
import Teletype.Proofs.Row.Valid

/-!
# Valid grids

What every grid of a terminal keeps to: each row of the ring is valid, the ring is big enough for
the screen and the scrollback, the view lies on lines that exist, and the region and the cursor lie
on the screen. No edit, no scrolling and no movement of the view breaks this.
-/

namespace Teletype

/-- A ring of rows has the size that its screen asks for. -/
def ScreenKind.HasCapacity (rows capacity : Nat) : ScreenKind → Prop
  | .primary => capacity.isPowerOfTwo
  | .alternate => capacity = rows

namespace Grid

/-- The grid of a screen with the given size. -/
structure Valid (kind : ScreenKind) (cols rows : Nat) (g : Grid) : Prop where
  kind_eq : g.kind = kind
  cols_eq : g.cols = cols
  rows_eq : g.rows = rows
  cols_pos : 0 < cols
  rows_pos : 0 < rows
  row : ∀ r ∈ g.slots, r.Valid cols
  capacity : kind.HasCapacity rows g.capacity
  room : g.history + rows ≤ g.capacity
  offset_lt : g.offset < g.capacity
  view_lt : g.view < g.capacity
  view_le : g.viewDistance ≤ g.history
  region_lt : g.region.top < g.region.bottom
  region_le : g.region.bottom ≤ rows
  cursor_row : g.cursor.row < rows
  cursor_col : g.cursor.col < cols
  pending : g.cursor.pendingWrap = true → g.cursor.col + 1 = cols
  /-- The saved cursor may lie beyond the screen, but what it pends it pends at the last column. -/
  saved_pending : g.saved.cursor.pendingWrap = true → g.saved.cursor.col + 1 = cols

theorem isPowerOfTwo_nextPowerOfTwo (n : Nat) : (nextPowerOfTwo n).isPowerOfTwo := by
  unfold nextPowerOfTwo
  split
  · exact Nat.isPowerOfTwo_one
  · exact ⟨_, rfl⟩

theorem hasCapacity_capacityFor (kind : ScreenKind) (rows scrollback : Nat) :
    kind.HasCapacity rows (capacityFor kind rows scrollback) := by
  cases kind with
  | primary => exact isPowerOfTwo_nextPowerOfTwo _
  | alternate => rfl

theorem le_nextPowerOfTwo (n : Nat) : n ≤ nextPowerOfTwo n := by
  unfold nextPowerOfTwo
  split
  · assumption
  · have : n - 1 < Nat.pow 2 ((n - 1).log2 + 1) := Nat.lt_log2_self
    omega

theorem le_capacityFor (kind : ScreenKind) (rows scrollback : Nat) :
    rows ≤ capacityFor kind rows scrollback := by
  cases kind with
  | primary => exact Nat.le_trans (Nat.le_add_left _ _) (le_nextPowerOfTwo _)
  | alternate => exact Nat.le_refl _

/-- Counting on past the end of the ring starts again at its first slot. -/
theorem mod_of_lt_add {n capacity : Nat} (h : n < capacity + capacity) :
    n % capacity = if n < capacity then n else n - capacity := by
  split
  · exact Nat.mod_eq_of_lt ‹_›
  · rw [Nat.mod_eq_sub_mod (by omega), Nat.mod_eq_of_lt (by omega)]

/-- Going back `m` slots from a slot puts `m` more slots between it and a later one. -/
theorem distance_back {capacity offset view m : Nat} (ho : offset < capacity) (hv : view < capacity)
    (hm : (offset + capacity - view) % capacity + m < capacity) :
    (offset + capacity - (view + capacity - m) % capacity) % capacity =
      (offset + capacity - view) % capacity + m := by
  rw [mod_of_lt_add (by omega)] at hm
  rw [mod_of_lt_add (n := offset + capacity - view) (by omega), mod_of_lt_add
    (n := view + capacity - m) (by omega)]
  split at hm <;> split <;> rw [mod_of_lt_add (by omega)] <;> split <;> omega

/-- Going `m` slots nearer leaves `m` slots less. -/
theorem distance_nearer {capacity offset view m : Nat} (ho : offset < capacity)
    (hv : view < capacity) (hm : m ≤ (offset + capacity - view) % capacity) :
    (offset + capacity - (view + m) % capacity) % capacity =
      (offset + capacity - view) % capacity - m := by
  rw [mod_of_lt_add (by omega)] at hm
  rw [mod_of_lt_add (n := offset + capacity - view) (by omega)]
  split at hm
  · rw [mod_of_lt_add (n := view + m) (by omega)]
    split <;> rw [mod_of_lt_add (by omega)] <;> split <;> omega
  · rw [mod_of_lt_add (n := view + m) (by omega)]
    split <;> rw [mod_of_lt_add (by omega)] <;> split <;> omega

theorem viewDistance_of_eq {g : Grid} (h : g.view = g.offset) : g.viewDistance = 0 := by
  simp [viewDistance, h]

theorem valid_new (kind : ScreenKind) (cols rows scrollback : Nat) :
    Valid kind (max cols 1) (max rows 1) (new kind cols rows scrollback) := by
  have size : (new kind cols rows scrollback).capacity =
      capacityFor kind (max rows 1) scrollback := by
    simp [new, capacity]
  have le := le_capacityFor kind (max rows 1) scrollback
  have pos : 0 < max cols 1 ∧ 0 < max rows 1 := by omega
  constructor
  case row =>
    intro r hr
    simp only [new, Array.mem_map] at hr
    obtain ⟨seq, -, rfl⟩ := hr
    exact Row.valid_blank _ _ _
  case capacity => exact size ▸ hasCapacity_capacityFor _ _ _
  case view_le =>
    rw [viewDistance_of_eq rfl]
    exact Nat.zero_le _
  case room =>
    rw [size]
    simpa [new] using le
  case offset_lt | view_lt =>
    rw [size]
    simp only [new]
    omega
  case pending | saved_pending => simp [new]
  case kind_eq | cols_eq | rows_eq => rfl
  case cols_pos | rows_pos => omega
  case region_lt | region_le | cursor_row | cursor_col =>
    simp only [new, Region.full]
    omega

section

variable {kind : ScreenKind} {cols rows : Nat} {g : Grid}

/-- A grid stays valid when its slots become other valid rows. -/
theorem Valid.of_slots (h : Valid kind cols rows g) {slots : Array Row} (nextSeq : Nat)
    (hsize : slots.size = g.slots.size) (hrow : ∀ r ∈ slots, r.Valid cols) :
    Valid kind cols rows { g with slots := slots, nextSeq := nextSeq } := by
  have size : ({ g with slots := slots, nextSeq := nextSeq } : Grid).capacity = g.capacity := hsize
  exact { h with
    row := hrow
    capacity := size ▸ h.capacity
    room := size ▸ h.room
    offset_lt := size ▸ h.offset_lt
    view_lt := size ▸ h.view_lt
    view_le := by
      rw [viewDistance, size]
      exact h.view_le }

/-- Changes of the rows of the ring, one after the other. -/
theorem Valid.foldl_slots {α : Type} {f : Array Row → α → Array Row}
    (h : Valid kind cols rows g) (l : List α) (nextSeq : Nat)
    (hf : ∀ slots, ∀ a ∈ l, (∀ r ∈ slots, Row.Valid cols r) →
      (f slots a).size = slots.size ∧ ∀ r ∈ f slots a, r.Valid cols) :
    Valid kind cols rows { g with slots := l.foldl f g.slots, nextSeq := nextSeq } := by
  have slots : ∀ slots : Array Row, slots.size = g.slots.size → (∀ r ∈ slots, r.Valid cols) →
      (l.foldl f slots).size = g.slots.size ∧ ∀ r ∈ l.foldl f slots, r.Valid cols := by
    clear h
    induction l with
    | nil => exact fun _ hs hr => ⟨hs, hr⟩
    | cons a l ih =>
      intro slots hs hr
      obtain ⟨hs', hr'⟩ := hf slots a List.mem_cons_self hr
      exact ih (fun slots a ha => hf slots a (List.mem_cons_of_mem _ ha)) _ (hs'.trans hs) hr'
  obtain ⟨hs, hr⟩ := slots g.slots rfl h.row
  exact h.of_slots nextSeq hs hr

/-- A change of one row of the screen, given what is known of this row. -/
theorem Valid.modifyRow_of (h : Valid kind cols rows g) (row : Nat) {f : Row → Row}
    (hf : ∀ r, g.row? row = some r → r.Valid cols → (f { r with dirty := true }).Valid cols) :
    Valid kind cols rows (g.modifyRow row f) := by
  unfold Grid.modifyRow
  split
  · rename_i hrow
    refine h.of_slots g.nextSeq (Array.size_modify ..) (forall_mem_modify h.row fun r hr => ?_)
    exact hf r (by rw [row?, if_pos hrow, hr]) (h.row r (Array.mem_of_getElem? hr))
  · exact h

theorem Valid.modifyRow (h : Valid kind cols rows g) (row : Nat) {f : Row → Row}
    (hf : ∀ r, r.Valid cols → (f r).Valid cols) :
    Valid kind cols rows (g.modifyRow row f) :=
  h.modifyRow_of row fun _ _ hr => hf _ (hr.of_cells rfl)

theorem Valid.map_slots (h : Valid kind cols rows g) {f : Row → Row}
    (hf : ∀ r, (f r).cells = r.cells) :
    Valid kind cols rows { g with slots := g.slots.map f } := by
  refine h.of_slots g.nextSeq (Array.size_map ..) fun r hr => ?_
  obtain ⟨r', hr', rfl⟩ := Array.mem_map.1 hr
  exact (h.row r' hr').of_cells (hf r')

theorem Valid.markAllDirty (h : Valid kind cols rows g) : Valid kind cols rows g.markAllDirty :=
  h.map_slots fun _ => rfl

theorem Valid.clearDirty (h : Valid kind cols rows g) : Valid kind cols rows g.clearDirty :=
  h.map_slots fun _ => rfl

/-- A grid stays valid when the cursor is moved on the screen. -/
theorem Valid.of_cursor (h : Valid kind cols rows g) {cursor : Cursor} (hrow : cursor.row < rows)
    (hcol : cursor.col < cols) (hpending : cursor.pendingWrap = true → cursor.col + 1 = cols) :
    Valid kind cols rows { g with cursor := cursor } :=
  { h with cursor_row := hrow, cursor_col := hcol, pending := hpending }

theorem Valid.setCursor (h : Valid kind cols rows g) (row col : Nat) :
    Valid kind cols rows (g.setCursor row col) := by
  have := h.rows_pos
  have := h.cols_pos
  have := h.rows_eq
  have := h.cols_eq
  refine h.of_cursor ?_ ?_ ?_
  · dsimp only
    omega
  · dsimp only
    omega
  · exact fun hp => absurd hp (by simp)

theorem Valid.clearPending (h : Valid kind cols rows g) : Valid kind cols rows g.clearPending :=
  h.of_cursor h.cursor_row h.cursor_col fun hp => absurd hp (by simp)

theorem Valid.setRegion (h : Valid kind cols rows g) (top bottom : Nat) :
    Valid kind cols rows (g.setRegion top bottom) := by
  have := h.rows_eq
  unfold Grid.setRegion
  dsimp only
  split
  · exact { h with region_lt := ‹_›, region_le := by dsimp only; omega }
  · exact h

/-- Edits that keep a grid valid do so one after the other. -/
theorem Valid.foldl {α : Type} {f : Grid → α → Grid} (h : Valid kind cols rows g)
    (hf : ∀ g a, Valid kind cols rows g → Valid kind cols rows (f g a)) (l : List α) :
    Valid kind cols rows (l.foldl f g) :=
  List.foldlRecOn l f h fun u hu a _ => hf u a hu

end

end Grid

end Teletype
