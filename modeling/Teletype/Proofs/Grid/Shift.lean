import Mathlib.Tactic.Common
import Teletype.Proofs.Grid.Ring
import Teletype.Proofs.Row.Valid

/-!
# Rows that move within the screen

Rows are moved by swaps, one pair after the other. What every swap keeps, and every row that is
started anew or marked, the whole move keeps. Where the ring has room for the screen a move is also
said of lists: rows are taken out at one end of the list and blank ones added at the other.
-/

namespace Teletype

/-- Elements that are changed one after the other. -/
theorem getElem?_foldl_modify {α : Type} (f : Nat → α → α) (first n i : Nat) (xs : List α) :
    ((List.range' first n).foldl (fun xs j => xs.modify j (f j)) xs)[i]? =
      if first ≤ i ∧ i < first + n then (xs[i]?).map (f i) else xs[i]? := by
  induction n with
  | zero => rw [if_neg (by omega)]; rfl
  | succ n ih =>
    rw [List.range'_1_concat, List.foldl_append, List.foldl_cons, List.foldl_nil,
      List.getElem?_modify, ih]
    rcases eq_or_ne (first + n) i with rfl | hne
    · simp
    · simp only [hne, if_false, Option.map_eq_map, Option.map_id']
      exact if_congr (by omega) rfl rfl

theorem getElem?_swapIfInBounds {α : Type} {xs : Array α} {a b : Nat} (ha : a < xs.size)
    (hb : b < xs.size) (i : Nat) : (xs.swapIfInBounds a b)[i]? =
      if i = a then xs[b]? else if i = b then xs[a]? else xs[i]? := by
  rw [Array.swapIfInBounds, dif_pos ha, dif_pos hb, Array.getElem?_swap,
    Array.getElem?_eq_getElem ha, Array.getElem?_eq_getElem hb]
  rcases eq_or_ne i a with rfl | hia
  · rcases eq_or_ne i b with rfl | hib
    · simp
    · simp [hib.symm]
  · simp [hia, hia.symm, eq_comm (a := b)]

namespace Grid

/-! ## What a move keeps -/

/-- A condition that is kept by all that a move does to the rows from `top` up to but not including
`bottom`. -/
structure KeptBetween (P : Grid → Prop) (top bottom : Nat) (background : Color) : Prop where
  swap : ∀ {g : Grid} {a b : Nat}, top ≤ a ∧ a < bottom → top ≤ b ∧ b < bottom → P g →
    P (g.swapRows a b)
  reset : ∀ {g : Grid} {row : Nat}, top ≤ row ∧ row < bottom → P g → P (g.resetRow background row)
  mark : ∀ {g : Grid} {row : Nat}, top ≤ row ∧ row < bottom → P g → P (g.markRow row)

section

variable {P : Grid → Prop} {g : Grid} {top bottom : Nat} {background : Color}
  (h : KeptBetween P top bottom background)

include h

/-- A condition that a move between two rows keeps is kept by a move between nearer ones. -/
theorem KeptBetween.mono {first last : Nat} (hfirst : top ≤ first) (hlast : last ≤ bottom) :
    KeptBetween P first last background where
  swap ha hb hg := h.swap (by omega) (by omega) hg
  reset hrow hg := h.reset (by omega) hg
  mark hrow hg := h.mark (by omega) hg

theorem KeptBetween.swapUp (hg : P g) (n : Nat) : P (g.swapUp top bottom n) := by
  refine List.foldlRecOn (motive := P) _ _ hg fun u hu row hrow => ?_
  have := List.mem_range'_1.1 hrow
  exact h.swap (by omega) (by omega) hu

theorem KeptBetween.swapDown (hg : P g) (n : Nat) : P (g.swapDown top bottom n) := by
  refine List.foldlRecOn (motive := P) _ _ hg fun u hu row hrow => ?_
  have := List.mem_range'_1.1 (List.mem_reverse.1 hrow)
  exact h.swap (by omega) (by omega) hu

theorem KeptBetween.resetRows (hg : P g) {first n : Nat} (hfirst : top ≤ first)
    (hn : first + n ≤ bottom) : P (g.resetRows first n background) := by
  refine List.foldlRecOn (motive := P) _ _ hg fun u hu row hrow => ?_
  have := List.mem_range'_1.1 hrow
  exact h.reset (by omega) hu

theorem KeptBetween.markRows (hg : P g) : P (g.markRows top bottom) := by
  refine List.foldlRecOn (motive := P) _ _ hg fun u hu row hrow => ?_
  have := List.mem_range'_1.1 hrow
  exact h.mark (by omega) hu

end

section

variable {P : Grid → Prop} {g : Grid} {top bottom : Nat} {background : Color}
  (h : KeptBetween P top (min bottom g.rows) background) (hg : P g) (n : Nat)

include h hg

theorem KeptBetween.shiftUp : P (g.shiftUp top bottom n background) := by
  unfold Grid.shiftUp
  dsimp only
  split
  · exact hg
  · exact h.markRows (h.resetRows (h.swapUp hg _) (by omega) (by omega))

theorem KeptBetween.shiftDown : P (g.shiftDown top bottom n background) := by
  unfold Grid.shiftDown
  dsimp only
  split
  · exact hg
  · exact h.markRows (h.resetRows (h.swapDown hg _) (Nat.le_refl _) (by omega))

end

/-- A grid that differs from another one only in the rows of the ring and in the number of the next
row. -/
def Refills (g g' : Grid) : Prop := g' = { g with slots := g'.slots, nextSeq := g'.nextSeq }

theorem refills_refl (g : Grid) : g.Refills g := rfl

/-- What reads neither the rows nor their numbers reads the same. -/
theorem Refills.congr {g g' : Grid} {α : Type} (h : g.Refills g') (f : Grid → α)
    (hf : ∀ slots nextSeq, f { g with slots := slots, nextSeq := nextSeq } = f g) : f g' = f g := by
  rw [h]
  exact hf ..

theorem keptBetween_refills (g : Grid) (top bottom : Nat) (background : Color) :
    KeptBetween g.Refills top bottom background where
  swap _ _ h := by rw [h]; rfl
  reset _ h := by rw [h]; rfl
  mark _ h := by rw [h]; rfl

variable {g : Grid}

/-- A move changes nothing but rows and the number of the next one. -/
theorem refills_shiftUp (g : Grid) (top bottom n : Nat) (background : Color) :
    g.Refills (g.shiftUp top bottom n background) :=
  (keptBetween_refills g _ _ background).shiftUp g.refills_refl n

theorem refills_shiftDown (g : Grid) (top bottom n : Nat) (background : Color) :
    g.Refills (g.shiftDown top bottom n background) :=
  (keptBetween_refills g _ _ background).shiftDown g.refills_refl n

/-! ## Rows as a list -/

/-- `n` blank rows with the numbers that come next. -/
def freshRows (g : Grid) (n : Nat) (background : Color) : List Row :=
  (List.range n).map fun i => Row.blank g.cols background (g.nextSeq + i)

/-- The rows of the screen from `top` up to but not including `bottom`. -/
def rowsBetween (g : Grid) (top bottom : Nat) : List Row :=
  (List.range' top (bottom - top)).filterMap g.row?

/-- Puts rows on the screen from `top` on, marked. -/
def putRows (g : Grid) (top : Nat) (rows : List Row) : Grid :=
  let first := g.offset + top
  let put (slots : Array Row) (entry : Row × Nat) : Array Row :=
    slots.setIfInBounds ((first + entry.2) % slots.size) { entry.1 with dirty := true }
  { g with slots := rows.zipIdx.foldl put g.slots }

/-- `n` of the rows between `top` and `bottom` are taken out at `top`, and as many blank ones added
before `bottom`. -/
def liftRows (g : Grid) (top bottom n : Nat) (background : Color) : Grid :=
  { g.putRows top ((g.rowsBetween top bottom).drop n ++ g.freshRows n background) with
    nextSeq := g.nextSeq + n }

/-- `n` blank rows are added at `top`, and as many of those between `top` and `bottom` taken out
before `bottom`. -/
def lowerRows (g : Grid) (top bottom n : Nat) (background : Color) : Grid :=
  { g.putRows top
      (g.freshRows n background ++ (g.rowsBetween top bottom).take (bottom - top - n)) with
    nextSeq := g.nextSeq + n }

/-- The rows of the screen between two of them are a part of the ring. -/
theorem rowsBetween_eq (hroom : g.rows ≤ g.capacity) (top : Nat) {bottom : Nat}
    (h : bottom ≤ g.rows) :
    g.rowsBetween top bottom = (g.ring.take bottom).drop top := by
  have inside : ∀ i ∈ List.range (bottom - top), g.row? (top + i) = g.ring[top + i]? := by
    intro i hi
    have lt := List.mem_range.1 hi
    exact row?_eq hroom (by omega)
  rw [rowsBetween, List.range'_eq_map_range, List.filterMap_map, List.drop_take,
    ← filterMap_getElem?]
  exact List.filterMap_congr inside

/-- Rows put on the screen replace those that were there. -/
theorem ring_putRows {top : Nat} {rows : List Row} (h : top + rows.length ≤ g.capacity) :
    (g.putRows top rows).ring = g.ring.take top ++
      rows.map (fun r => { r with dirty := true }) ++ g.ring.drop (top + rows.length) := by
  have loop :=
    foldl_set (fun r : Row => { r with dirty := true }) rows top 0 g.ring (by simpa using h)
  rw [Nat.add_zero] at loop
  rw [← loop]
  refine (rotate_foldl rows.zipIdx g.slots rfl fun slots e he hsize => ?_).2
  have he' : e.2 < rows.length := by
    have := List.snd_lt_of_mem_zipIdx he
    omega
  have lt : top + e.2 < slots.size := by
    unfold capacity at h
    omega
  refine ⟨(Array.size_setIfInBounds ..).trans hsize, ?_⟩
  rw [Array.toList_setIfInBounds, List.set_eq_modify, List.set_eq_modify, Nat.add_assoc,
    ← Array.toList_modify]
  exact rotate_modify_slots slots g.offset lt _

/-! ## The rows after each loop -/

theorem slotOf_inj {a b : Nat} (ha : a < g.capacity) (hb : b < g.capacity) :
    g.slotOf a = g.slotOf b ↔ a = b := by
  refine ⟨fun h => ?_, fun h => h ▸ rfl⟩
  have h : g.offset + a ≡ g.offset + b [MOD g.capacity] := h
  exact (Nat.ModEq.add_left_cancel' _ h).eq_of_lt_of_lt ha hb

theorem slotOf_lt (h : 0 < g.capacity) (row : Nat) : g.slotOf row < g.slots.size := Nat.mod_lt _ h

theorem capacity_foldl {α : Type} {f : Grid → α → Grid} (hf : ∀ g a, (f g a).capacity = g.capacity)
    (l : List α) (g : Grid) : (l.foldl f g).capacity = g.capacity :=
  List.foldlRecOn (motive := fun u : Grid => u.capacity = g.capacity) l f rfl
    fun u hu a _ => (hf u a).trans hu

@[simp] theorem capacity_swapRows (g : Grid) (a b : Nat) : (g.swapRows a b).capacity = g.capacity :=
  Array.size_swapIfInBounds

@[simp] theorem capacity_resetRow (background : Color) (g : Grid) (row : Nat) :
    (g.resetRow background row).capacity = g.capacity := Array.size_modify

@[simp] theorem capacity_markRow (g : Grid) (row : Nat) : (g.markRow row).capacity = g.capacity :=
  Array.size_modify

/-- A swap changes two rows of the ring. -/
theorem getElem?_ring_swapRows {a b i : Nat} (ha : a < g.capacity) (hb : b < g.capacity) :
    (g.swapRows a b).ring[i]? =
      if i = a then g.ring[b]? else if i = b then g.ring[a]? else g.ring[i]? := by
  by_cases hi : i < g.capacity
  · have hpos : 0 < g.capacity := Nat.lt_of_le_of_lt (Nat.zero_le _) ha
    rw [getElem?_ring _ (by simpa using hi), capacity_swapRows, getElem?_ring g hi,
      getElem?_ring g ha, getElem?_ring g hb]
    show (g.slots.swapIfInBounds _ _)[g.slotOf i]? = _
    rw [getElem?_swapIfInBounds (slotOf_lt hpos a) (slotOf_lt hpos b)]
    simp only [slotOf_inj hi ha, slotOf_inj hi hb]
    rfl
  · have none (g' : Grid) (h : g'.capacity = g.capacity) : g'.ring[i]? = none :=
      List.getElem?_eq_none (by rw [length_ring, h]; omega)
    rw [none _ (g.capacity_swapRows a b), none g rfl, if_neg (by omega), if_neg (by omega)]

/-- A swap loses no row. -/
theorem perm_swapRows (g : Grid) (a b : Nat) :
    (g.swapRows a b).slots.toList.Perm g.slots.toList := by
  show (g.slots.swapIfInBounds _ _).toList.Perm _
  unfold Array.swapIfInBounds
  split
  · split
    · exact (Array.swap_perm _ _).toList
    · exact .refl _
  · exact .refl _

theorem mem_swapRows (g : Grid) (a b : Nat) {r : Row} :
    r ∈ (g.swapRows a b).slots ↔ r ∈ g.slots := by
  rw [← Array.mem_toList_iff, (g.perm_swapRows a b).mem_iff, Array.mem_toList_iff]

theorem ring_resetRow {row : Nat} (h : row < g.capacity) (background : Color) :
    (g.resetRow background row).ring = g.ring.modify row (·.reset background g.nextSeq) :=
  rotate_modify_slots g.slots g.offset h _

theorem ring_markRow {row : Nat} (h : row < g.capacity) :
    (g.markRow row).ring = g.ring.modify row fun r => { r with dirty := true } :=
  rotate_modify_slots g.slots g.offset h _

/-- After `k` swaps upwards from `top` on, `k` rows have come up by `n`, and the rows from the next
one to be swapped on are as they were. -/
theorem getElem?_ring_swapUp {top n k i : Nat} (h : top + k + n ≤ g.capacity)
    (hi : i < top + k ∨ top + k + n ≤ i) :
    ((List.range' top k).foldl (fun g row => g.swapRows row (row + n)) g).ring[i]? =
      if top ≤ i ∧ i < top + k then g.ring[i + n]? else g.ring[i]? := by
  induction k generalizing i with
  | zero => rw [if_neg (by omega)]; rfl
  | succ k ih =>
    have kept := capacity_foldl (f := fun g row => g.swapRows row (row + n))
      (fun g row => g.capacity_swapRows row _) (List.range' top k) g
    rw [List.range'_1_concat, List.foldl_append, List.foldl_cons, List.foldl_nil,
      getElem?_ring_swapRows (by rw [kept]; omega) (by rw [kept]; omega)]
    rcases eq_or_ne i (top + k) with rfl | hne
    · rw [if_pos rfl, ih (by omega) (by omega), if_neg (by omega), if_pos (by omega)]
    · rw [if_neg hne, if_neg (by omega), ih (by omega) (by omega)]
      exact if_congr (by omega) rfl rfl

/-- After `k` swaps downwards, the last one of row `first`, `k` rows have come down by `n`, and the
rows from the next one to be swapped on are as they were. -/
theorem getElem?_ring_swapDown {first n k i : Nat} (hn : n ≤ first) (h : first + k ≤ g.capacity)
    (hi : first ≤ i ∨ i + n < first) :
    ((List.range' first k).reverse.foldl (fun g row => g.swapRows row (row - n)) g).ring[i]? =
      if first ≤ i ∧ i < first + k then g.ring[i - n]? else g.ring[i]? := by
  induction k generalizing first i with
  | zero => rw [if_neg (by omega)]; rfl
  | succ k ih =>
    have kept := capacity_foldl (f := fun g row => g.swapRows row (row - n))
      (fun g row => g.capacity_swapRows row _) (List.range' (first + 1) k).reverse g
    rw [List.range'_succ, List.reverse_cons, List.foldl_append, List.foldl_cons, List.foldl_nil,
      getElem?_ring_swapRows (by rw [kept]; omega) (by rw [kept]; omega)]
    rcases eq_or_ne i first with rfl | hne
    · rw [if_pos rfl, ih (by omega) (by omega) (by omega), if_neg (by omega), if_pos (by omega)]
    · rw [if_neg hne, if_neg (by omega), ih (by omega) (by omega) (by omega)]
      exact if_congr (by omega) rfl rfl

theorem nextSeq_resetRows (g : Grid) (first n : Nat) (background : Color) :
    (g.resetRows first n background).nextSeq = g.nextSeq + n := by
  unfold resetRows
  induction n with
  | zero => rfl
  | succ n ih =>
    rw [List.range'_1_concat, List.foldl_append, List.foldl_cons, List.foldl_nil]
    exact congrArg (· + 1) ih

theorem capacity_resetRows (g : Grid) (first n : Nat) (background : Color) :
    (g.resetRows first n background).capacity = g.capacity :=
  capacity_foldl (capacity_resetRow background) _ g

/-- The rows that are started anew get the next numbers, one after the other. -/
theorem ring_resetRows {first n : Nat} (h : first + n ≤ g.capacity) (background : Color) :
    (g.resetRows first n background).ring = (List.range' first n).foldl
      (fun rows i => rows.modify i (·.reset background (g.nextSeq + (i - first)))) g.ring := by
  induction n with
  | zero => rfl
  | succ n ih =>
    have step : g.resetRows first (n + 1) background =
        (g.resetRows first n background).resetRow background (first + n) := by
      rw [resetRows, List.range'_1_concat, List.foldl_append]
      rfl
    rw [step, ring_resetRow (by rw [capacity_resetRows]; omega), ih (by omega), nextSeq_resetRows,
      List.range'_1_concat, List.foldl_append, List.foldl_cons, List.foldl_nil,
      Nat.add_sub_cancel_left]

theorem ring_foldl_markRow (l : List Nat) (h : ∀ row ∈ l, row < g.capacity) :
    (l.foldl markRow g).ring =
      l.foldl (fun rows i => rows.modify i fun r => { r with dirty := true }) g.ring := by
  induction l generalizing g with
  | nil => rfl
  | cons row l ih =>
    rw [List.foldl_cons, List.foldl_cons, ← ring_markRow (h row List.mem_cons_self)]
    refine ih fun i hi => ?_
    rw [capacity_markRow]
    exact h i (List.mem_cons_of_mem _ hi)

/-- A move keeps the width of rows. -/
theorem keptBetween_width (cols top bottom : Nat) (background : Color) :
    KeptBetween (fun g => ∀ r ∈ g.slots, r.cells.size = cols) top bottom background where
  swap _ _ h r hr := h r ((mem_swapRows ..).1 hr)
  reset _ h := forall_mem_modify (f := (·.reset background _)) h fun r hr =>
    Array.size_replicate.trans (h r (Array.mem_of_getElem? hr))
  mark _ h := forall_mem_modify (f := fun r => { r with dirty := true }) h fun r hr =>
    h r (Array.mem_of_getElem? hr)

theorem nextSeq_swaps (f : Nat → Nat) (l : List Nat) (g : Grid) :
    (l.foldl (fun g row => g.swapRows row (f row)) g).nextSeq = g.nextSeq :=
  List.foldlRecOn (motive := fun u : Grid => u.nextSeq = g.nextSeq) l _ rfl fun _ hu _ _ => hu

theorem capacity_swaps (f : Nat → Nat) (l : List Nat) (g : Grid) :
    (l.foldl (fun g row => g.swapRows row (f row)) g).capacity = g.capacity :=
  capacity_foldl (fun g row => g.capacity_swapRows row _) l g

theorem length_freshRows (n : Nat) (background : Color) :
    (g.freshRows n background).length = n := by
  rw [freshRows, List.length_map, List.length_range]

/-- What starting rows anew and marking rows makes of a row. -/
theorem getElem?_ring_reset_mark {top bottom first n : Nat} (hn : first + n ≤ g.capacity)
    (hbottom : bottom ≤ g.capacity) (background : Color) (i : Nat) :
    ((g.resetRows first n background).markRows top bottom).ring[i]? =
      let row := if first ≤ i ∧ i < first + n then
        (g.ring[i]?).map (·.reset background (g.nextSeq + (i - first))) else g.ring[i]?
      if top ≤ i ∧ i < bottom then row.map fun r => { r with dirty := true } else row := by
  have marked := ring_foldl_markRow (g := g.resetRows first n background)
    (List.range' top (bottom - top)) fun row hrow => by
      have := List.mem_range'_1.1 hrow
      rw [capacity_resetRows]
      omega
  rw [markRows, marked, getElem?_foldl_modify, ring_resetRows hn, getElem?_foldl_modify]
  exact if_congr (by omega) rfl rfl

/-- An element of a list in which some are replaced. -/
theorem getElem?_replace {α : Type} {xs new : List α} {top : Nat} (h : top + new.length ≤ xs.length)
    (i : Nat) :
    (xs.take top ++ new ++ xs.drop (top + new.length))[i]? =
      if top ≤ i ∧ i < top + new.length then new[i - top]? else xs[i]? := by
  have length : (xs.take top).length = top := by
    rw [List.length_take]
    omega
  rw [List.getElem?_append, List.getElem?_append, List.length_append, length]
  split
  · split
    · rw [if_neg (by omega), List.getElem?_take_of_lt ‹_›]
    · rw [if_pos (by omega)]
  · rw [if_neg (by omega), List.getElem?_drop]
    congr 1
    omega

/-! ## The loops and the list -/

theorem getElem?_ring_putRows {top bottom : Nat} {rows : List Row}
    (hrows : top + rows.length = bottom) (h : bottom ≤ g.capacity) (i : Nat) :
    (g.putRows top rows).ring[i]? =
      if top ≤ i ∧ i < bottom then (rows[i - top]?).map fun r => { r with dirty := true }
      else g.ring[i]? := by
  have length : (rows.map fun r => { r with dirty := true }).length = rows.length :=
    List.length_map _
  rw [ring_putRows (hrows ▸ h), ← length, getElem?_replace (by rw [length, length_ring]; omega),
    length, hrows, List.getElem?_map]

theorem length_rowsBetween (hroom : g.rows ≤ g.capacity) (top : Nat) {bottom : Nat}
    (hbottom : bottom ≤ g.rows) : (g.rowsBetween top bottom).length = bottom - top := by
  rw [rowsBetween_eq hroom top hbottom, List.length_drop, List.length_take, length_ring]
  omega

theorem getElem?_rowsBetween (hroom : g.rows ≤ g.capacity) {top bottom i : Nat}
    (hbottom : bottom ≤ g.rows) (hi : top + i < bottom) :
    (g.rowsBetween top bottom)[i]? = g.ring[top + i]? := by
  rw [rowsBetween_eq hroom top hbottom, List.getElem?_drop, List.getElem?_take_of_lt hi]

theorem getElem?_freshRows {n i : Nat} (h : i < n) (background : Color) :
    (g.freshRows n background)[i]? = some (Row.blank g.cols background (g.nextSeq + i)) := by
  rw [freshRows, List.getElem?_map, List.getElem?_range h]
  rfl

/-- A row that is started anew is blank from end to end. -/
theorem map_reset_ring {cols : Nat} (h : ∀ r ∈ g.slots, r.cells.size = cols) {i : Nat}
    (hi : i < g.capacity) (background : Color) (seq : Nat) :
    (g.ring[i]?).map (·.reset background seq) = some (Row.blank cols background seq) := by
  have lt : i < g.ring.length := by rwa [length_ring]
  rw [List.getElem?_eq_getElem lt, Option.map_some, Row.reset,
    h _ (g.mem_ring.1 (List.getElem_mem lt))]

/-- Grids that differ in no more than the ring are the same if their rings are. -/
theorem Refills.ext {g' g'' : Grid} (h' : g.Refills g') (h'' : g.Refills g'')
    (hring : g'.ring = g''.ring) (hseq : g'.nextSeq = g''.nextSeq) : g' = g'' := by
  have offset' : g'.offset = g.offset := by rw [h']
  have offset'' : g''.offset = g.offset := by rw [h'']
  rw [ring, ring, offset', offset''] at hring
  have slots : g'.slots = g''.slots := Array.toList_inj.1 (List.rotate_injective _ hring)
  rw [h', h'', slots, hseq]

theorem nextSeq_markRows (g : Grid) (top bottom : Nat) :
    (g.markRows top bottom).nextSeq = g.nextSeq :=
  List.foldlRecOn (motive := fun u : Grid => u.nextSeq = g.nextSeq) _ _ rfl fun _ hu _ _ => hu

section

variable (hroom : g.rows ≤ g.capacity) {top bottom n : Nat} (htop : top < bottom)
  (hbottom : bottom ≤ g.rows) (hn : n ≤ bottom - top) (background : Color)

include hroom htop hbottom hn

/-- Where the rows of the screen come from when some are taken out at `top`. -/
theorem getElem?_ring_liftRows (i : Nat) :
    (g.liftRows top bottom n background).ring[i]? =
      if top ≤ i ∧ i < bottom then
        if i < bottom - n then (g.ring[i + n]?).map fun r => { r with dirty := true }
        else some (Row.blank g.cols background (g.nextSeq + (i - (bottom - n))))
      else g.ring[i]? := by
  have between := length_rowsBetween (g := g) hroom top hbottom
  have left : ((g.rowsBetween top bottom).drop n).length = bottom - n - top := by
    rw [List.length_drop, between]
    omega
  have length : top + ((g.rowsBetween top bottom).drop n ++ g.freshRows n background).length =
      bottom := by
    rw [List.length_append, length_freshRows, left]
    omega
  show (g.putRows top _).ring[i]? = _
  rw [getElem?_ring_putRows length (by omega), List.getElem?_append, left]
  refine if_ctx_congr Iff.rfl (fun inside => ?_) fun _ => rfl
  by_cases moved : i < bottom - n
  · rw [if_pos (by omega), if_pos moved, List.getElem?_drop,
      getElem?_rowsBetween hroom hbottom (by omega)]
    congr 2
    omega
  · have number : i - top - (bottom - n - top) = i - (bottom - n) := by omega
    rw [if_neg (by omega), if_neg moved, getElem?_freshRows (by omega), number]
    rfl

/-- Where the rows of the screen come from when some are taken out before `bottom`. -/
theorem getElem?_ring_lowerRows (i : Nat) :
    (g.lowerRows top bottom n background).ring[i]? =
      if top ≤ i ∧ i < bottom then
        if top + n ≤ i then (g.ring[i - n]?).map fun r => { r with dirty := true }
        else some (Row.blank g.cols background (g.nextSeq + (i - top)))
      else g.ring[i]? := by
  have between := length_rowsBetween (g := g) hroom top hbottom
  have fresh := length_freshRows (g := g) n background
  have length : top + (g.freshRows n background ++
      (g.rowsBetween top bottom).take (bottom - top - n)).length = bottom := by
    rw [List.length_append, fresh, List.length_take, between]
    omega
  show (g.putRows top _).ring[i]? = _
  rw [getElem?_ring_putRows length (by omega), List.getElem?_append, fresh]
  refine if_ctx_congr Iff.rfl (fun inside => ?_) fun _ => rfl
  by_cases moved : top + n ≤ i
  · rw [if_neg (by omega), if_pos moved, List.getElem?_take_of_lt (by omega),
      getElem?_rowsBetween hroom hbottom (by omega)]
    congr 2
    omega
  · rw [if_pos (by omega), if_neg moved, getElem?_freshRows (by omega)]
    rfl

end

@[simp] theorem shiftUp_zero (g : Grid) (top bottom : Nat) (background : Color) :
    g.shiftUp top bottom 0 background = g := if_pos (.inr rfl)

@[simp] theorem shiftDown_zero (g : Grid) (top bottom : Nat) (background : Color) :
    g.shiftDown top bottom 0 background = g := if_pos (.inr rfl)

section

variable (hroom : g.rows ≤ g.capacity) (hwidth : ∀ r ∈ g.slots, r.cells.size = g.cols)
  {top bottom n : Nat} (htop : top < bottom) (hbottom : bottom ≤ g.rows) (hn : 0 < n)
  (background : Color)

include hroom hwidth htop hbottom hn

/-- Moving rows up one by one is moving them as a list. -/
theorem shiftUp_eq_liftRows :
    g.shiftUp top bottom n background =
      g.liftRows top bottom (min n (bottom - top)) background := by
  have loops : g.shiftUp top bottom n background =
      ((g.swapUp top bottom (min n (bottom - top))).resetRows (bottom - min n (bottom - top))
        (min n (bottom - top)) background).markRows top bottom := by
    unfold Grid.shiftUp
    rw [Nat.min_eq_left hbottom]
    exact if_neg (by omega)
  have refills := g.refills_shiftUp top bottom n background
  rw [loops] at refills ⊢
  have hle : min n (bottom - top) ≤ bottom - top := Nat.min_le_right ..
  generalize min n (bottom - top) = n at *
  have capacity : (g.swapUp top bottom n).capacity = g.capacity := capacity_swaps _ _ g
  have width := (keptBetween_width g.cols top bottom .default).swapUp hwidth n
  have nextSeq : (g.swapUp top bottom n).nextSeq = g.nextSeq := nextSeq_swaps _ _ g
  refine refills.ext rfl (List.ext_getElem? fun i => ?_) ?_
  · rw [getElem?_ring_reset_mark (by omega) (by omega), nextSeq,
      getElem?_ring_liftRows hroom htop hbottom hle]
    dsimp only
    by_cases inside : top ≤ i ∧ i < bottom
    · rw [if_pos inside, if_pos inside]
      by_cases moved : i < bottom - n
      · rw [if_neg (by omega), if_pos moved, swapUp,
          getElem?_ring_swapUp (by omega) (by omega), if_pos (by omega)]
      · rw [if_pos (by omega), if_neg moved, map_reset_ring width (by omega)]
        rfl
    · rw [if_neg inside, if_neg inside, if_neg (by omega), swapUp,
        getElem?_ring_swapUp (by omega) (by omega), if_neg (by omega)]
  · rw [nextSeq_markRows, nextSeq_resetRows, nextSeq]
    rfl

/-- Moving rows down one by one is moving them as a list. -/
theorem shiftDown_eq_lowerRows :
    g.shiftDown top bottom n background =
      g.lowerRows top bottom (min n (bottom - top)) background := by
  have loops : g.shiftDown top bottom n background =
      ((g.swapDown top bottom (min n (bottom - top))).resetRows top (min n (bottom - top))
        background).markRows top bottom := by
    unfold Grid.shiftDown
    rw [Nat.min_eq_left hbottom]
    exact if_neg (by omega)
  have refills := g.refills_shiftDown top bottom n background
  rw [loops] at refills ⊢
  have hle : min n (bottom - top) ≤ bottom - top := Nat.min_le_right ..
  generalize min n (bottom - top) = n at *
  have capacity : (g.swapDown top bottom n).capacity = g.capacity := capacity_swaps _ _ g
  have width := (keptBetween_width g.cols top bottom .default).swapDown hwidth n
  have nextSeq : (g.swapDown top bottom n).nextSeq = g.nextSeq := nextSeq_swaps _ _ g
  refine refills.ext rfl (List.ext_getElem? fun i => ?_) ?_
  · rw [getElem?_ring_reset_mark (by omega) (by omega), nextSeq,
      getElem?_ring_lowerRows hroom htop hbottom hle]
    dsimp only
    by_cases inside : top ≤ i ∧ i < bottom
    · rw [if_pos inside, if_pos inside]
      by_cases moved : top + n ≤ i
      · rw [if_neg (by omega), if_pos moved, swapDown,
          getElem?_ring_swapDown (by omega) (by omega) (by omega), if_pos (by omega)]
      · rw [if_pos (by omega), if_neg moved, map_reset_ring width (by omega)]
        rfl
    · rw [if_neg inside, if_neg inside, if_neg (by omega), swapDown,
        getElem?_ring_swapDown (by omega) (by omega) (by omega), if_neg (by omega)]
  · rw [nextSeq_markRows, nextSeq_resetRows, nextSeq]
    rfl

end

end Grid

end Teletype
