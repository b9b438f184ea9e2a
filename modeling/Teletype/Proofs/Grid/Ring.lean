import Mathlib.Data.List.Rotate
import Mathlib.Data.Nat.ModEq
import Teletype.Grid.Edit
import Teletype.Grid.Scroll

/-!
# The ring as a list

Read once around from the top row of the screen on, the ring is a list: its first rows are the
screen and its last ones the scrollback. What turning, moving rows and dropping the scrollback do to
the ring is said of this list, where no index wraps.
-/

namespace Teletype

section

variable {α : Type}

/-- Changing one element and turning a list can be done in either order. -/
theorem rotate_modify {l : List α} {n j : Nat} (hj : j < l.length) (f : α → α) :
    (l.modify ((n + j) % l.length) f).rotate n = (l.rotate n).modify j f := by
  apply List.ext_getElem?
  intro i
  by_cases hi : i < l.length
  · have same : (n + j) % l.length = (n + i) % l.length ↔ j = i := by
      constructor
      · intro h
        have h' : n + j ≡ n + i [MOD l.length] := h
        exact (Nat.ModEq.add_left_cancel' n h').eq_of_lt_of_lt hj hi
      · intro h
        rw [h]
    rw [List.getElem?_rotate (by simpa using hi), List.getElem?_modify, List.getElem?_modify,
      List.getElem?_rotate hi, List.length_modify, Nat.add_comm i n]
    simp only [same]
  · rw [List.getElem?_eq_none (by simpa using hi), List.getElem?_eq_none (by simpa using hi)]

/-- A loop that changes an array is a loop on the list that the array is from some index on. -/
theorem rotate_foldl {β : Type} {n size : Nat} {f : Array α → β → Array α}
    {f' : List α → β → List α} (l : List β) (xs : Array α) (hsize : xs.size = size)
    (hf : ∀ xs, ∀ b ∈ l, xs.size = size →
      (f xs b).size = size ∧ (f xs b).toList.rotate n = f' (xs.toList.rotate n) b) :
    (l.foldl f xs).size = size ∧
      (l.foldl f xs).toList.rotate n = l.foldl f' (xs.toList.rotate n) := by
  induction l generalizing xs with
  | nil => exact ⟨hsize, rfl⟩
  | cons b l ih =>
    obtain ⟨hb, hr⟩ := hf xs b List.mem_cons_self hsize
    have rest := ih (f xs b) hb fun xs c hc => hf xs c (List.mem_cons_of_mem b hc)
    rw [List.foldl_cons, List.foldl_cons, ← hr]
    exact rest

/-- Elements put in one after the other replace a part of the list. -/
theorem foldl_set (f : α → α) (l : List α) (k n : Nat) (xs : List α)
    (h : k + n + l.length ≤ xs.length) :
    (l.zipIdx n).foldl (fun xs e => xs.set (k + e.2) (f e.1)) xs =
      xs.take (k + n) ++ l.map f ++ xs.drop (k + n + l.length) := by
  induction l generalizing n xs with
  | nil => simp
  | cons a l ih =>
    rw [List.length_cons] at h
    have lt : k + n < xs.length := by omega
    have first : (xs.set (k + n) (f a)).take (k + n + 1) = xs.take (k + n) ++ [f a] := by
      rw [List.take_add_one, List.take_set_of_le (Nat.le_refl _), List.getElem?_set_self lt]
      rfl
    rw [List.zipIdx_cons, List.foldl_cons, ih (n + 1) (xs.set (k + n) (f a)), ← Nat.add_assoc,
      first, List.drop_set_of_lt (by omega), List.map_cons, List.length_cons, Nat.add_assoc (k + n),
      Nat.add_comm 1, List.append_assoc (xs.take (k + n)), List.singleton_append]
    rw [List.length_set]
    omega

/-- A part replaced within the first `n` elements is replaced in these. -/
theorem take_replace {xs new : List α} {top n : Nat} (h : top + new.length ≤ n)
    (hn : n ≤ xs.length) :
    (xs.take top ++ new ++ xs.drop (top + new.length)).take n =
      (xs.take n).take top ++ new ++ (xs.take n).drop (top + new.length) := by
  have len : (xs.take top ++ new).length = top + new.length := by
    rw [List.length_append, List.length_take]
    omega
  rw [List.take_append, len, List.take_of_length_le (by omega), List.take_take,
    Nat.min_eq_left (by omega), List.drop_take]

/-- Replacing elements of a list leaves those after them. -/
theorem drop_replace {xs new : List α} {top n : Nat} (h : top + new.length ≤ n)
    (hn : n ≤ xs.length) :
    (xs.take top ++ new ++ xs.drop (top + new.length)).drop n = xs.drop n := by
  have len : (xs.take top ++ new).length = top + new.length := by
    rw [List.length_append, List.length_take]
    omega
  rw [List.drop_append, len, List.drop_of_length_le (by omega), List.nil_append, List.drop_drop]
  congr 1
  omega

/-- Changes from index `k` on leave what is before it. -/
theorem take_foldl_modify (f : Nat → α → α) (k : Nat) (l : List Nat) (xs : List α) :
    (l.foldl (fun xs i => xs.modify (k + i) (f i)) xs).take k = xs.take k := by
  induction l generalizing xs with
  | nil => rfl
  | cons i l ih =>
    rw [List.foldl_cons, ih, List.take_modify, List.modify_eq_self]
    rw [List.length_take]
    omega

/-- What holds of the images of some elements holds of any elements with these images. -/
theorem forall_mem_of_map_eq {β : Type} {f : α → β} {P : β → Prop} {xs ys : List α}
    (h : ys.map f = xs.map f) (hxs : ∀ x ∈ xs, P (f x)) : ∀ y ∈ ys, P (f y) := by
  intro y hy
  have hmem : f y ∈ xs.map f := h ▸ List.mem_map_of_mem hy
  obtain ⟨x, hx, heq⟩ := List.mem_map.1 hmem
  exact heq ▸ hxs x hx

/-- The elements found at the indices from `k` on. -/
theorem filterMap_getElem? (xs : List α) (k n : Nat) :
    ((List.range n).filterMap fun i => xs[k + i]?) = (xs.drop k).take n := by
  induction n with
  | zero => rfl
  | succ n ih =>
    rw [List.range_succ, List.filterMap_append, ih, List.take_add_one, List.getElem?_drop]
    cases h : xs[k + n]? <;> simp [h]

end

/-! ## Rows with numbers of their own -/

/-- The rows have different numbers, all of them below `next`. -/
structure Numbered (rows : List Row) (next : Nat) : Prop where
  lt : ∀ r ∈ rows, r.seq < next
  nodup : (rows.map Row.seq).Nodup

theorem Numbered.perm {rows rows' : List Row} {next : Nat} (h : Numbered rows next)
    (hperm : rows'.Perm rows) : Numbered rows' next :=
  ⟨fun r hr => h.lt r (hperm.subset hr), (hperm.map Row.seq).nodup_iff.2 h.nodup⟩

/-- Whether rows are numbered depends on their numbers alone. -/
theorem Numbered.of_map_seq {rows rows' : List Row} {next : Nat} (h : Numbered rows next)
    (hseq : rows'.map Row.seq = rows.map Row.seq) : Numbered rows' next :=
  ⟨forall_mem_of_map_eq (P := (· < next)) hseq h.lt, hseq ▸ h.nodup⟩

/-- Rows stay numbered when one of them gets the next number. -/
theorem Numbered.modify {rows : List Row} {next : Nat} (h : Numbered rows next) (i : Nat)
    {f : Row → Row} (hf : ∀ r, (f r).seq = next) : Numbered (rows.modify i f) (next + 1) := by
  have hseq : (rows.modify i f).map Row.seq = (rows.map Row.seq).set i next := by
    apply List.ext_getElem?
    intro j
    rw [List.getElem?_map, List.getElem?_modify, List.getElem?_set, List.getElem?_map]
    by_cases hij : i = j
    · subst hij
      cases hr : rows[i]? with
      | none => simpa [hf] using hr
      | some r => simpa [hf] using (List.getElem?_eq_some_iff.1 hr).1
    · cases rows[j]? <;> simp [hij]
  have fresh : next ∉ rows.map Row.seq := by
    intro hmem
    obtain ⟨r, hr, heq⟩ := List.mem_map.1 hmem
    exact Nat.lt_irrefl next (heq ▸ h.lt r hr)
  refine ⟨fun r hr => ?_, hseq ▸ h.nodup.set fresh⟩
  have hmem : r.seq ∈ (rows.map Row.seq).set i next := hseq ▸ List.mem_map_of_mem hr
  rcases List.mem_or_eq_of_mem_set hmem with hmem | heq
  · obtain ⟨r', hr', heq⟩ := List.mem_map.1 hmem
    exact heq ▸ Nat.lt_succ_of_lt (h.lt r' hr')
  · exact heq ▸ Nat.lt_succ_self next

/-- Some rows go, and others with the next numbers come. -/
theorem Numbered.append {rows kept fresh : List Row} {next n : Nat} (h : Numbered rows next)
    (hkept : kept.Sublist rows) (hfresh : fresh.map Row.seq = List.range' next n) :
    Numbered (kept ++ fresh) (next + n) := by
  have old : ∀ r ∈ kept, r.seq < next := fun r hr => h.lt r (hkept.subset hr)
  have new : ∀ r ∈ fresh, next ≤ r.seq ∧ r.seq < next + n := by
    intro r hr
    have hmem : r.seq ∈ List.range' next n := hfresh ▸ List.mem_map_of_mem hr
    simpa using hmem
  refine ⟨fun r hr => ?_, ?_⟩
  · rcases List.mem_append.1 hr with hr | hr
    · exact Nat.lt_add_right n (old r hr)
    · exact (new r hr).2
  · rw [List.map_append, List.nodup_append]
    refine ⟨(hkept.map Row.seq).nodup h.nodup, hfresh ▸ List.nodup_range', ?_⟩
    intro a ha b hb
    obtain ⟨r, hr, rfl⟩ := List.mem_map.1 ha
    obtain ⟨r', hr', rfl⟩ := List.mem_map.1 hb
    have lt := old r hr
    have le := (new r' hr').1
    omega

namespace Grid

/-- The rows of the ring from the top row of the screen on, once around. -/
def ring (g : Grid) : List Row := g.slots.toList.rotate g.offset

variable (g : Grid)

@[simp] theorem length_ring : g.ring.length = g.capacity := by
  simp [ring, capacity]

theorem ring_perm : g.ring.Perm g.slots.toList := List.rotate_perm _ _

theorem mem_ring {r : Row} : r ∈ g.ring ↔ r ∈ g.slots := by
  rw [g.ring_perm.mem_iff, Array.mem_toList_iff]

theorem getElem?_ring {i : Nat} (h : i < g.capacity) :
    g.ring[i]? = g.slots[(g.offset + i) % g.capacity]? := by
  rw [ring, List.getElem?_rotate (show i < g.slots.toList.length from h), Array.getElem?_toList,
    Array.length_toList, Nat.add_comm]
  rfl

/-! ## Reading -/

variable {g}

theorem row?_eq (hroom : g.rows ≤ g.capacity) {row : Nat} (h : row < g.rows) :
    g.row? row = g.ring[row]? := by
  rw [row?, if_pos h, getElem?_ring g (Nat.lt_of_lt_of_le h hroom)]
  rfl

theorem line?_eq_of_lt (hroom : g.history ≤ g.capacity) {line : Nat} (h : line < g.history) :
    g.line? line = g.ring[g.capacity - g.history + line]? := by
  have here : line < g.lineCount := Nat.lt_add_right g.rows h
  rw [line?, if_pos here, getElem?_ring g (by omega), slotOfLine]
  congr 2
  omega

theorem line?_eq_row? (hroom : g.history ≤ g.capacity) (row : Nat) :
    g.line? (g.history + row) = g.row? row := by
  have slot : g.slotOfLine (g.history + row) = g.slotOf row := by
    have turned : g.offset + g.capacity - g.history + (g.history + row) =
        g.offset + row + g.capacity := by
      omega
    rw [slotOfLine, turned, Nat.add_mod_right, slotOf]
  simp only [line?, row?, lineCount, slot, Nat.add_lt_add_iff_left]

/-! ## Writing -/

/-- Changing the slot of a row changes the row. -/
theorem rotate_modify_slots (slots : Array Row) (offset : Nat) {row : Nat} (h : row < slots.size)
    (f : Row → Row) :
    (slots.modify ((offset + row) % slots.size) f).toList.rotate offset =
      (slots.toList.rotate offset).modify row f := by
  rw [Array.toList_modify, ← Array.length_toList]
  exact rotate_modify h f

/-- Turning moves the top row to the end, behind the newest line, and starts the bottom row anew. -/
theorem ring_turn (hrows : 0 < g.rows) (hroom : g.rows ≤ g.capacity) (background : Color) :
    (turn background g).ring =
      (g.ring.rotate 1).modify (g.rows - 1) (·.reset background g.nextSeq) := by
  have lt : g.rows - 1 < g.slots.size := by
    unfold capacity at hroom
    omega
  have start : g.slots.toList.rotate ((g.offset + 1) % g.capacity) = g.ring.rotate 1 := by
    rw [ring, List.rotate_rotate, ← List.rotate_mod _ (g.offset + 1)]
    rfl
  rw [← start]
  exact rotate_modify_slots g.slots _ lt _

/-- What a change of slots leaves as it was in every slot, it leaves in the ring. -/
theorem map_foldl_slots {α β : Type} {f : Row → α} {index : Array Row → β → Nat}
    {change : β → Row → Row} (hf : ∀ b r, f (change b r) = f r) (l : List β) (slots : Array Row) :
    (l.foldl (fun slots b => slots.modify (index slots b) (change b)) slots).toList.map f =
      slots.toList.map f := by
  induction l generalizing slots with
  | nil => rfl
  | cons b l ih =>
    rw [List.foldl_cons, ih, Array.toList_modify]
    apply List.ext_getElem?
    intro i
    rw [List.getElem?_map, List.getElem?_map, List.getElem?_modify]
    cases slots.toList[i]? with
    | none => rfl
    | some r =>
      by_cases h : index slots b = i
      · simp [h, hf]
      · simp [h]

/-- Marking the screen changes nothing of its rows but the marks. -/
theorem map_markScreenDirty {α : Type} {f : Row → α} (hf : ∀ r, f { r with dirty := true } = f r) :
    g.markScreenDirty.ring.map f = g.ring.map f := by
  rw [ring, ring, List.map_rotate, List.map_rotate]
  exact congrArg (List.rotate · g.offset) (map_foldl_slots (fun _ => hf) _ g.slots)

/-- Dropping the scrollback leaves the rows before it. -/
theorem take_eraseScrollback (hroom : g.history ≤ g.capacity) :
    g.eraseScrollback.ring.take (g.capacity - g.history) =
      g.ring.take (g.capacity - g.history) := by
  rw [← take_foldl_modify (fun i r => r.reset .default (g.nextSeq + i)) (g.capacity - g.history)
    (List.range g.history) g.ring]
  refine congrArg _ (rotate_foldl (List.range g.history) g.slots rfl fun slots i hi hsize => ?_).2
  have lt : g.capacity - g.history + i < slots.size := by
    have := List.mem_range.1 hi
    rw [hsize]
    unfold capacity at *
    omega
  have slot : g.offset + g.capacity - g.history + i = g.offset + (g.capacity - g.history + i) := by
    omega
  refine ⟨(Array.size_modify ..).trans hsize, ?_⟩
  have change := rotate_modify_slots slots g.offset lt (·.reset .default (g.nextSeq + i))
  rw [hsize, ← slot] at change
  exact change

/-- Each row of the scrollback that is dropped starts anew with the next number. -/
theorem numbered_eraseScrollback (h : Numbered g.slots.toList g.nextSeq) :
    Numbered g.eraseScrollback.slots.toList g.eraseScrollback.nextSeq := by
  unfold eraseScrollback
  dsimp only
  generalize g.offset + g.capacity - g.history = first
  induction g.history with
  | zero => exact h
  | succ n ih =>
    rw [List.range_succ, List.foldl_append, List.foldl_cons, List.foldl_nil, Array.toList_modify,
      ← Nat.add_assoc]
    exact Numbered.modify ih _ (f := fun r => r.reset .default (g.nextSeq + n)) fun _ => rfl

end Grid

end Teletype
