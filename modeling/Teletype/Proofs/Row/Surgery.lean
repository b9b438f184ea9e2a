import Mathlib.Data.List.Basic
import Teletype.Proofs.Row.Valid

/-!
# Editing a row is list surgery

The cells of an edited row are parts of the old list of cells and blanks between or after them. The
only other difference is at the cuts: a half of a glyph that a part cuts off from its other half is
blank.
-/

namespace Teletype

namespace Row

/-! ## Cut glyphs -/

/-- The half of a glyph at a column has not its other half beside it. -/
def Alone (extent : Nat → Extent) (i : Nat) : Prop :=
  extent i = .head ∧ extent (i + 1) ≠ .tail ∨ extent i = .tail ∧ (i = 0 ∨ extent (i - 1) ≠ .head)

instance (extent : Nat → Extent) (i : Nat) : Decidable (Alone extent i) :=
  inferInstanceAs (Decidable (_ ∨ _))

/-- A part of a row by itself: the halves of glyphs that it cuts off are blanked. -/
def mend (blanked : Cell → Cell) (cells : List Cell) : List Cell :=
  cells.mapIdx fun i c => if Alone (extentAt cells.toArray) i then blanked c else c

/-- The cells with `n` blanks put in at a column; those that are pushed past the end are lost. -/
def inserted (cells : List Cell) (col n : Nat) (background : Color) : List Cell :=
  let n := min n (cells.length - col)
  mend (·.erase background) (cells.take col) ++ List.replicate n (.blank background)
    ++ mend (·.erase background) ((cells.drop col).take (cells.length - col - n))

/-- The cells with `n` of them taken out at a column, and blanks at the end. -/
def deleted (cells : List Cell) (col n : Nat) (background : Color) : List Cell :=
  let n := min n (cells.length - col)
  mend (·.erase background) (cells.take col) ++ mend (·.erase background) (cells.drop (col + n))
    ++ List.replicate n (.blank background)

/-- The cells with blanks in place of those from `first` up to but not including `last`. A glyph
that is cut at an end keeps its background. -/
def erased (cells : List Cell) (first last : Nat) (background : Color) : List Cell :=
  mend Cell.eraseKept (cells.take first) ++ List.replicate (last - first) (.blank background)
    ++ mend Cell.eraseKept (cells.drop last)

section

variable {blanked : Cell → Cell} {cells : List Cell} {col n first last : Nat} {background : Color}

theorem mend_nil : mend blanked [] = [] := rfl

@[simp] theorem length_mend : (mend blanked cells).length = cells.length := List.length_mapIdx

theorem getElem?_mend (i : Nat) : (mend blanked cells)[i]? =
    cells[i]?.map fun c => if Alone (extentAt cells.toArray) i then blanked c
      else c := List.getElem?_mapIdx

theorem length_inserted (h : col ≤ cells.length) :
    (inserted cells col n background).length = cells.length := by
  simp only [inserted, List.length_append, length_mend, List.length_take, List.length_drop,
    List.length_replicate]
  omega

theorem length_deleted (h : col ≤ cells.length) :
    (deleted cells col n background).length = cells.length := by
  simp only [deleted, List.length_append, length_mend, List.length_take, List.length_drop,
    List.length_replicate]
  omega

theorem length_erased (h : first ≤ last) (h' : last ≤ cells.length) :
    (erased cells first last background).length = cells.length := by
  simp only [erased, List.length_append, length_mend, List.length_take, List.length_drop,
    List.length_replicate]
  omega

/-- The extents in a part of a row. -/
theorem extentAt_slice (i : Nat) : extentAt ((cells.drop first).take n).toArray i =
    if i < n then extentAt cells.toArray (first + i) else .narrow := by
  unfold extentAt
  rw [List.getElem?_toArray, List.getElem?_toArray, List.getElem?_take, List.getElem?_drop]
  split <;> rfl

/-- A part of a row has at most two halves alone: a right one at its start and a left one at its
end. -/
theorem alone_slice (h : Paired (extentAt cells.toArray)) {i : Nat} (hi : i < n) :
    Alone (extentAt ((cells.drop first).take n).toArray) i ↔
      i = 0 ∧ extentAt cells.toArray (first + i) = .tail ∨
        i + 1 = n ∧ extentAt cells.toArray (first + i) = .head := by
  have here := h.pair (first + i)
  unfold Alone
  simp only [extentAt_slice, hi, if_true]
  by_cases hstart : i = 0
  · subst hstart
    grind
  · have before := h.pair (first + (i - 1))
    have next : first + (i - 1) + 1 = first + i := by omega
    rw [next] at before
    grind

theorem lt_of_getElem?_take {c : Cell} {i : Nat} (h : (cells.take n)[i]? = some c) : i < n := by
  have lt := (List.getElem?_eq_some_iff.1 h).1
  rw [List.length_take] at lt
  omega

theorem getElem?_mend_slice (h : Paired (extentAt cells.toArray)) (i : Nat) :
    (mend blanked ((cells.drop first).take n))[i]? = ((cells.drop first).take n)[i]?.map fun c =>
      if i = 0 ∧ c.isTail ∨ i + 1 = n ∧ c.isHead then blanked c else c := by
  rw [getElem?_mend]
  cases hc : ((cells.drop first).take n)[i]? with
  | none => rfl
  | some c =>
    have inside := lt_of_getElem?_take hc
    have extent : extentAt cells.toArray (first + i) = c.extent := by
      rw [List.getElem?_take, if_pos inside, List.getElem?_drop] at hc
      rw [extentAt, List.getElem?_toArray, hc]
      rfl
    simp only [Option.map_some, alone_slice h inside, extent, isTail_eq, isHead_eq,
      decide_eq_true_eq]

theorem mend_slice (hblanked : ∀ c, (blanked c).extent = .narrow)
    (h : Paired (extentAt cells.toArray)) : mend blanked ((cells.drop first).take n) =
      (((cells.drop first).take n).modify 0 fun c => if c.isTail then blanked c
        else c).modify (n - 1) fun c => if c.isHead then blanked c else c := by
  apply List.ext_getElem?
  intro i
  rw [getElem?_mend_slice h, List.getElem?_modify, List.getElem?_modify]
  cases hc : ((cells.drop first).take n)[i]? with
  | none => rfl
  | some c =>
    have inside := lt_of_getElem?_take hc
    have start : 0 = i ↔ i = 0 := eq_comm
    have last : n - 1 = i ↔ i + 1 = n := by omega
    simp only [start, last, Option.map_some, Option.map_eq_map, isTail_eq, isHead_eq]
    grind

/-- A right half after the columns leaves a left half alone at their end. -/
theorem alone_take (h : Paired (extentAt cells.toArray)) {i : Nat} (hi : i < col) :
    Alone (extentAt (cells.take col).toArray) i ↔ col - 1 = i ∧
      extentAt cells.toArray col = .tail := by
  have zero := h.zero
  have here := h.pair i
  have whole : cells.take col = (cells.drop 0).take col := rfl
  rw [whole, alone_slice h hi, Nat.zero_add]
  by_cases hlast : i + 1 = col
  · rw [hlast] at here
    grind
  · grind

theorem mend_take (h : Paired (extentAt cells.toArray)) : mend blanked (cells.take col) =
    if extentAt cells.toArray col = .tail then (cells.take col).modify (col - 1) blanked
      else cells.take col := by
  split
  · rename_i htail
    apply List.ext_getElem?
    intro i
    rw [getElem?_mend, List.getElem?_modify]
    cases hc : (cells.take col)[i]? with
    | none => rfl
    | some c =>
      simp only [alone_take h (lt_of_getElem?_take hc), htail, and_true, Option.map_some,
        Option.map_eq_map]
  · rename_i htail
    apply List.ext_getElem?
    intro i
    rw [getElem?_mend]
    cases hc : (cells.take col)[i]? with
    | none => rfl
    | some c =>
      simp only [alone_take h (lt_of_getElem?_take hc), htail, and_false, if_false, Option.map_some]

/-- The last column of a row is no left half, so only the first column after a cut can be alone. -/
theorem mend_drop (h : Paired (extentAt cells.toArray)) : mend blanked (cells.drop first) =
    (cells.drop first).modify 0 fun c => if c.isTail then blanked c else c := by
  have all : (cells.drop first).take (cells.length - first) = cells.drop first := by
    rw [← List.length_drop, List.take_length]
  apply List.ext_getElem?
  intro i
  rw [← all, getElem?_mend_slice h, all, List.getElem?_modify]
  cases hc : (cells.drop first)[i]? with
  | none => rfl
  | some c =>
    have notLast (hi : i + 1 = cells.length - first) : c.extent ≠ .head := by
      intro hhead
      rw [List.getElem?_drop] at hc
      have extent : extentAt cells.toArray (first + i) = .head := by
        rw [extentAt, List.getElem?_toArray, hc]
        exact hhead
      have beyond : extentAt cells.toArray (first + i + 1) = .narrow :=
        extentAt_of_le (by rw [List.size_toArray]; omega)
      rw [h.pair, beyond] at extent
      cases extent
    have start : 0 = i ↔ i = 0 := eq_comm
    simp only [start, Option.map_some, Option.map_eq_map, isTail_eq, isHead_eq]
    grind

end

/-! ## The edits -/

section

variable {blanked : Cell → Cell} {r : Row} {col n first last : Nat} {background : Color}

/-- Blanking what a cut leaves of a glyph before it mends the columns before the cut. -/
theorem toList_cut (blanked : Cell → Cell) (col : Nat) {cells : Array Cell}
    (h : Paired (extentAt cells)) :
    (if isTailAt cells col && 0 < col then cells.modify (col - 1) blanked else cells).toList =
      mend blanked (cells.toList.take col) ++ cells.toList.drop col := by
  rw [mend_take h, isTailAt_eq]
  by_cases htail : extentAt cells col = .tail
  · have pos : 0 < col := by
      rcases Nat.eq_zero_or_pos col with rfl | hpos
      · exact absurd htail h.zero
      · exact hpos
    have inside : col < cells.size := by
      by_contra hout
      rw [extentAt_of_le (Nat.le_of_not_lt hout)] at htail
      cases htail
    rw [if_pos (by simp [htail, pos]), Array.toList_modify, if_pos htail, ← modify_append_left,
      List.take_append_drop]
    rw [List.length_take, Array.length_toList]
    omega
  · rw [if_neg (by simp [htail]), if_neg htail, List.take_append_drop]

theorem toList_extract_zero (cells : Array Cell) (n : Nat) :
    (cells.extract 0 n).toList = cells.toList.take n := by
  rw [Array.toList_extract, List.extract_eq_take_drop]
  rfl

theorem toList_extract_size (cells : Array Cell) (n : Nat) :
    (cells.extract n cells.size).toList = cells.toList.drop n := by
  have all : cells.size - n = (cells.toList.drop n).length := by
    rw [List.length_drop, Array.length_toList]
  rw [Array.toList_extract, List.extract_eq_take_drop, all, List.take_length]

theorem modify_blanks {test : Cell → Bool} (htest : ∀ b, test (.blank b) = false) (i : Nat) :
    (List.replicate n (Cell.blank background)).modify i (fun c => if test c then blanked c else c) =
      List.replicate n (.blank background) := by
  apply List.ext_getElem?
  intro j
  rw [List.getElem?_modify, List.getElem?_replicate]
  split <;> simp [htest]

/-- There is no right half at the start of what comes after a cut between glyphs. -/
theorem modify_start {cells : List Cell} (h : extentAt cells.toArray 0 ≠ .tail) :
    (cells.modify 0 fun c => if c.isTail then blanked c else c) = cells := by
  cases cells with
  | nil => rfl
  | cons c cells =>
    have narrow : c.isTail = false := by simpa [extentAt, isTail_eq] using h
    rw [List.modify_zero_cons, narrow]
    rfl

/-- Blanking what a cut leaves of a glyph behind it, wherever that went. -/
theorem toList_seam (background : Color) {cells : Array Cell} {before after : List Cell}
    (h : cells.toList = before ++ after) {tail : Bool}
    (htail : tail = false → extentAt after.toArray 0 ≠ .tail) :
    (if tail then blankIf cells before.length Cell.isTail background else cells).toList =
      before ++ after.modify 0 fun c => if c.isTail then .blank background else c := by
  cases tail with
  | true =>
    rw [if_pos rfl, blankIf, Array.toList_modify, h, modify_append_right (Nat.le_refl _),
      Nat.sub_self]
  | false =>
    rw [if_neg Bool.false_ne_true, h, modify_start (htail rfl)]

/-- The last column holds a blank, or the end of what comes after the blanks. -/
theorem modify_last {before after : List Cell} (hn : 1 ≤ n) :
    (before ++ List.replicate n (Cell.blank background) ++ after).modify
      (before.length + n + after.length - 1)
        (fun c => if c.isHead then .blank background else c) =
      before ++ List.replicate n (.blank background) ++
        after.modify (after.length - 1) fun c => if c.isHead then .blank background else c := by
  have inside : (before ++ List.replicate n (Cell.blank background)).length =
      before.length + n := by
    rw [List.length_append, List.length_replicate]
  cases after with
  | nil =>
    rw [List.modify_nil, List.append_nil, modify_append_right (by rw [List.length_nil]; omega),
      modify_blanks fun _ => rfl]
  | cons c after =>
    have index : before.length + n + (c :: after).length - 1 - (before.length + n) =
        (c :: after).length - 1 := by
      rw [List.length_cons]
      omega
    rw [modify_append_right (by rw [inside, List.length_cons]; omega), inside, index]

theorem insertBlanks_eq (h : Paired (extentAt r.cells)) (hcol : col < r.cells.size) (hn : 1 ≤ n) :
    r.insertBlanks col n background =
      { r with cells := (inserted r.cells.toList col n background).toArray } := by
  have cut := toList_cut (·.erase background) col h
  have here : ¬(r.cells.size ≤ col ∨ n = 0) := by omega
  have hm : 1 ≤ min n (r.cells.size - col) ∧
      col + min n (r.cells.size - col) ≤ r.cells.size := by omega
  simp only [insertBlanks, inserted, Bool.or_eq_true, decide_eq_true_eq, here, if_false,
    Array.length_toList]
  generalize min n (r.cells.size - col) = m at hm
  have size := size_cut r.cells col (·.erase background)
  generalize (if isTailAt r.cells col && 0 < col then
    r.cells.modify (col - 1) (·.erase background) else r.cells) = cells at cut size ⊢
  rw [blankRange_rotateRight (by omega), size]
  -- The three parts: the columns before the cut, the blanks, and the columns that stay on the row.
  have before : (mend (·.erase background) (r.cells.toList.take col)).length = col := by
    rw [length_mend, List.length_take, Array.length_toList]
    omega
  generalize mend (·.erase background) (r.cells.toList.take col) = left at cut before ⊢
  have mended :
      mend (·.erase background) ((r.cells.toList.drop col).take (r.cells.size - col - m)) = _ :=
    mend_slice (fun _ => rfl) h
  have start : isTailAt r.cells col = false →
      extentAt ((r.cells.toList.drop col).take (r.cells.size - col - m)).toArray 0 ≠ .tail := by
    intro hstart
    rw [isTailAt_eq, decide_eq_false_iff_not] at hstart
    rw [extentAt_slice]
    split
    · exact hstart
    · decide
  have length : ((r.cells.toList.drop col).take (r.cells.size - col - m)).length =
      r.cells.size - col - m := by
    rw [List.length_take, List.length_drop, Array.length_toList]
    omega
  generalize hright : (r.cells.toList.drop col).take (r.cells.size - col - m) =
    right at mended start length ⊢
  have moved : (cells.extract 0 col ++ Array.replicate m (Cell.blank background)
      ++ cells.extract col (r.cells.size - m)).toList =
        left ++ List.replicate m (.blank background) ++ right := by
    rw [Array.toList_append, Array.toList_append, toList_extract_zero, Array.toList_extract,
      Array.toList_replicate, cut, List.extract_eq_take_drop, List.take_left' before,
      List.drop_left' before, Nat.sub_right_comm, hright]
  have seam := toList_seam background moved start
  rw [List.length_append, before, List.length_replicate] at seam
  congr 1
  rw [← Array.toList_inj, blankIf, Array.toList_modify, seam, mended]
  have last : r.cells.size - 1 = left.length + m +
      (right.modify 0 fun c => if c.isTail then .blank background else c).length - 1 := by
    rw [before, List.length_modify, length]
    omega
  rw [last, modify_last hm.1, List.length_modify, length]
  rfl

theorem deleteCells_eq (h : Paired (extentAt r.cells)) (hcol : col < r.cells.size) (hn : 1 ≤ n) :
    r.deleteCells col n background =
      { r with cells := (deleted r.cells.toList col n background).toArray } := by
  have cut := toList_cut (·.erase background) col h
  have size := size_cut r.cells col (·.erase background)
  have here : ¬(r.cells.size ≤ col ∨ n = 0) := by omega
  have hm : 1 ≤ min n (r.cells.size - col) ∧
      col + min n (r.cells.size - col) ≤ r.cells.size := by omega
  simp only [deleteCells, deleted, Bool.or_eq_true, decide_eq_true_eq, here, if_false,
    Array.length_toList]
  generalize min n (r.cells.size - col) = m at hm
  generalize (if isTailAt r.cells col && 0 < col then
    r.cells.modify (col - 1) (·.erase background) else r.cells) = cells at cut size ⊢
  rw [blankRange_rotateLeft (by omega) size]
  have before : (mend (·.erase background) (r.cells.toList.take col)).length = col := by
    rw [length_mend, List.length_take, Array.length_toList]
    omega
  generalize mend (·.erase background) (r.cells.toList.take col) = left at cut before ⊢
  have moved : (cells.extract 0 col ++ cells.extract (col + m) r.cells.size
      ++ Array.replicate m (Cell.blank background)).toList =
      left ++ (r.cells.toList.drop (col + m) ++ List.replicate m (.blank background)) := by
    have kept : cells.toList.drop (col + m) = r.cells.toList.drop (col + m) := by
      rw [cut, ← List.drop_drop, List.drop_left' before, List.drop_drop]
    rw [← size, Array.toList_append, Array.toList_append, toList_extract_zero, toList_extract_size,
      Array.toList_replicate, kept, cut, List.take_left' before, List.append_assoc]
  congr 1
  rw [← Array.toList_inj, blankIf, Array.toList_modify, moved,
    modify_append_right (Nat.le_of_eq before), before, Nat.sub_self, mend_drop h, List.append_assoc]
  congr 1
  by_cases hfull : col + m = r.cells.size
  · have none : r.cells.toList.drop (col + m) = [] :=
      List.drop_eq_nil_iff.2 (by rw [Array.length_toList]; omega)
    rw [none, List.modify_nil, List.nil_append, modify_blanks fun _ => rfl]
  · rw [modify_append_left]
    · rfl
    · rw [List.length_drop, Array.length_toList]
      omega

theorem eraseRange_eq (h : Paired (extentAt r.cells)) (hfirst : first < last)
    (hlast : last ≤ r.cells.size) : r.eraseRange first last background =
      { r with cells := (erased r.cells.toList first last background).toArray, dirty := true } := by
  have cut := toList_cut Cell.eraseKept first h
  have cells := eraseRange_cells r first last background
  rw [Nat.min_eq_left hlast, if_neg (by omega)] at cells
  have rest : r.eraseRange first last background =
      { r with cells := (r.eraseRange first last background).cells, dirty := true } := by
    simp [eraseRange, Nat.min_eq_left hlast, Nat.not_le_of_lt hfirst]
  have before : (mend Cell.eraseKept (r.cells.toList.take first)).length = first := by
    rw [length_mend, List.length_take, Array.length_toList]
    omega
  rw [rest]
  congr 1
  rw [← Array.toList_inj, cells, blankRange, eraseIf]
  generalize (if isTailAt r.cells first && 0 < first then
    r.cells.modify (first - 1) Cell.eraseKept else r.cells) = cells at cut ⊢
  have toList : (cells.modify last fun c => if c.isTail then c.eraseKept else c).toList =
      mend Cell.eraseKept (r.cells.toList.take first) ++
        (r.cells.toList.drop first).modify (last - first) fun c => if c.isTail
          then c.eraseKept else c := by
    rw [Array.toList_modify, cut, modify_append_right (by omega), before]
  generalize cells.modify last (fun c => if c.isTail then c.eraseKept else c) = cells' at toList ⊢
  have kept : cells'.toList.drop last = mend Cell.eraseKept (r.cells.toList.drop last) := by
    have split : first + (last - first) = last := by omega
    rw [mend_drop h, toList, List.drop_append, before, List.drop_eq_nil_of_le (by omega),
      List.nil_append, List.drop_modify_of_ge _ _ _ _ (Nat.le_refl _), List.drop_drop, split,
      Nat.sub_self]
  rw [Array.toList_append, Array.toList_append, toList_extract_zero, toList_extract_size,
    Array.toList_replicate, kept, toList, List.take_left' before, erased]

end

end Row

end Teletype
