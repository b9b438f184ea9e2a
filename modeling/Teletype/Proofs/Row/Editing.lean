import Teletype.Proofs.Row.Whole

/-!
# Editing a row

No edit of a row changes how many cells it has or leaves half a glyph behind. Each edit is described
by what it does to the extent of every column; a property of cells that blanks have is kept as well.
-/

namespace Teletype.Row

/-! ## The extents after an edit -/

theorem isHead_eq (c : Cell) : c.isHead = decide (c.extent = .head) := rfl

theorem isTail_eq (c : Cell) : c.isTail = decide (c.extent = .tail) := rfl

theorem extentAt_modify {f : Cell → Cell} (hf : ∀ c, (f c).extent = .narrow) (cells : Array Cell)
    (k i : Nat) :
    extentAt (cells.modify k f) i = if i = k then .narrow else extentAt cells i := by
  unfold extentAt
  rw [Array.getElem?_modify]
  by_cases h : k = i
  · subst h
    cases cells[k]? <;> simp [hf]
  · simp [h, Ne.symm h]

theorem extentAt_modify_if {blank : Cell → Cell} {test : Cell → Bool} {e : Extent}
    (hblank : ∀ c, (blank c).extent = .narrow) (he : e ≠ .narrow)
    (ht : ∀ c, test c = decide (c.extent = e)) (cells : Array Cell) (k i : Nat) :
    extentAt (cells.modify k fun c => if test c then blank c else c) i =
      if i = k ∧ extentAt cells k = e then .narrow else extentAt cells i := by
  unfold extentAt
  rw [Array.getElem?_modify]
  by_cases h : k = i
  · subst h
    cases hc : cells[k]? with
    | none => simp [he.symm]
    | some c => by_cases h' : c.extent = e <;> simp [ht, hblank, h']
  · simp [h, Ne.symm h]

theorem extentAt_setIfInBounds (cells : Array Cell) (k i : Nat) (c : Cell) (hk : k < cells.size) :
    extentAt (cells.setIfInBounds k c) i = if i = k then c.extent else extentAt cells i := by
  unfold extentAt
  rw [Array.getElem?_setIfInBounds]
  by_cases h : k = i
  · subst h
    simp [hk]
  · simp [h, Ne.symm h]

theorem extentAt_append (a b : Array Cell) (i : Nat) :
    extentAt (a ++ b) i = if i < a.size then extentAt a i else extentAt b (i - a.size) := by
  unfold extentAt
  rw [Array.getElem?_append]
  split <;> rfl

theorem extentAt_extract (cells : Array Cell) (first last i : Nat) :
    extentAt (cells.extract first last) i =
      if i < last - first then extentAt cells (first + i) else .narrow := by
  unfold extentAt
  rw [Array.getElem?_extract]
  by_cases h : i < last - first
  · by_cases h' : i < min last cells.size - first
    · rw [if_pos h, if_pos h']
    · have : cells.size ≤ first + i := by omega
      rw [if_pos h, if_neg h', Array.getElem?_eq_none this]
  · have : ¬i < min last cells.size - first := by omega
    rw [if_neg h, if_neg this]
    rfl

theorem extentAt_blanks (n i : Nat) (background : Color) :
    extentAt (Array.replicate n (.blank background)) i = .narrow := by
  unfold extentAt
  rw [Array.getElem?_replicate]
  split <;> rfl

theorem extentAt_blankRange (cells : Array Cell) (first last : Nat) (background : Color) (i : Nat)
    (hf : first ≤ last) (hl : last ≤ cells.size) :
    extentAt (blankRange cells first last background) i =
      if first ≤ i ∧ i < last then .narrow else extentAt cells i := by
  simp only [blankRange, extentAt_append, extentAt_extract, extentAt_blanks, Array.size_append,
    Array.size_extract, Array.size_replicate]
  have beyond : cells.size ≤ i → extentAt cells i = .narrow := extentAt_of_le
  grind

@[simp] theorem size_splitAt (cells : Array Cell) (col : Nat) :
    (splitAt cells col).size = cells.size := by
  unfold splitAt
  split
  · rfl
  · split
    · rfl
    · simp
    · split <;> simp

/-- Splitting a glyph makes the half beside the column narrow. -/
theorem extentAt_splitAt (cells : Array Cell) (col i : Nat) :
    extentAt (splitAt cells col) i =
      if (i = col + 1 ∧ extentAt cells col = .head) ∨ (i + 1 = col ∧ extentAt cells col = .tail)
      then .narrow else extentAt cells i := by
  have here (c) (h : cells[col]? = some c) : extentAt cells col = c.extent := by
    simp [extentAt, h]
  unfold splitAt
  split
  · rename_i h
    simp [extentAt, h]
  · rename_i c h
    cases hc : c.extent with
    | narrow => simp [here c h, hc]
    | head =>
      rw [extentAt_modify (fun _ => rfl)]
      simp [here c h, hc]
    | tail =>
      have hcol := (here c h).trans hc
      by_cases h0 : col = 0
      · subst h0
        simp [hcol]
      · have : i + 1 = col ↔ i = col - 1 := by omega
        rw [if_neg h0, extentAt_modify (fun _ => rfl)]
        simp [hcol, this]

/-- Only the half beside the column is changed, so halves elsewhere still match. -/
theorem Paired.splitAt {cells : Array Cell} (h : Paired (extentAt cells)) (col i : Nat)
    (hi : i ≠ col) (hi' : i + 1 ≠ col) :
    extentAt (splitAt cells col) i = .head ↔ extentAt (splitAt cells col) (i + 1) = .tail := by
  have here := h.pair i
  have next := h.pair (i + 1)
  have cut := h.pair col
  rw [extentAt_splitAt, extentAt_splitAt]
  grind

theorem extentAt_eraseIf {test : Cell → Bool} {e : Extent} (he : e ≠ .narrow)
    (ht : ∀ c, test c = decide (c.extent = e)) (cells : Array Cell) (k i : Nat) :
    extentAt (eraseIf cells k test) i =
      if i = k ∧ extentAt cells k = e then .narrow else extentAt cells i :=
  extentAt_modify_if (fun _ => rfl) he ht cells k i

theorem extentAt_blankIf {test : Cell → Bool} {e : Extent} (background : Color) (he : e ≠ .narrow)
    (ht : ∀ c, test c = decide (c.extent = e)) (cells : Array Cell) (k i : Nat) :
    extentAt (blankIf cells k test background) i =
      if i = k ∧ extentAt cells k = e then .narrow else extentAt cells i :=
  extentAt_modify_if (fun _ => rfl) he ht cells k i

theorem isTailAt_eq (cells : Array Cell) (col : Nat) :
    isTailAt cells col = decide (extentAt cells col = .tail) := by
  unfold isTailAt extentAt
  cases cells[col]? with
  | none => rfl
  | some c => simp [Cell.isTail]

/-- A cut before a right half makes the left half before the cut narrow. -/
theorem extentAt_cut {f : Cell → Cell} (hf : ∀ c, (f c).extent = .narrow) (cells : Array Cell)
    (col i : Nat) :
    extentAt (if isTailAt cells col && 0 < col then cells.modify (col - 1) f else cells) i =
      if i + 1 = col ∧ extentAt cells col = .tail then .narrow else extentAt cells i := by
  rw [isTailAt_eq]
  by_cases ht : extentAt cells col = .tail ∧ 0 < col
  · have : i + 1 = col ↔ i = col - 1 := by omega
    rw [if_pos (by simpa using ht), extentAt_modify hf]
    simp [ht.1, this]
  · rw [if_neg (by simpa using ht), if_neg]
    rintro ⟨rfl, ht'⟩
    exact ht ⟨ht', by omega⟩

theorem size_cut (cells : Array Cell) (col : Nat) (f : Cell → Cell) :
    (if isTailAt cells col && 0 < col then cells.modify (col - 1) f else cells).size =
      cells.size := by
  split <;> simp

/-! ## Erasing -/

theorem paired_blank (cols : Nat) (background : Color) (seq : Nat) :
    Paired (extentAt (blank cols background seq).cells) := by
  exact paired_of_narrow fun i => extentAt_blanks cols i background

theorem eraseRange_cells (r : Row) (first last : Nat) (background : Color) :
    (r.eraseRange first last background).cells =
      if min last r.cells.size ≤ first then r.cells
      else blankRange
        (eraseIf (if isTailAt r.cells first && 0 < first then
            r.cells.modify (first - 1) Cell.eraseKept else r.cells)
          (min last r.cells.size) Cell.isTail) first (min last r.cells.size) background := by
  unfold eraseRange isTailAt
  by_cases hle : min last r.cells.size ≤ first
  · simp [hle]
  · cases r.cells[first]? <;> simp [hle]

@[simp] theorem size_eraseIf (cells : Array Cell) (col : Nat) (test : Cell → Bool) :
    (eraseIf cells col test).size = cells.size := by
  simp [eraseIf]

@[simp] theorem size_blankIf (cells : Array Cell) (col : Nat) (test : Cell → Bool)
    (background : Color) : (blankIf cells col test background).size = cells.size := by
  simp [blankIf]

theorem size_blankRange (cells : Array Cell) (first last : Nat) (background : Color)
    (hf : first ≤ last) (hl : last ≤ cells.size) :
    (blankRange cells first last background).size = cells.size := by
  simp only [blankRange, Array.size_append, Array.size_extract, Array.size_replicate]
  omega

@[simp] theorem size_eraseRange (r : Row) (first last : Nat) (background : Color) :
    (r.eraseRange first last background).cells.size = r.cells.size := by
  rw [eraseRange_cells]
  split
  · rfl
  · rw [size_blankRange _ _ _ _ (by omega) (by rw [size_eraseIf, size_cut]; omega), size_eraseIf,
      size_cut]

theorem paired_eraseRange {r : Row} (h : Paired (extentAt r.cells)) (first last : Nat)
    (background : Color) : Paired (extentAt (r.eraseRange first last background).cells) := by
  rw [eraseRange_cells]
  split
  · exact h
  · rename_i hle
    have extent (i) := extentAt_blankRange
      (eraseIf (if isTailAt r.cells first && 0 < first then
        r.cells.modify (first - 1) Cell.eraseKept else r.cells) (min last r.cells.size) Cell.isTail)
      first (min last r.cells.size) background i (by omega)
      (by rw [size_eraseIf, size_cut]; omega)
    simp only [extentAt_eraseIf (by decide) isTail_eq,
      extentAt_cut (f := Cell.eraseKept) (fun _ => rfl)] at extent
    have first_pair := h.pair (first - 1)
    constructor
    · have := h.zero
      rw [extent]
      grind
    · intro i
      have here := h.pair i
      have next := h.pair (i + 1)
      rw [extent, extent]
      grind

/-! ## Inserting and deleting -/

/-- Where only the last column can hold half a glyph, making it narrow is enough. -/
theorem Paired.of_last {e : Nat → Extent} {last : Nat} (zero : e 0 ≠ .tail)
    (pair : ∀ i < last, e i = .head ↔ e (i + 1) = .tail) (beyond : ∀ i, last < i → e i = .narrow) :
    Paired fun i => if i = last ∧ e last = .head then .narrow else e i := by
  constructor
  · grind
  · intro i
    rcases Nat.lt_trichotomy i last with h | rfl | h
    · have := pair i h
      grind
    · have := beyond (i + 1) (by omega)
      grind
    · have := beyond i h
      have := beyond (i + 1) (by omega)
      grind

/-- The columns that inserting makes room for are blank; those after them move to the right. -/
theorem extentAt_insert (cells : Array Cell) (col n i : Nat) (background : Color)
    (hc : col + n ≤ cells.size) :
    extentAt (cells.extract 0 col ++ Array.replicate n (.blank background)
        ++ cells.extract col (cells.size - n)) i =
      if i < col then extentAt cells i
      else if i < col + n then .narrow
      else if i < cells.size then extentAt cells (i - n) else .narrow := by
  simp only [extentAt_append, extentAt_extract, extentAt_blanks, Array.size_append,
    Array.size_extract, Array.size_replicate]
  grind

theorem extentAt_delete (cells : Array Cell) (col n i : Nat) (background : Color)
    (hc : col + n ≤ cells.size) :
    extentAt (cells.extract 0 col ++ cells.extract (col + n) cells.size
        ++ Array.replicate n (.blank background)) i =
      if i < col then extentAt cells i else extentAt cells (i + n) := by
  simp only [extentAt_append, extentAt_extract, extentAt_blanks, Array.size_append,
    Array.size_extract]
  have beyond : cells.size ≤ i + n → extentAt cells (i + n) = .narrow := extentAt_of_le
  grind

/-- The cells between two parts become blanks. -/
theorem blankRange_append (a b c : Array Cell) (background : Color) :
    blankRange (a ++ b ++ c) a.size (a.size + b.size) background =
      a ++ Array.replicate b.size (.blank background) ++ c := by
  have before : (a ++ b ++ c).extract 0 a.size = a := by
    simp [Array.append_assoc]
  have after : (a ++ b ++ c).extract (a.size + b.size) (a ++ b ++ c).size = c := by
    rw [← Array.size_append]
    generalize a ++ b = front
    rw [Array.extract_append, Array.size_append, Nat.sub_self, Nat.add_sub_cancel_left,
      Array.extract_size, Array.extract_empty_of_size_le_start (Nat.le_refl _), Array.empty_append]
  rw [blankRange, before, after, Nat.add_sub_cancel_left]

/-- The last cells are moved to the column and erased there. -/
theorem blankRange_rotateRight {cells : Array Cell} {col n : Nat} (h : col + n ≤ cells.size)
    (background : Color) :
    blankRange (rotateRight cells col n) col (col + n) background =
      cells.extract 0 col ++ Array.replicate n (.blank background)
        ++ cells.extract col (cells.size - n) := by
  have before : (cells.extract 0 col).size = col := by
    rw [Array.size_extract]
    omega
  have out : (cells.extract (cells.size - n) cells.size).size = n := by
    rw [Array.size_extract]
    omega
  have erased := blankRange_append (cells.extract 0 col)
    (cells.extract (cells.size - n) cells.size) (cells.extract col (cells.size - n)) background
  rw [before, out] at erased
  exact erased

/-- The cells at the column are moved to the end and erased there. -/
theorem blankRange_rotateLeft {cells : Array Cell} {col n size : Nat} (h : col + n ≤ size)
    (hsize : cells.size = size) (background : Color) :
    blankRange (rotateLeft cells col n) (size - n) size background =
      cells.extract 0 col ++ cells.extract (col + n) size
        ++ Array.replicate n (.blank background) := by
  subst hsize
  have kept : (cells.extract 0 col ++ cells.extract (col + n) cells.size).size =
      cells.size - n := by
    rw [Array.size_append, Array.size_extract, Array.size_extract]
    omega
  have out : (cells.extract col (col + n)).size = n := by
    rw [Array.size_extract]
    omega
  have erased := blankRange_append (cells.extract 0 col ++ cells.extract (col + n) cells.size)
    (cells.extract col (col + n)) #[] background
  rw [kept, out, Nat.sub_add_cancel (by omega), Array.append_empty, Array.append_empty] at erased
  exact erased
theorem insertBlanks_of_le {r : Row} {col n : Nat} (h : r.cells.size ≤ col ∨ n = 0)
    (background : Color) : r.insertBlanks col n background = r := by
  simp [insertBlanks, h]

theorem deleteCells_of_le {r : Row} {col n : Nat} (h : r.cells.size ≤ col ∨ n = 0)
    (background : Color) : r.deleteCells col n background = r := by
  simp [deleteCells, h]

theorem size_rotateRight (cells : Array Cell) (col n : Nat) (h : col + n ≤ cells.size) :
    (rotateRight cells col n).size = cells.size := by
  simp only [rotateRight, Array.size_append, Array.size_extract]
  omega

theorem size_rotateLeft (cells : Array Cell) (col n : Nat) (h : col + n ≤ cells.size) :
    (rotateLeft cells col n).size = cells.size := by
  simp only [rotateLeft, Array.size_append, Array.size_extract]
  omega

@[simp] theorem size_insertBlanks (r : Row) (col n : Nat) (background : Color) :
    (r.insertBlanks col n background).cells.size = r.cells.size := by
  by_cases h : r.cells.size ≤ col ∨ n = 0
  · rw [insertBlanks_of_le h]
  · simp only [insertBlanks, Bool.or_eq_true, decide_eq_true_eq, h, if_false, size_blankIf]
    have fits : col + min n (r.cells.size - col) ≤ r.cells.size := by omega
    generalize min n (r.cells.size - col) = m at fits
    have cut := size_cut r.cells col (·.erase background)
    generalize (if isTailAt r.cells col && 0 < col then
      r.cells.modify (col - 1) (·.erase background) else r.cells) = cells at cut ⊢
    have turned := size_rotateRight cells col m (by omega)
    have moved := size_blankRange (rotateRight cells col m) col (col + m) background (by omega)
      (by omega)
    split
    · rw [size_blankIf, moved, turned, cut]
    · rw [moved, turned, cut]

@[simp] theorem size_deleteCells (r : Row) (col n : Nat) (background : Color) :
    (r.deleteCells col n background).cells.size = r.cells.size := by
  by_cases h : r.cells.size ≤ col ∨ n = 0
  · rw [deleteCells_of_le h]
  · simp only [deleteCells, Bool.or_eq_true, decide_eq_true_eq, h, if_false, size_blankIf]
    have fits : col + min n (r.cells.size - col) ≤ r.cells.size := by omega
    generalize min n (r.cells.size - col) = m at fits
    have cut := size_cut r.cells col (·.erase background)
    generalize (if isTailAt r.cells col && 0 < col then
      r.cells.modify (col - 1) (·.erase background) else r.cells) = cells at cut ⊢
    have turned := size_rotateLeft cells col m (by omega)
    rw [size_blankRange _ _ _ _ (by omega) (by omega), turned, cut]

theorem paired_insertBlanks {r : Row} (h : Paired (extentAt r.cells)) (col n : Nat)
    (background : Color) : Paired (extentAt (r.insertBlanks col n background).cells) := by
  by_cases hle : r.cells.size ≤ col ∨ n = 0
  · rwa [insertBlanks_of_le hle]
  · simp only [insertBlanks, Bool.or_eq_true, decide_eq_true_eq, hle, if_false]
    -- The extents after each step: `base` after the cut, `placed` with the blanks in, `joined`
    -- after the right half that moved away from its left half, `final` after the cut at the last
    -- column.
    have hm : 0 < min n (r.cells.size - col) ∧ col + min n (r.cells.size - col) ≤ r.cells.size := by
      omega
    generalize min n (r.cells.size - col) = m at hm
    have base := extentAt_cut (f := (·.erase background)) (fun _ => rfl) r.cells col
    have size := size_cut r.cells col (·.erase background)
    generalize (if isTailAt r.cells col && 0 < col then
      r.cells.modify (col - 1) (·.erase background) else r.cells) = cells at base size ⊢
    rw [← size]
    rw [blankRange_rotateRight (by omega)]
    have placed := fun i => extentAt_insert cells col m i background (by omega)
    generalize cells.extract 0 col ++ Array.replicate m (Cell.blank background)
      ++ cells.extract col (cells.size - m) = moved at placed ⊢
    have joined (i) : extentAt (if isTailAt r.cells col then
        blankIf moved (col + m) Cell.isTail background else moved) i =
          if i < col then if i + 1 = col ∧ extentAt r.cells col = .tail then .narrow
            else extentAt r.cells i
          else if i < col + m then .narrow
          else if i = col + m ∧ extentAt r.cells col = .tail then .narrow
          else if i < cells.size then extentAt r.cells (i - m) else .narrow := by
      rw [isTailAt_eq]
      by_cases ht : extentAt r.cells col = .tail
      · simp only [ht, decide_true, if_true, extentAt_blankIf background (by decide) isTail_eq,
          placed, base]
        grind
      · simp only [ht, decide_false, Bool.false_eq_true, if_false, placed, base]
        grind
    have final := extentAt_blankIf background (by decide) isHead_eq (if isTailAt r.cells col then
        blankIf moved (col + m) Cell.isTail background else moved) (cells.size - 1)
    refine (Paired.of_last ?_ ?_ ?_).of_eq final
    · have := h.zero
      rw [joined]
      grind
    · intro i hi
      rw [joined, joined]
      clear final joined placed base
      by_cases hi : i < col + m
      · have here := h.pair i
        have next := h.pair (i + 1)
        clear h
        grind
      · obtain ⟨j, rfl⟩ : ∃ j, i = j + m := ⟨i - m, by omega⟩
        have here := h.pair j
        clear h
        grind
    · intro i hi
      rw [joined]
      grind

theorem paired_deleteCells {r : Row} (h : Paired (extentAt r.cells)) (col n : Nat)
    (background : Color) : Paired (extentAt (r.deleteCells col n background).cells) := by
  by_cases hle : r.cells.size ≤ col ∨ n = 0
  · rwa [deleteCells_of_le hle]
  · simp only [deleteCells, Bool.or_eq_true, decide_eq_true_eq, hle, if_false]
    -- The same steps, but for the last column: what moves there is blank.
    have hm : col + min n (r.cells.size - col) ≤ r.cells.size := by omega
    generalize min n (r.cells.size - col) = m at hm
    have base := extentAt_cut (f := (·.erase background)) (fun _ => rfl) r.cells col
    have size := size_cut r.cells col (·.erase background)
    generalize (if isTailAt r.cells col && 0 < col then
      r.cells.modify (col - 1) (·.erase background) else r.cells) = cells at base size ⊢
    rw [← size]
    rw [blankRange_rotateLeft (by omega) rfl]
    have moved := fun i => extentAt_delete cells col m i background (by omega)
    have final := extentAt_blankIf background (by decide) isTail_eq (cells.extract 0 col
      ++ cells.extract (col + m) cells.size ++ Array.replicate m (.blank background)) col
    simp only [moved, base] at final
    refine Paired.of_eq (e := fun i => if i < col then
        if i + 1 = col ∧ extentAt r.cells col = .tail then .narrow else extentAt r.cells i
      else if i = col ∧ extentAt r.cells (col + m) = .tail then .narrow
      else extentAt r.cells (i + m)) ?_ fun i => (final i).trans (by grind)
    clear final moved base
    constructor
    · have := h.zero
      grind
    · intro i
      have here := h.pair i
      have next := h.pair (i + 1)
      have there := h.pair (i + m)
      clear h
      grind

/-! ## Writing -/

@[simp] theorem size_write (r : Row) (col key width : Nat) (rendition : Rendition) (link : Nat) :
    (r.write col key width rendition link).cells.size = r.cells.size := by
  unfold write
  split <;> simp

theorem paired_write {r : Row} (h : Paired (extentAt r.cells)) {col width : Nat} (key : Nat)
    (rendition : Rendition) (link : Nat) (hc : col + (if width = 2 then 2 else 1) ≤ r.cells.size) :
    Paired (extentAt (r.write col key width rendition link).cells) := by
  have split := h.splitAt col
  have zero := h.zero
  have edge := h.pair col
  have cut := extentAt_splitAt r.cells col
  have size := size_splitAt r.cells col
  unfold write
  generalize Row.splitAt r.cells col = cells at split cut size ⊢
  by_cases hw : width = 2
  -- The right half may cut a second glyph, which starts at its column.
  · have next := extentAt_splitAt cells (col + 1)
    have size' := size_splitAt cells (col + 1)
    simp only [hw, if_true] at hc ⊢
    generalize Row.splitAt cells (col + 1) = cells' at next size' ⊢
    have final (i) : extentAt ((cells'.setIfInBounds col
          ⟨key, .ofWidth 2, rendition, link⟩).setIfInBounds (col + 1) (.tail rendition link)) i =
        if i = col then .head else if i = col + 1 then .tail else
          if i = col + 2 ∧ extentAt cells (col + 1) = .head then .narrow else extentAt cells i := by
      rw [extentAt_setIfInBounds _ _ _ _ (by rw [Array.size_setIfInBounds]; omega),
        extentAt_setIfInBounds _ _ _ _ (by omega), next]
      grind [Cell.tail, Extent.ofWidth]
    refine Paired.of_eq ?_ final
    have after := split (col + 1) (by omega) (by omega)
    constructor
    · have := cut 0
      grind
    · intro i
      have here := cut i
      have pair := h.pair i
      have kept := split i
      clear h final next cut split
      grind
  · simp only [hw, if_false] at hc ⊢
    have final (i) : extentAt (cells.setIfInBounds col ⟨key, .ofWidth width, rendition, link⟩) i =
        if i = col then .narrow else extentAt cells i := by
      rw [extentAt_setIfInBounds _ _ _ _ (by omega)]
      simp [Extent.ofWidth, hw]
    refine Paired.of_eq ?_ final
    constructor
    · have := cut 0
      grind
    · intro i
      have here := cut i
      have after := cut (i + 1)
      have pair := h.pair i
      have kept := split i
      clear h final cut split
      grind

@[simp] theorem size_compose (r : Row) (col key width : Nat) :
    (r.compose col key width).1.cells.size = r.cells.size := by
  unfold compose
  split
  · rfl
  · dsimp only
    split <;> simp

theorem extentAt_setKey (cells : Array Cell) {col : Nat} (key width i : Nat)
    (hcol : col < cells.size) :
    extentAt (cells.modify col (·.setKey key width)) i =
      if i = col then .ofWidth width else extentAt cells i := by
  unfold extentAt
  rw [Array.getElem?_modify]
  by_cases hi : col = i
  · subst hi
    simp [hcol, Cell.setKey]
  · simp [hi, Ne.symm hi]

theorem paired_compose {r : Row} (h : Paired (extentAt r.cells)) (col key width : Nat)
    (hc : extentAt r.cells col ≠ .tail) :
    Paired (extentAt (r.compose col key width).1.cells) := by
  unfold compose
  cases hcell : r.cells[col]? with
  | none => exact h
  | some c =>
    have hcol : col < r.cells.size := (Array.getElem?_eq_some_iff.1 hcell).1
    have here : extentAt r.cells col = c.extent := by simp [extentAt, hcell]
    dsimp only
    cases hc' : c.extent with
    | tail => exact absurd (here.trans hc') hc
    | head =>
      simp only [isHead_eq, hc', decide_true, Bool.not_true, Bool.and_false, Bool.true_or, if_true,
        Bool.false_eq_true, if_false]
      refine h.of_eq fun i => ?_
      rw [extentAt_setKey _ _ _ _ hcol]
      grind [Extent.ofWidth]
    | narrow =>
      by_cases hg : 2 ≤ width ∧ col + 1 < r.cells.size
      · simp only [isHead_eq, hc', hg, reduceCtorEq, decide_false, decide_true, Bool.not_false,
          Bool.and_true, Bool.or_true, if_true]
        refine Paired.of_eq (e := fun i => if i = col then .head else if i = col + 1 then .tail
          else if i = col + 2 ∧ extentAt r.cells (col + 1) = .head then .narrow
          else extentAt r.cells i) ?_ fun i => ?_
        · have before := h.pair col
          have zero := h.zero
          constructor
          · grind
          · intro i
            have pair := h.pair i
            have edge := h.pair (col + 1)
            clear h
            grind
        · rw [extentAt_setKey _ _ _ _ (by simpa using hcol),
            extentAt_setIfInBounds _ _ _ _ (by simpa using hg.2), extentAt_splitAt]
          have before := h.pair col
          grind [Extent.ofWidth, Cell.tail]
      · have narrow : (decide (2 ≤ width) && decide (col + 1 < r.cells.size)) = false := by
          simpa using hg
        simp only [isHead_eq, hc', narrow, reduceCtorEq, decide_false, Bool.not_false,
          Bool.and_true, Bool.or_self, Bool.false_eq_true, if_false]
        refine h.of_eq fun i => ?_
        rw [extentAt_setKey _ _ _ _ hcol]
        grind [Extent.ofWidth]

/-! ## Fitting a width -/

theorem size_fit (r : Row) (cols : Nat) : (r.fit cols).cells.size = cols := by
  unfold fit
  split
  · simp only [size_eraseIf, Array.size_extract]
    omega
  · simp only [Array.size_append, Array.size_replicate]
    omega

theorem paired_fit {r : Row} (h : Paired (extentAt r.cells)) (cols : Nat) (hc : 0 < cols) :
    Paired (extentAt (r.fit cols).cells) := by
  unfold fit
  split
  · have extent := extentAt_eraseIf (by decide) isHead_eq (r.cells.extract 0 cols) (cols - 1)
    refine (Paired.of_last ?_ ?_ ?_).of_eq extent
    · have := h.zero
      rw [extentAt_extract]
      grind
    · intro i hi
      have := h.pair i
      rw [extentAt_extract, extentAt_extract]
      grind
    · intro i hi
      rw [extentAt_extract, if_neg (by omega)]
  · refine h.of_eq fun i => ?_
    rw [extentAt_append]
    split
    · rfl
    · have beyond : extentAt r.cells i = .narrow := extentAt_of_le (by omega)
      rw [beyond]
      exact extentAt_blanks _ _ .default

end Teletype.Row
