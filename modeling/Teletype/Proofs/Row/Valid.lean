import Teletype.Proofs.Row.Editing

/-!
# Valid rows

A row of a screen with `cols` columns has that many cells, holds no half glyph, and its right halves
name no glyph of their own. Every edit keeps this.
-/

namespace Teletype

/-- What holds of every entry still does when one of them is changed to something it holds of. -/
theorem forall_mem_modify {α : Type} {P : α → Prop} {xs : Array α} (h : ∀ x ∈ xs, P x) {f : α → α}
    {k : Nat} (hf : ∀ x, xs[k]? = some x → P (f x)) : ∀ x ∈ xs.modify k f, P x := by
  intro x hx
  obtain ⟨i, hi, rfl⟩ := Array.mem_iff_getElem.1 hx
  rw [Array.size_modify] at hi
  rw [Array.getElem_modify]
  split
  · rename_i hki
    exact hf _ (hki ▸ Array.getElem?_eq_getElem hi)
  · exact h _ (Array.getElem_mem hi)

section

variable {α : Type} {f : α → α} {xs ys : List α} {i : Nat}

/-- A change of an element of the first of two lists. -/
theorem modify_append_left (h : i < xs.length) : (xs ++ ys).modify i f = xs.modify i f ++ ys := by
  induction xs generalizing i with
  | nil => exact absurd h (Nat.not_lt_zero i)
  | cons x xs ih =>
    cases i with
    | zero => rfl
    | succ i =>
      rw [List.cons_append, List.modify_succ_cons, List.modify_succ_cons,
        ih (Nat.lt_of_succ_lt_succ h), List.cons_append]

/-- A change of an element of the second one. -/
theorem modify_append_right (h : xs.length ≤ i) :
    (xs ++ ys).modify i f = xs ++ ys.modify (i - xs.length) f := by
  induction xs generalizing i with
  | nil => rfl
  | cons x xs ih =>
    cases i with
    | zero => exact absurd h (Nat.not_succ_le_zero _)
    | succ i =>
      rw [List.cons_append, List.modify_succ_cons, ih (Nat.le_of_succ_le_succ h), List.length_cons,
        Nat.succ_sub_succ, List.cons_append]

end

namespace Row

/-! ## What holds of every cell -/

section

variable {P : Cell → Prop} {cells : Array Cell}

theorem forall_modify (h : ∀ c ∈ cells, P c) {f : Cell → Cell} (hf : ∀ c, P c → P (f c))
    (k : Nat) : ∀ c ∈ cells.modify k f, P c :=
  forall_mem_modify h fun c hc => hf c (h c (Array.mem_of_getElem? hc))

theorem forall_setIfInBounds (h : ∀ c ∈ cells, P c) {d : Cell} (hd : P d) (k : Nat) :
    ∀ c ∈ cells.setIfInBounds k d, P c := by
  intro c hc
  rcases Array.mem_or_eq_of_mem_setIfInBounds hc with hc | rfl
  · exact h c hc
  · exact hd

theorem forall_extract (h : ∀ c ∈ cells, P c) (first last : Nat) :
    ∀ c ∈ cells.extract first last, P c := by
  intro c hc
  obtain ⟨i, hi, rfl⟩ := Array.mem_iff_getElem.1 hc
  rw [Array.getElem_extract]
  exact h _ (Array.getElem_mem _)

theorem forall_blanks (hb : ∀ b, P (.blank b)) (n : Nat) (background : Color) :
    ∀ c ∈ Array.replicate n (Cell.blank background), P c := by
  intro c hc
  rw [Array.eq_of_mem_replicate hc]
  exact hb background

theorem forall_append {a b : Array Cell} (ha : ∀ c ∈ a, P c) (hb : ∀ c ∈ b, P c) :
    ∀ c ∈ a ++ b, P c := by
  intro c hc
  rcases Array.mem_append.1 hc with hc | hc
  · exact ha c hc
  · exact hb c hc

theorem forall_splitAt (hb : ∀ b, P (.blank b)) (h : ∀ c ∈ cells, P c) (col : Nat) :
    ∀ c ∈ splitAt cells col, P c := by
  unfold splitAt
  split
  · exact h
  · split
    · exact h
    · exact forall_modify h (fun _ _ => hb _) _
    · split
      · exact h
      · exact forall_modify h (fun _ _ => hb _) _

theorem forall_blankIf (hb : ∀ b, P (.blank b)) (h : ∀ c ∈ cells, P c) (col : Nat)
    (test : Cell → Bool) (background : Color) : ∀ c ∈ blankIf cells col test background, P c := by
  refine forall_modify h (fun c hc => ?_) _
  split
  · exact hb _
  · exact hc

theorem forall_eraseIf (hb : ∀ b, P (.blank b)) (h : ∀ c ∈ cells, P c) (col : Nat)
    (test : Cell → Bool) : ∀ c ∈ eraseIf cells col test, P c := by
  refine forall_modify h (fun c hc => ?_) _
  split
  · exact hb _
  · exact hc

theorem forall_blankRange (hb : ∀ b, P (.blank b)) (h : ∀ c ∈ cells, P c) (first last : Nat)
    (background : Color) : ∀ c ∈ blankRange cells first last background, P c :=
  forall_append (forall_append (forall_extract h _ _) (forall_blanks hb _ _)) (forall_extract h _ _)

theorem forall_rotateRight (h : ∀ c ∈ cells, P c) (col n : Nat) :
    ∀ c ∈ rotateRight cells col n, P c :=
  forall_append (forall_append (forall_extract h _ _) (forall_extract h _ _)) (forall_extract h _ _)

theorem forall_rotateLeft (h : ∀ c ∈ cells, P c) (col n : Nat) :
    ∀ c ∈ rotateLeft cells col n, P c :=
  forall_append (forall_append (forall_extract h _ _) (forall_extract h _ _)) (forall_extract h _ _)

theorem forall_cut (hb : ∀ b, P (.blank b)) (h : ∀ c ∈ cells, P c) {f : Cell → Cell}
    (hf : ∀ c, ∃ b, f c = .blank b) (b : Bool) (col : Nat) :
    ∀ c ∈ (if b then cells.modify col f else cells), P c := by
  split
  · refine forall_modify h (fun c _ => ?_) _
    obtain ⟨b, hb'⟩ := hf c
    exact hb' ▸ hb b
  · exact h

end

section

variable {P : Cell → Prop} {r : Row}

theorem forall_eraseRange (hb : ∀ b, P (.blank b)) (h : ∀ c ∈ r.cells, P c) (first last : Nat)
    (background : Color) : ∀ c ∈ (r.eraseRange first last background).cells, P c := by
  rw [eraseRange_cells]
  split
  · exact h
  · have cut := forall_cut hb h (f := Cell.eraseKept) (fun c => ⟨_, rfl⟩)
      (isTailAt r.cells first && 0 < first) (first - 1)
    have erased := forall_eraseIf hb cut (min last r.cells.size) Cell.isTail
    exact forall_blankRange hb erased _ _ background

theorem forall_insertBlanks (hb : ∀ b, P (.blank b)) (h : ∀ c ∈ r.cells, P c) (col n : Nat)
    (background : Color) : ∀ c ∈ (r.insertBlanks col n background).cells, P c := by
  unfold insertBlanks
  dsimp only
  split
  · exact h
  · have cut := forall_cut hb h (f := (·.erase background)) (fun c => ⟨_, rfl⟩)
      (isTailAt r.cells col && 0 < col) (col - 1)
    have moved := forall_blankRange hb
      (forall_rotateRight cut col (min n (r.cells.size - col))) col
      (col + min n (r.cells.size - col)) background
    refine forall_blankIf hb ?_ _ _ _
    split
    · exact forall_blankIf hb moved _ _ _
    · exact moved

theorem forall_deleteCells (hb : ∀ b, P (.blank b)) (h : ∀ c ∈ r.cells, P c) (col n : Nat)
    (background : Color) : ∀ c ∈ (r.deleteCells col n background).cells, P c := by
  unfold deleteCells
  dsimp only
  split
  · exact h
  · have cut := forall_cut hb h (f := (·.erase background)) (fun c => ⟨_, rfl⟩)
      (isTailAt r.cells col && 0 < col) (col - 1)
    exact forall_blankIf hb
      (forall_blankRange hb (forall_rotateLeft cut _ _) _ _ background) _ _ _

theorem forall_write (hb : ∀ b, P (.blank b)) (h : ∀ c ∈ r.cells, P c) (col key width : Nat)
    (rendition : Rendition) (link : Nat) (hhead : P ⟨key, .ofWidth width, rendition, link⟩)
    (htail : P (.tail rendition link)) :
    ∀ c ∈ (r.write col key width rendition link).cells, P c := by
  have split := forall_splitAt hb h col
  unfold write
  dsimp only
  split
  · exact forall_setIfInBounds
      (forall_setIfInBounds (forall_splitAt hb split _) hhead _) htail _
  · exact forall_setIfInBounds split hhead _

theorem forall_compose (hb : ∀ b, P (.blank b)) (h : ∀ c ∈ r.cells, P c) (col key width : Nat)
    (hset : ∀ c width, P c → P (c.setKey key width))
    (htail : ∀ c, P c → P (.tail c.rendition c.link)) :
    ∀ c ∈ (r.compose col key width).1.cells, P c := by
  unfold compose
  split
  · exact h
  · rename_i c hc
    refine forall_modify ?_ (fun c hc => hset c _ hc) _
    split
    · exact forall_setIfInBounds (forall_splitAt hb h _)
        (htail c (h c (Array.mem_of_getElem? hc))) _
    · exact h

theorem forall_fit (hb : ∀ b, P (.blank b)) (h : ∀ c ∈ r.cells, P c) (cols : Nat) :
    ∀ c ∈ (r.fit cols).cells, P c := by
  unfold fit
  split
  · exact forall_eraseIf hb (forall_extract h _ _) _ _
  · exact forall_append h (forall_blanks hb _ .default)

end

/-! ## Validity -/

/-- What every row of a screen with `cols` columns keeps to. -/
structure Valid (cols : Nat) (r : Row) : Prop where
  size : r.cells.size = cols
  whole : Whole r.cells
  /-- Only left halves and narrow cells name a glyph. -/
  tail_key : ∀ c ∈ r.cells, c.extent = .tail → c.key = 0

theorem Valid.paired {cols : Nat} {r : Row} (h : Valid cols r) : Paired (extentAt r.cells) :=
  whole_iff_paired.1 h.whole

/-- Marks and flags of a row do not matter. -/
theorem Valid.of_cells {cols : Nat} {r r' : Row} (h : Valid cols r) (hc : r'.cells = r.cells) :
    Valid cols r' :=
  ⟨hc ▸ h.size, hc ▸ h.whole, hc ▸ h.tail_key⟩

theorem blank_ne_tail (background : Color) : (Cell.blank background).extent ≠ .tail := by
  simp [Cell.blank]

theorem valid_blank (cols : Nat) (background : Color) (seq : Nat) :
    Valid cols (blank cols background seq) where
  size := by simp [blank]
  whole := whole_iff_paired.2 (paired_blank _ _ _)
  tail_key := forall_blanks (fun b ht => absurd ht (blank_ne_tail b)) _ _

/-- A row filled with one character. -/
theorem valid_filled {cols : Nat} {r : Row} (c : Char)
    (hc : r.cells = Array.replicate cols (.ofChar c)) : Valid cols r := by
  have narrow : ∀ d ∈ r.cells, d.extent = .narrow := by
    intro d hd
    rw [hc] at hd
    rw [Array.eq_of_mem_replicate hd]
    rfl
  constructor
  · simp [hc]
  · exact whole_iff_glyphs.2 (glyphs_of_narrow fun d hd => narrow d (Array.mem_def.2 hd))
  · intro d hd ht
    rw [narrow d hd] at ht
    exact absurd ht (by decide)

section

variable {cols : Nat} {r : Row}

theorem Valid.reset (h : Valid cols r) (background : Color) (seq : Nat) :
    Valid cols (r.reset background seq) := by
  rw [Row.reset, h.size]
  exact valid_blank cols background seq

theorem Valid.eraseRange (h : Valid cols r) (first last : Nat) (background : Color) :
    Valid cols (r.eraseRange first last background) where
  size := (size_eraseRange ..).trans h.size
  whole := whole_iff_paired.2 (paired_eraseRange h.paired ..)
  tail_key := forall_eraseRange (fun b ht => absurd ht (blank_ne_tail b)) h.tail_key _ _ _

theorem Valid.insertBlanks (h : Valid cols r) (col n : Nat) (background : Color) :
    Valid cols (r.insertBlanks col n background) where
  size := (size_insertBlanks ..).trans h.size
  whole := whole_iff_paired.2 (paired_insertBlanks h.paired ..)
  tail_key := forall_insertBlanks (fun b ht => absurd ht (blank_ne_tail b)) h.tail_key _ _ _

theorem Valid.deleteCells (h : Valid cols r) (col n : Nat) (background : Color) :
    Valid cols (r.deleteCells col n background) where
  size := (size_deleteCells ..).trans h.size
  whole := whole_iff_paired.2 (paired_deleteCells h.paired ..)
  tail_key := forall_deleteCells (fun b ht => absurd ht (blank_ne_tail b)) h.tail_key _ _ _

theorem ofWidth_ne_tail (width : Nat) : Extent.ofWidth width ≠ .tail := by
  unfold Extent.ofWidth
  split <;> decide

theorem Valid.write (h : Valid cols r) {col width : Nat} (key : Nat) (rendition : Rendition)
    (link : Nat) (hc : col + (if width = 2 then 2 else 1) ≤ cols) :
    Valid cols (r.write col key width rendition link) where
  size := (size_write ..).trans h.size
  whole := whole_iff_paired.2 (paired_write h.paired _ _ _ (by rwa [h.size]))
  tail_key := forall_write (fun b ht => absurd ht (blank_ne_tail b)) h.tail_key _ _ _ _ _
    (fun ht => absurd ht (ofWidth_ne_tail width)) (fun _ => rfl)

/-- Composing needs a glyph to compose with: a right half names none. -/
theorem Valid.compose (h : Valid cols r) {col : Nat} (key width : Nat)
    (hc : ∀ c, r.cells[col]? = some c → c.key ≠ 0) :
    Valid cols (r.compose col key width).1 where
  size := (size_compose ..).trans h.size
  whole := by
    refine whole_iff_paired.2 (paired_compose h.paired _ _ _ fun ht => ?_)
    obtain ⟨c, hcol, hext⟩ := (extentAt_eq (by decide)).1 ht
    exact hc c hcol (h.tail_key c (Array.mem_of_getElem? hcol) hext)
  tail_key := forall_compose (fun b ht => absurd ht (blank_ne_tail b)) h.tail_key _ _ _
    (fun _ width _ ht => absurd ht (ofWidth_ne_tail width)) (fun _ _ _ => rfl)

theorem Valid.fit (h : Valid cols r) {cols' : Nat} (hc : 0 < cols') :
    Valid cols' (r.fit cols') where
  size := size_fit r cols'
  whole := whole_iff_paired.2 (paired_fit h.paired _ hc)
  tail_key := forall_fit (fun b ht => absurd ht (blank_ne_tail b)) h.tail_key _

end

end Row

end Teletype
