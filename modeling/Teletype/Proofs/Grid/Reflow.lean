import Mathlib.Data.List.DropRight
import Teletype.Grid.Reflow
import Teletype.Proofs.Row.Valid

/-!
# Reflow makes valid rows

Cutting a line of whole glyphs fills rows of the new width, none with half a glyph, and the cursor
ends up on one of them.
-/

namespace Teletype.Reflow

/-- Whole glyphs, whose right halves name no glyph of their own. -/
structure Sound (cells : List Cell) : Prop where
  glyphs : Row.Glyphs cells
  tail_key : ∀ c ∈ cells, c.extent = .tail → c.key = 0

theorem sound_nil : Sound [] := ⟨.nil, by simp⟩

theorem Sound.append {a b : List Cell} (ha : Sound a) (hb : Sound b) : Sound (a ++ b) where
  glyphs := ha.glyphs.append hb.glyphs
  tail_key := by
    intro c hc
    rcases List.mem_append.1 hc with hc | hc
    · exact ha.tail_key c hc
    · exact hb.tail_key c hc

theorem sound_of_narrow {l : List Cell} (h : ∀ c ∈ l, c.extent = .narrow) : Sound l where
  glyphs := Row.glyphs_of_narrow h
  tail_key := by
    intro c hc ht
    rw [h c hc] at ht
    exact absurd ht (by decide)

theorem sound_of_valid {cols : Nat} {r : Row} (h : r.Valid cols) :
    Sound r.cells.toList :=
  ⟨Row.whole_iff_glyphs.1 h.whole, fun c hc => h.tail_key c (Array.mem_def.2 hc)⟩

theorem isEmpty_key {c : Cell} (h : c.isEmpty = true) : c.key = 0x20 := by
  simp only [Cell.isEmpty, Cell.isBlank, Bool.and_eq_true, decide_eq_true_eq] at h
  exact h.1.1.1.1

/-- A right half is not empty: its key is not that of a space. -/
theorem Sound.not_tail {l : List Cell} (h : Sound l) {c : Cell} (hc : c ∈ l) (he : c.isEmpty) :
    c.extent ≠ .tail := by
  intro ht
  have hzero := h.tail_key c hc ht
  rw [isEmpty_key he] at hzero
  exact absurd hzero (by decide)

/-- Glyphs of which nothing shows are narrow. -/
theorem Sound.narrow {l : List Cell} (h : Sound l) (he : ∀ c ∈ l, c.isEmpty) :
    ∀ c ∈ l, c.extent = .narrow := by
  intro c hc
  cases hx : c.extent with
  | narrow => rfl
  | tail => exact absurd hx (h.not_tail hc (he c hc))
  | head =>
    obtain ⟨i, hi⟩ := List.mem_iff_getElem?.1 hc
    have whole : Row.Whole l.toArray := Row.whole_iff_glyphs.2 h.glyphs
    obtain ⟨d, hd, ht⟩ := whole.next i c (by simpa using hi) (by simpa [Cell.isHead] using hx)
    have mem : d ∈ l := List.mem_of_getElem? (by simpa using hd)
    exact absurd (by simpa [Cell.isTail] using ht) (h.not_tail mem (he d mem))

/-- Empty cells at the end can be parted from the glyphs before them. -/
theorem Sound.of_append {a e : List Cell} (h : Sound (a ++ e)) (he : ∀ c ∈ e, c.isEmpty) :
    Sound a ∧ Sound e := by
  obtain ⟨ha, he'⟩ := h.glyphs.of_append fun c hc =>
    have mem := List.mem_of_mem_head? hc
    h.not_tail (List.mem_append_right _ mem) (he c mem)
  exact ⟨⟨ha, fun c hc => h.tail_key c (List.mem_append_left _ hc)⟩,
    ⟨he', fun c hc => h.tail_key c (List.mem_append_right _ hc)⟩⟩

theorem Sound.row {cols : Nat} {r : Row} (h : Sound r.cells.toList) (hsize : r.cells.size = cols) :
    r.Valid cols :=
  ⟨hsize, Row.whole_iff_glyphs.2 h.glyphs, fun c hc => h.tail_key c (Array.mem_def.1 hc)⟩

namespace Cutting

/-- What cutting after `start` rows keeps to: finished rows are valid, the row being filled does not
overflow, and the cursor is on one of them. -/
structure Valid (cols start : Nat) (s : Cutting) : Prop where
  start_le : start ≤ s.rows.size
  rows : ∀ r ∈ s.rows, r.Valid cols
  current : Sound s.current.toList
  size : s.current.size ≤ cols
  cursor : ∀ p ∈ s.cursor, p.line ≤ s.rows.size

variable {cols start : Nat} {s : Cutting}

theorem Valid.placeCursor (h : Valid cols start s) (back : Nat) :
    Valid cols start (s.placeCursor back) where
  start_le := h.start_le
  rows := h.rows
  current := h.current
  size := h.size
  cursor := by
    rintro p hp
    obtain rfl := Option.mem_some.1 hp
    exact Nat.le_refl _

theorem Valid.finishRow (h : Valid cols start s) (wrapped : Bool) :
    Valid cols start (s.finishRow cols wrapped) where
  start_le := by
    have := h.start_le
    simp only [Cutting.finishRow, Array.size_push]
    omega
  rows := by
    intro r hr
    rcases Array.mem_push.1 hr with hr | rfl
    · exact h.rows r hr
    · refine Sound.row ?_ ?_
      · simp only [Array.toList_append, Array.toList_replicate]
        refine h.current.append (sound_of_narrow fun c hc => ?_)
        rw [List.eq_of_mem_replicate hc]
      · have := h.size
        simp
        omega
  current := sound_nil
  size := Nat.zero_le _
  cursor := by
    intro p hp
    have := h.cursor p hp
    simp [Cutting.finishRow]
    omega

theorem Valid.makeRoom (h : Valid cols start s) (width : Nat) :
    Valid cols start (s.makeRoom cols width) := by
  unfold Cutting.makeRoom
  split
  · exact h.finishRow true
  · exact h

/-- After room was made, a glyph fits into the row being filled. -/
theorem size_makeRoom {width : Nat} (hw : width ≤ cols) :
    (s.makeRoom cols width).current.size + width ≤ cols := by
  unfold makeRoom
  split
  · simpa [finishRow] using hw
  · omega

theorem Valid.add (h : Valid cols start s) {c : Cell} (hc : c.extent = .narrow)
    (hfit : s.current.size + 1 ≤ cols) : Valid cols start (s.add c) where
  start_le := h.start_le
  rows := h.rows
  current := by
    simp only [Cutting.add, Array.toList_push]
    exact h.current.append (sound_of_narrow (by simpa using hc))
  size := by simpa [Cutting.add] using hfit
  cursor := h.cursor

theorem Valid.add_wide (h : Valid cols start s) {c d : Cell} (hc : c.extent = .head)
    (hd : d.extent = .tail) (hkey : d.key = 0) (hfit : s.current.size + 2 ≤ cols) :
    Valid cols start ((s.add c).add d) where
  start_le := h.start_le
  rows := h.rows
  current := by
    simp only [Cutting.add, Array.toList_push, List.append_assoc]
    refine h.current.append ⟨.wide hc hd .nil, ?_⟩
    intro e he ht
    rcases List.mem_cons.1 he with rfl | he
    · rw [hc] at ht
      exact absurd ht (by decide)
    · rw [List.mem_singleton.1 he]
      exact hkey
  size := by
    simp only [Cutting.add, Array.size_push]
    exact hfit
  cursor := h.cursor

theorem Valid.place_if (h : Valid cols start s) (p : Prop) [Decidable p] (back : Nat) :
    Valid cols start (if p then s.placeCursor back else s) := by
  split
  · exact h.placeCursor back
  · exact h

/-- Placing the cursor leaves the row being filled as it is. -/
theorem current_placed (s : Cutting) (p : Prop) [Decidable p] (back : Nat) :
    (if p then s.placeCursor back else s).current = s.current := by
  split <;> rfl

theorem cells_narrow {c : Cell} (hc : c.extent = .narrow) (target : Option Nat) (i : Nat)
    (l : List Cell) :
    cells cols target i s (c :: l) =
      let s := s.makeRoom cols 1
      let s := if target = some i then s.placeCursor 0 else s
      cells cols target (i + 1) (s.add c) l := by
  rw [cells]
  simp [Cell.isTail, Cell.isHead, hc]

theorem cells_wide {c d : Cell} (hc : c.extent = .head) (hcols : 2 ≤ cols) (target : Option Nat)
    (i : Nat) (l : List Cell) :
    cells cols target i s (c :: d :: l) =
      let s := s.makeRoom cols 2
      let s := if target = some i then s.placeCursor 0 else s
      let s := (s.add c).add d
      let s := if target = some (i + 1) then s.placeCursor 1 else s
      cells cols target (i + 2) s l := by
  rw [cells]
  simp [Cell.isTail, Cell.isHead, hc, hcols]

theorem cells_wide_erased {c d : Cell} (hc : c.extent = .head) (hcols : cols < 2)
    (target : Option Nat) (i : Nat) (l : List Cell) :
    cells cols target i s (c :: d :: l) =
      let s := s.makeRoom cols 1
      let s := if target = some i then s.placeCursor 0 else s
      cells cols target (i + 2) (s.add c.eraseKept) l := by
  have : ¬2 ≤ cols := by omega
  rw [cells]
  simp [Cell.isTail, Cell.isHead, hc, this]

theorem Valid.cells (h : Valid cols start s) (hcols : 0 < cols) (target : Option Nat) (i : Nat)
    {l : List Cell} (hl : Sound l) : Valid cols start (cells cols target i s l) := by
  obtain ⟨hglyphs, hkey⟩ := hl
  induction hglyphs generalizing i s with
  | nil =>
    rw [Cutting.cells]
    exact h
  | @narrow c l hc hg ih =>
    have hkey' : ∀ c ∈ l, c.extent = .tail → c.key = 0 :=
      fun c hc => hkey c (List.mem_cons_of_mem _ hc)
    have placed := (h.makeRoom 1).place_if (target = some i) 0
    rw [cells_narrow hc]
    refine ih (placed.add hc ?_) (i + 1) hkey'
    rw [current_placed]
    exact size_makeRoom hcols
  | @wide c d l hc hd hg ih =>
    have hkey' : ∀ c ∈ l, c.extent = .tail → c.key = 0 :=
      fun c hc => hkey c (List.mem_cons_of_mem _ (List.mem_cons_of_mem _ hc))
    by_cases h2 : 2 ≤ cols
    · have placed := (h.makeRoom 2).place_if (target = some i) 0
      rw [cells_wide hc h2]
      refine ih ((placed.add_wide hc hd (hkey d (by simp) hd) ?_).place_if _ 1) (i + 2) hkey'
      rw [current_placed]
      exact size_makeRoom h2
    · have placed := (h.makeRoom 1).place_if (target = some i) 0
      rw [cells_wide_erased hc (by omega)]
      refine ih (placed.add (c := c.eraseKept) rfl ?_) (i + 2) hkey'
      rw [current_placed]
      exact size_makeRoom hcols

theorem Valid.placeBeyond (h : Valid cols start s) (col : Nat) :
    Valid cols start (s.placeBeyond cols col) := by
  fun_induction Cutting.placeBeyond s cols col with
  | case1 s col hc ih => exact ih (h.finishRow true)
  | case2 s col hc =>
    refine ⟨h.start_le, h.rows, h.current, h.size, fun p hp => ?_⟩
    obtain rfl := Option.mem_some.1 hp
    exact Nat.le_refl _

end Cutting

/-- Cutting a line adds at least one row, and the cursor is on one of the rows. -/
theorem cutLine_valid {cols : Nat} (hcols : 0 < cols) {line : List Cell} (hl : Sound line)
    (target : Option Nat) {rows : Array Row} (hr : ∀ r ∈ rows, r.Valid cols) :
    (∀ r ∈ (cutLine cols line target rows).1, r.Valid cols) ∧
      rows.size < (cutLine cols line target rows).1.size ∧
      ∀ p ∈ (cutLine cols line target rows).2, p.line < (cutLine cols line target rows).1.size := by
  have init : Cutting.Valid cols rows.size { rows := rows } :=
    ⟨Nat.le_refl _, hr, sound_nil, Nat.zero_le _, fun p hp => absurd hp (by simp)⟩
  have cut := init.cells hcols target 0 hl
  have finished (s : Cutting) (h : s.Valid cols rows.size) :
      (∀ r ∈ (s.finishRow cols false).rows, r.Valid cols) ∧
        rows.size < (s.finishRow cols false).rows.size ∧
        ∀ p ∈ (s.finishRow cols false).cursor, p.line < (s.finishRow cols false).rows.size := by
    have := h.start_le
    refine ⟨(h.finishRow false).rows, ?_, fun p hp => ?_⟩
    · simp only [Cutting.finishRow, Array.size_push]
      omega
    · have := h.cursor p hp
      simp only [Cutting.finishRow, Array.size_push]
      omega
  unfold cutLine
  dsimp only
  split
  · exact finished _ (cut.placeBeyond _)
  · exact finished _ cut

namespace Joining

/-- What joining keeps to. Before the cursor's line is cut, its place is the first. -/
structure Valid (cols : Nat) (s : Joining) : Prop where
  rows : ∀ r ∈ s.rows, r.Valid cols
  line : Sound s.line.toList
  cursor : s.cursor.line = 0 ∨ s.cursor.line < s.rows.size

variable {cols : Nat} {s : Joining}

/-- How many cells of the line the cursor keeps from being left out. -/
def kept (s : Joining) : Nat :=
  match s.target with
  | some index => index + 1
  | none => 0

theorem trimmed_eq (s : Joining) :
    s.trimmed = s.line.toList.take s.kept ++ (s.line.toList.drop s.kept).rdropWhile Cell.isEmpty :=
  rfl

/-- Only empty cells are left out at the end. -/
theorem trimmed_append (s : Joining) :
    s.line.toList = s.trimmed ++ (s.line.toList.drop s.kept).rtakeWhile Cell.isEmpty := by
  rw [trimmed_eq, List.append_assoc, List.rdropWhile_append_rtakeWhile, List.take_append_drop]

theorem sound_trimmed (h : Sound s.line.toList) : Sound s.trimmed := by
  rw [trimmed_append] at h
  exact (h.of_append fun c hc => List.mem_rtakeWhile_imp hc).1

theorem Valid.cut (h : Valid cols s) (hcols : 0 < cols) {line : List Cell} (hl : Sound line) :
    Valid cols (s.cut cols line) ∧ s.rows.size < (s.cut cols line).rows.size := by
  obtain ⟨hrows, hgrown, hplace⟩ := cutLine_valid hcols hl s.target h.rows
  refine ⟨⟨hrows, h.line, ?_⟩, hgrown⟩
  unfold Joining.cut
  dsimp only
  cases hp : (cutLine cols line s.target s.rows).2 with
  | none =>
    rcases h.cursor with hc | hc
    · exact .inl hc
    · exact .inr (Nat.lt_trans hc hgrown)
  | some p => exact .inr (hplace p hp)

theorem Valid.markPrompt (h : Valid cols s) (index : Nat) : Valid cols (s.markPrompt index) where
  rows := by
    show ∀ r ∈ s.rows.modify index ({ · with prompt := s.prompt }), r.Valid cols
    refine forall_mem_modify h.rows fun r hr => ?_
    exact (h.rows r (Array.mem_of_getElem? hr)).of_cells rfl
  line := h.line
  cursor := by simpa [Joining.markPrompt] using h.cursor

/-- The line with one more row, before it is known whether the text goes on. -/
def extend (s : Joining) (row : Row) (cursor : Option Nat) : Joining :=
  { s with
    line := s.line ++ row.cells
    prompt := if s.line.isEmpty && s.target.isNone then row.prompt else s.prompt
    target := (cursor.map (s.line.size + ·)).or s.target }

theorem addRow_eq (s : Joining) (row : Row) (cursor : Option Nat) :
    s.addRow cols row cursor =
      let s := s.extend row cursor
      if row.wrapped then s
      else
        let next := (s.cut cols s.trimmed).markPrompt s.rows.size
        { rows := next.rows, cursor := next.cursor } := by
  unfold Joining.addRow extend
  by_cases hp : (s.line.isEmpty && s.target.isNone) = true <;> cases cursor <;> simp [hp]

theorem Valid.extend (h : Valid cols s) {row : Row} {oldCols : Nat} (hr : row.Valid oldCols)
    (cursor : Option Nat) : Valid cols (s.extend row cursor) where
  rows := h.rows
  line := by
    simp only [Joining.extend, Array.toList_append]
    exact h.line.append (sound_of_valid hr)
  cursor := h.cursor

theorem Valid.addRow (h : Valid cols s) (hcols : 0 < cols) {row : Row} {oldCols : Nat}
    (hr : row.Valid oldCols) (hold : 0 < oldCols) (cursor : Option Nat) :
    Valid cols (s.addRow cols row cursor) ∧
      (0 < (s.addRow cols row cursor).rows.size ∨ 0 < (s.addRow cols row cursor).line.size) := by
  have hext := h.extend hr cursor
  rw [addRow_eq]
  dsimp only
  split
  · refine ⟨hext, .inr ?_⟩
    have := hr.size
    simp only [Joining.extend, Array.size_append]
    omega
  · obtain ⟨hcut, hgrown⟩ := hext.cut hcols (sound_trimmed hext.line)
    have hmarked := hcut.markPrompt (s.extend row cursor).rows.size
    refine ⟨⟨hmarked.rows, sound_nil, hmarked.cursor⟩, .inl ?_⟩
    simp only [Joining.markPrompt, Array.size_modify]
    omega

theorem Valid.finish (h : Valid cols s) (hcols : 0 < cols)
    (hsome : 0 < s.rows.size ∨ 0 < s.line.size) :
    Valid cols (s.finish cols) ∧ 0 < (s.finish cols).rows.size := by
  unfold Joining.finish
  split
  · rename_i hline
    simp only [Bool.and_eq_true, Array.isEmpty_iff_size_eq_zero] at hline
    exact ⟨h, by omega⟩
  · obtain ⟨hcut, hgrown⟩ := h.cut hcols h.line
    exact ⟨hcut, by omega⟩

end Joining

/-- Joining rows one after the other; some text is there as soon as one row was joined. -/
theorem foldl_addRow_valid {oldCols cols : Nat} (hold : 0 < oldCols) (hcols : 0 < cols)
    (cursor : Row × Nat → Option Nat) {l : List (Row × Nat)} (hl : ∀ e ∈ l, e.1.Valid oldCols)
    {s : Joining} (h : s.Valid cols) (hsome : l ≠ [] ∨ 0 < s.rows.size ∨ 0 < s.line.size) :
    let joined := l.foldl (fun s e => s.addRow cols e.1 (cursor e)) s
    joined.Valid cols ∧ (0 < joined.rows.size ∨ 0 < joined.line.size) := by
  induction l generalizing s with
  | nil => exact ⟨h, hsome.resolve_left (by simp)⟩
  | cons e l ih =>
    obtain ⟨hadd, hgrown⟩ := h.addRow hcols (hl e List.mem_cons_self) hold (cursor e)
    exact ih (fun e he => hl e (List.mem_cons_of_mem _ he)) hadd (.inr hgrown)

/-- Reflow gives valid rows, and the cursor is on one of them. -/
theorem rows_valid {oldCols cols : Nat} (hold : 0 < oldCols) (hcols : 0 < cols) {old : List Row}
    (hr : ∀ r ∈ old, r.Valid oldCols) (hne : old ≠ []) (cursor : Place) :
    (∀ r ∈ (rows old cols cursor).1, r.Valid cols) ∧
      (rows old cols cursor).2.line < (rows old cols cursor).1.length := by
  have start : Joining.Valid cols {} := ⟨by simp, sound_nil, .inl rfl⟩
  have entries : ∀ e ∈ old.zipIdx, e.1.Valid oldCols :=
    fun e he => hr _ (List.fst_mem_of_mem_zipIdx he)
  obtain ⟨hjoined, hsome⟩ := foldl_addRow_valid hold hcols
    (fun e => if e.2 = cursor.line then some cursor.col else none) entries start
    (.inl (by simpa using hne))
  obtain ⟨hfinished, hpos⟩ := hjoined.finish hcols hsome
  refine ⟨fun r hmem => hfinished.rows r (Array.mem_def.2 hmem), ?_⟩
  rcases hfinished.cursor with hc | hc
  · exact hc ▸ hpos
  · exact hc

end Teletype.Reflow
