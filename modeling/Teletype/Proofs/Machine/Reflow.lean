import Mathlib.Algebra.Group.Nat.Defs
import Teletype.Proofs.Grid.Reflow
import Teletype.Proofs.Machine.Word

/-!
# Reflow in machine words

Cells are counted along a logical line and rows along the text. Neither becomes more than what the
rows before the reflow can hold, so all of them can be counted.
-/

namespace Teletype.Reflow

open Machine

namespace Cutting

/-- Cuts the cells of a line that has `size` of them, of which the first is at index `i`. -/
def checkedCells (size cols : Nat) (target : Option Nat) (i : Nat) (s : Cutting) :
    List Cell → Option Cutting
  | [] => some s
  | c :: rest => do
    index i size
    if c.isTail then
      let s := if target = some i && s.cursor.isNone then s.placeCursor 1 else s
      let next ← Machine.add .usize i 1
      checkedCells size cols target next s rest
    else if c.isHead && 2 ≤ cols then
      let _ ← Machine.add .usize s.current.size 2
      let s := s.makeRoom cols 2
      let s := if target = some i then s.placeCursor 0 else s
      let _ ← Machine.add .usize i 1
      let s := (s.add c).add (rest.head?.getD (.tail c.rendition 0))
      let next ← Machine.add .usize i 2
      let second ← sub next 1
      when (target = some second) (forget (sub s.current.size 1))
      let s := if target = some second then s.placeCursor 1 else s
      checkedCells size cols target next s rest.tail
    else
      let _ ← Machine.add .usize s.current.size 1
      let s := s.makeRoom cols 1
      let s := if target = some i then s.placeCursor 0 else s
      if c.isHead then
        let next ← Machine.add .usize i 2
        checkedCells size cols target next (s.add c.eraseKept) rest.tail
      else
        let next ← Machine.add .usize i 1
        checkedCells size cols target next (s.add c) rest
termination_by l => l.length
decreasing_by all_goals (simp only [List.length_cons, List.length_tail]; omega)

variable {cols : Nat} {s : Cutting}

/-- A glyph of two columns takes the cell after its own, if there is one. -/
theorem index_tail {i size : Nat} {c : Cell} {rest : List Cell} (h : i + (c :: rest).length = size)
    (hne : rest.tail ≠ []) : i + 2 + rest.tail.length = size := by
  have pos := List.length_pos_iff.2 hne
  rw [List.length_tail] at pos ⊢
  rw [List.length_cons] at h
  omega

/-- The index of a cell is counted as far as the line goes, and a row is never filled beyond its
end. -/
theorem checkedCells_eq {size : Nat} (hsize : size ≤ 2 ^ 63) (hcols : 0 < cols)
    (hcols' : cols ≤ 65535) (target : Option Nat) {i : Nat} (hs : s.current.size ≤ cols)
    {l : List Cell} (hl : l ≠ [] → i + l.length = size) :
    checkedCells size cols target i s l = some (cells cols target i s l) ∧
      (cells cols target i s l).current.size ≤ cols := by
  fun_induction cells cols target i s l with
  | case1 =>
    rw [checkedCells]
    exact ⟨rfl, hs⟩
  | case2 i s c rest htail s' ih =>
    have line := hl (List.cons_ne_nil c rest)
    have current : s'.current = s.current := current_placed _ _ _
    rw [List.length_cons] at line
    obtain ⟨steps, fill⟩ := ih (current ▸ hs) fun _ => by omega
    refine ⟨?_, fill⟩
    rw [checkedCells]
    refine bind_eq (index_of_lt (by omega)) ?_
    rw [if_pos htail]
    exact bind_eq (add_usize (by omega)) steps
  | case3 i s c rest htail hwide s₁ s₂ s₃ s₄ ih =>
    have line := hl (List.cons_ne_nil c rest)
    have two : 2 ≤ cols := by
      simp only [Bool.and_eq_true, decide_eq_true_eq] at hwide
      exact hwide.2
    have room : s₁.current.size + 2 ≤ cols := size_makeRoom two
    have placed : s₂.current = s₁.current := current_placed _ _ _
    have added : s₃.current.size = s₁.current.size + 2 := by
      rw [← placed]
      simp [s₃, add]
    have current : s₄.current = s₃.current := current_placed _ _ _
    obtain ⟨steps, fill⟩ := ih (by rw [current]; omega) (index_tail line)
    rw [List.length_cons] at line
    refine ⟨?_, fill⟩
    rw [checkedCells]
    refine bind_eq (index_of_lt (by omega)) ?_
    rw [if_neg htail, if_pos hwide]
    refine bind_eq (add_usize (by omega)) (bind_eq (add_usize (by omega)) ?_)
    refine bind_eq (add_usize (by omega)) (bind_eq (sub_of_le (by omega)) ?_)
    refine bind_eq (when_of_imp fun _ => forget_of_eq (sub_of_le ?_)) steps
    show 1 ≤ s₃.current.size
    omega
  | case4 i s c rest htail hwide s₁ s₂ hhead ih =>
    have line := hl (List.cons_ne_nil c rest)
    have room : s₁.current.size + 1 ≤ cols := size_makeRoom hcols
    have placed : s₂.current = s₁.current := current_placed _ _ _
    obtain ⟨steps, fill⟩ := ih (by simpa [add, placed] using room) (index_tail line)
    rw [List.length_cons] at line
    refine ⟨?_, fill⟩
    rw [checkedCells]
    refine bind_eq (index_of_lt (by omega)) ?_
    rw [if_neg htail, if_neg hwide]
    refine bind_eq (add_usize (by omega)) ?_
    rw [if_pos hhead]
    exact bind_eq (add_usize (by omega)) steps
  | case5 i s c rest htail hwide s₁ s₂ hhead ih =>
    have line := hl (List.cons_ne_nil c rest)
    rw [List.length_cons] at line
    have room : s₁.current.size + 1 ≤ cols := size_makeRoom hcols
    have placed : s₂.current = s₁.current := current_placed _ _ _
    obtain ⟨steps, fill⟩ := ih (by simpa [add, placed] using room) fun _ => by omega
    refine ⟨?_, fill⟩
    rw [checkedCells]
    refine bind_eq (index_of_lt (by omega)) ?_
    rw [if_neg htail, if_neg hwide]
    refine bind_eq (add_usize (by omega)) ?_
    rw [if_neg hhead]
    exact bind_eq (add_usize (by omega)) steps

/-- How much was cut: the finished rows and the cells of the row being filled. -/
def weight (s : Cutting) : Nat := s.rows.size + s.current.size

/-- A row is finished only when it has cells. -/
theorem weight_makeRoom {width : Nat} (hw : width ≤ cols) :
    (s.makeRoom cols width).weight ≤ s.weight := by
  unfold makeRoom weight
  split
  · simp only [finishRow, Array.size_push, Array.size_empty]
    omega
  · exact Nat.le_refl _

theorem weight_placed (s : Cutting) (p : Prop) [Decidable p] (back : Nat) :
    (if p then s.placeCursor back else s).weight = s.weight := by
  split <;> rfl

theorem weight_add (s : Cutting) (c : Cell) : (s.add c).weight = s.weight + 1 := by
  simp [weight, add, Nat.add_assoc]

/-- Every cell makes one row at most, and the glyph at the end of a line may lack its second
half. -/
theorem weight_cells (hcols : 0 < cols) (target : Option Nat) (i : Nat) (s : Cutting)
    (l : List Cell) : (cells cols target i s l).weight ≤ s.weight + 2 * l.length := by
  fun_induction cells cols target i s l with
  | case1 => exact Nat.le_add_right _ _
  | case2 i s c rest htail s' ih =>
    have same : s'.weight = s.weight := weight_placed _ _ _
    rw [List.length_cons]
    omega
  | case3 i s c rest htail hwide s₁ s₂ s₃ s₄ ih =>
    have two : 2 ≤ cols := by
      simp only [Bool.and_eq_true, decide_eq_true_eq] at hwide
      exact hwide.2
    have room : s₁.weight ≤ s.weight := weight_makeRoom two
    have placed : s₂.weight = s₁.weight := weight_placed _ _ _
    have added : s₃.weight = s₂.weight + 2 := by
      unfold s₃
      rw [weight_add, weight_add]
    have same : s₄.weight = s₃.weight := weight_placed _ _ _
    rw [List.length_cons]
    rw [List.length_tail] at ih
    omega
  | case4 i s c rest htail hwide s₁ s₂ hhead ih =>
    have room : s₁.weight ≤ s.weight := weight_makeRoom hcols
    have placed : s₂.weight = s₁.weight := weight_placed _ _ _
    rw [weight_add, List.length_tail] at ih
    rw [List.length_cons]
    omega
  | case5 i s c rest htail hwide s₁ s₂ hhead ih =>
    have room : s₁.weight ≤ s.weight := weight_makeRoom hcols
    have placed : s₂.weight = s₁.weight := weight_placed _ _ _
    rw [weight_add] at ih
    rw [List.length_cons]
    omega

theorem rows_placeBeyond (s : Cutting) (cols col : Nat) :
    (s.placeBeyond cols col).rows.size ≤ s.rows.size + col := by
  fun_induction placeBeyond s cols col with
  | case1 s col hcol ih =>
    have finished : (s.finishRow cols true).rows.size = s.rows.size + 1 := Array.size_push _
    omega
  | case2 s col hcol => exact Nat.le_add_right _ _

/-- The column of a cursor beyond the row being filled is brought back row by row. -/
def wrapSteps (cols col : Nat) : Option Unit :=
  if 0 < cols ∧ cols ≤ col then do
    let _ ← sub col cols
    wrapSteps cols (col - cols)
  else some ()
termination_by col

theorem wrapSteps_eq (cols col : Nat) : wrapSteps cols col = some () := by
  fun_induction wrapSteps cols col with
  | case1 col hcol ih => exact bind_eq (sub_of_le hcol.2) ih
  | case2 col hcol => rfl

end Cutting

/-- Where a cursor is that cutting did not come across. -/
def beyondSteps (cols size : Nat) (s : Cutting) : Option Nat → Option Unit
  | some target => when (s.cursor = none) do
    Cutting.wrapSteps cols (← Machine.add .usize s.current.size (target - size))
  | none => some ()

def checkedCutLine (cols : Nat) (line : List Cell) (target : Option Nat) (rows : Array Row) :
    Option (Array Row × Option Place) := do
  let s ← Cutting.checkedCells line.length cols target 0 { rows := rows } line
  beyondSteps cols line.length s target
  return cutLine cols line target rows

theorem checkedCutLine_eq {cols : Nat} (hcols : 0 < cols) (hcols' : cols ≤ 65535) (line : List Cell)
    (hline : line.length ≤ 2 ^ 63) {target : Option Nat}
    (htarget : ∀ index ∈ target, index ≤ 2 ^ 63) (rows : Array Row) :
    checkedCutLine cols line target rows = some (cutLine cols line target rows) := by
  obtain ⟨cut, fill⟩ := Cutting.checkedCells_eq (s := { rows := rows }) hline hcols hcols' target
    (Nat.zero_le cols) (i := 0) (l := line) fun _ => Nat.zero_add _
  refine bind_eq cut (bind_eq (a := ()) ?_ rfl)
  cases target with
  | none => rfl
  | some index =>
    have := htarget index rfl
    refine when_of_imp fun _ => bind_eq (add_usize (by omega)) ?_
    exact Cutting.wrapSteps_eq _ _

/-- How many rows a line can become: the cursor is on it or lies beyond it by so much. -/
theorem size_cutLine {cols : Nat} (hcols : 0 < cols) (line : List Cell) (target : Option Nat)
    (rows : Array Row) :
    (cutLine cols line target rows).1.size ≤
      rows.size + 2 * line.length + (target.getD 0 - line.length) + 1 := by
  have cut := Cutting.weight_cells hcols target 0 { rows := rows } line
  have start : ({ rows := rows } : Cutting).weight = rows.size := rfl
  have finished (s : Cutting) : (s.finishRow cols false).rows.size = s.rows.size + 1 :=
    Array.size_push _
  unfold Cutting.weight at cut start
  unfold cutLine
  dsimp only
  rw [finished]
  generalize Cutting.cells cols target 0 { rows := rows } line = s at cut
  split
  · rename_i index _
    have beyond := s.rows_placeBeyond cols (s.current.size + (index - line.length))
    rw [Option.getD_some]
    omega
  · omega

namespace Joining

/-- Joins one row, counting where the cursor is on the line if it is on the row. -/
def checkedAddRow (cols : Nat) (s : Joining) (row : Row) (cursor : Option Nat) :
    Option Joining := do
  cursor.elim (some ()) fun col => forget (add .usize s.line.size col)
  let joined := s.extend row cursor
  when (row.wrapped = false) do
    joined.target.elim (some ()) fun index => forget (add .usize index 1)
    forget (checkedCutLine cols joined.trimmed joined.target joined.rows)
  return s.addRow cols row cursor

def checkedFinish (cols : Nat) (s : Joining) : Option Joining := do
  when (¬(s.line.isEmpty && s.target.isNone))
    (forget (checkedCutLine cols s.line.toList s.target s.rows))
  return s.finish cols

/-- With `rest` of `count` rows of `width` cells still to come, there are no more cells and rows
than those joined so far account for, and the cursor is on a cell of the line. -/
structure Counted (width count rest : Nat) (s : Joining) : Prop where
  line : s.line.size + rest * width ≤ count * width
  rows : s.rows.size + 2 * s.line.size + rest * (2 * width + 1) ≤ count * (2 * width + 1)
  target : ∀ index ∈ s.target, index < s.line.size

variable {width count rest cols : Nat} {s : Joining} {row : Row} {cursor : Option Nat}

theorem length_trimmed_le (s : Joining) : s.trimmed.length ≤ s.line.size := by
  have split := congrArg List.length s.trimmed_append
  rw [List.length_append, Array.length_toList] at split
  omega

/-- A cursor on the line is not beyond it. -/
theorem getD_sub_eq_zero {target : Option Nat} {size : Nat} (h : ∀ index ∈ target, index < size) :
    target.getD 0 - size = 0 := by
  cases target with
  | none => exact Nat.zero_sub _
  | some index => exact Nat.sub_eq_zero_of_le (Nat.le_of_lt (h index rfl))

/-- The cursor's cell is not left out. -/
theorem lt_length_trimmed {index : Nat} (h : index ∈ s.target) (hline : index < s.line.size) :
    index < s.trimmed.length := by
  have kept : s.kept = index + 1 := by
    rw [Joining.kept, Option.mem_def.1 h]
  rw [trimmed_eq, List.length_append, List.length_take, kept, Array.length_toList]
  omega

/-- One more row counts as one row, whatever is made of it. -/
theorem Counted.extend (h : s.Counted width count (rest + 1)) (hrow : row.cells.size = width)
    (hcursor : ∀ col ∈ cursor, col < width) :
    (s.extend row cursor).line.size + rest * width ≤ count * width ∧
      (s.extend row cursor).rows.size + 2 * (s.extend row cursor).line.size + 1 +
        rest * (2 * width + 1) ≤ count * (2 * width + 1) ∧
      ∀ index ∈ (s.extend row cursor).target, index < (s.extend row cursor).line.size := by
  have size : (s.extend row cursor).line.size = s.line.size + width := by
    simp [Joining.extend, hrow]
  have line := h.line
  have rows := h.rows
  rw [Nat.add_mul] at line rows
  refine ⟨by omega, ?_, fun index hindex => ?_⟩
  · have : (s.extend row cursor).rows = s.rows := rfl
    rw [this]
    omega
  · rw [size]
    cases cursor with
    | none =>
      have := h.target index hindex
      omega
    | some col =>
      obtain rfl := Option.mem_some.1 hindex
      exact Nat.add_lt_add_left (hcursor col rfl) _

theorem size_cut (hcols : 0 < cols) (s : Joining) (line : List Cell) :
    (s.cut cols line).rows.size ≤
      s.rows.size + 2 * line.length + (s.target.getD 0 - line.length) + 1 :=
  size_cutLine hcols line s.target s.rows

theorem Counted.addRow (h : s.Counted width count (rest + 1)) (hcols : 0 < cols)
    (hrow : row.cells.size = width) (hcursor : ∀ col ∈ cursor, col < width) :
    (s.addRow cols row cursor).Counted width count rest := by
  obtain ⟨line, rows, target⟩ := h.extend hrow hcursor
  rw [addRow_eq]
  generalize s.extend row cursor = joined at line rows target ⊢
  dsimp only
  split
  · exact ⟨line, by omega, target⟩
  · have cut := joined.size_cut hcols joined.trimmed
    have kept := joined.length_trimmed_le
    have on : joined.target.getD 0 - joined.trimmed.length = 0 :=
      getD_sub_eq_zero fun index hindex => lt_length_trimmed hindex (target index hindex)
    refine ⟨?_, ?_, fun index hindex => absurd hindex (by simp)⟩
    · simp only [Array.size_empty]
      omega
    · simp only [Joining.markPrompt, Array.size_modify, Array.size_empty]
      omega

/-- Cells and rows that can be addressed can be counted. -/
theorem Counted.checkedAddRow (h : s.Counted width count (rest + 1))
    (hcount : count * width ≤ 2 ^ 62) (hcols : 0 < cols) (hcols' : cols ≤ 65535)
    (hrow : row.cells.size = width) (hcursor : ∀ col ∈ cursor, col < width) :
    s.checkedAddRow cols row cursor = some (s.addRow cols row cursor) := by
  obtain ⟨line, -, target⟩ := h.extend hrow hcursor
  have before := h.line
  rw [Nat.add_mul] at before
  refine bind_eq (a := ()) ?_ (bind_eq (when_of_imp fun _ => ?_) rfl)
  · cases cursor with
    | none => rfl
    | some col =>
      have := hcursor col rfl
      exact forget_of_eq (add_usize (by omega))
  · have kept := (s.extend row cursor).length_trimmed_le
    have cut := checkedCutLine_eq hcols hcols' (s.extend row cursor).trimmed (by omega)
      (fun index hindex => by have := target index hindex; omega) (s.extend row cursor).rows
    refine bind_eq (a := ()) ?_ (forget_of_eq cut)
    · cases htarget : (s.extend row cursor).target with
      | none => rfl
      | some index =>
        have := target index htarget
        exact forget_of_eq (add_usize (by omega))

theorem Counted.checkedFinish (h : s.Counted width count 0) (hcount : count * width ≤ 2 ^ 62)
    (hcols : 0 < cols) (hcols' : cols ≤ 65535) : s.checkedFinish cols = some (s.finish cols) := by
  have line := h.line
  have cut := checkedCutLine_eq hcols hcols' s.line.toList (by rw [Array.length_toList]; omega)
    (fun index hindex => by have := h.target index hindex; omega) s.rows
  exact bind_eq (when_of_imp fun _ => forget_of_eq cut) rfl

theorem Counted.rows_finish (h : s.Counted width count 0) (hcols : 0 < cols) :
    (s.finish cols).rows.size ≤ count * (2 * width + 1) + 1 := by
  have rows := h.rows
  unfold Joining.finish
  split
  · omega
  · have cut := s.size_cut hcols s.line.toList
    have on : s.target.getD 0 - s.line.toList.length = 0 :=
      getD_sub_eq_zero fun index hindex => Array.length_toList ▸ h.target index hindex
    rw [Array.length_toList] at cut on
    omega

end Joining

def checkedRows (old : List Row) (cols : Nat) (cursor : Place) : Option (List Row × Place) := do
  let joined ← old.zipIdx.foldlM
    (fun s (row, i) => s.checkedAddRow cols row (if i = cursor.line then some cursor.col else none))
    ({} : Joining)
  let joined ← joined.checkedFinish cols
  return (joined.rows.toList, joined.cursor)

/-- The text of rows that can be addressed is cut anew without overflow, and the rows that it
becomes can be counted. -/
theorem checkedRows_eq {width cols : Nat} {old : List Row} (hcells : old.length * width ≤ 2 ^ 62)
    (hold : ∀ r ∈ old, r.cells.size = width) (hcols : 0 < cols) (hcols' : cols ≤ 65535)
    (cursor : Place) (hcursor : cursor.col < width) :
    checkedRows old cols cursor = some (rows old cols cursor) ∧
      (rows old cols cursor).1.length ≤ old.length * (2 * width + 1) + 1 := by
  have start : Joining.Counted width old.length old.zipIdx.length {} := by
    rw [List.length_zipIdx]
    exact ⟨by simp, by simp, by simp⟩
  obtain ⟨joined, -, counted⟩ := foldlM_eq
    (fun l (s : Joining) => (∀ e ∈ l, e.1.cells.size = width) ∧ s.Counted width old.length l.length)
    (s := fun s e => s.checkedAddRow cols e.1 (if e.2 = cursor.line then some cursor.col else none))
    (f := fun s e => s.addRow cols e.1 (if e.2 = cursor.line then some cursor.col else none))
    (fun s e l ⟨hl, h⟩ => by
      have place : ∀ col ∈ (if e.2 = cursor.line then some cursor.col else none), col < width := by
        intro col hcol
        split at hcol
        · exact Option.mem_some.1 hcol ▸ hcursor
        · exact absurd hcol (by simp)
      have size := hl e List.mem_cons_self
      exact ⟨h.checkedAddRow hcells hcols hcols' size place,
        fun e he => hl e (List.mem_cons_of_mem _ he), h.addRow hcols size place⟩)
    ⟨fun e he => hold _ (List.fst_mem_of_mem_zipIdx he), start⟩
  exact ⟨bind_eq joined (bind_eq (counted.checkedFinish hcells hcols hcols') rfl),
    counted.rows_finish hcols⟩

end Teletype.Reflow
