import Teletype.Proofs.Grid.Spread

/-!
# One line of text

Text that is typed without a line feed is one line, which fills one row after the other from the
first one on; the row that it ends in is followed by blank rows.
-/

namespace Teletype

open Reflow

/-- The shape of a blank row. -/
def Row.blankShape (cols : Nat) : Array Cell × Bool := (Array.replicate cols {}, false)

namespace Reflow

/-- The rows that the text of the first one goes on in, up to the end of the line. -/
def goingOn : List Row → List Row
  | [] => []
  | row :: rows => if row.wrapped then row :: goingOn rows else [row]

/-- The text of the line that has the row with the given index. -/
def lineAt (rows : List Row) (index : Nat) : List Cell :=
  let before := (rows.take index).rtakeWhile (·.wrapped)
  trim ((before ++ goingOn (rows.drop index)).flatMap (·.cells.toList))

theorem narrow_append_padding {line : List Cell} (hline : ∀ c ∈ line, c.extent = .narrow)
    (m : Nat) : ∀ c ∈ line ++ padding m, c.extent = .narrow := by
  intro c hc
  rcases List.mem_append.1 hc with hc | hc
  · exact hline c hc
  · rw [eq_of_mem_padding hc]

/-- Rows that hold the given cells as one line from the first row on. It ends in the row with the
given index, and the rows after that are blank. -/
inductive Holds (cols : Nat) : Nat → List Cell → List (Array Cell × Bool) → Prop where
  | last {cells : Array Cell} {rest : List (Array Cell × Bool)} : cells.size = cols →
    (∀ r ∈ rest, r = Row.blankShape cols) → Holds cols 0 cells.toList ((cells, false) :: rest)
  | cons {cells : Array Cell} {n : Nat} {more : List Cell} {rows : List (Array Cell × Bool)} :
    cells.size = cols → Holds cols n more rows →
    Holds cols (n + 1) (cells.toList ++ more) ((cells, true) :: rows)

namespace Holds

variable {cols n : Nat} {cells : List Cell} {rows : List (Array Cell × Bool)}

theorem blank (cols n : Nat) :
    Holds cols 0 (padding cols) (List.replicate (n + 1) (Row.blankShape cols)) := by
  have row : Holds cols 0 (Array.replicate cols {}).toList
      ((Array.replicate cols {}, false) :: List.replicate n (Row.blankShape cols)) :=
    .last Array.size_replicate fun r hr => List.eq_of_mem_replicate hr
  rwa [Array.toList_replicate] at row

theorem length_cells (h : Holds cols n cells rows) : cells.length = (n + 1) * cols := by
  induction h with
  | last hsize _ => rw [Array.length_toList, hsize, Nat.zero_add, Nat.one_mul]
  | @cons _ n _ _ hsize _ ih =>
    rw [List.length_append, Array.length_toList, hsize, ih, Nat.succ_mul (n + 1), Nat.add_comm]

theorem length_line {line : List Cell} {m : Nat} (h : Holds cols n (line ++ padding m) rows) :
    line.length + m = (n + 1) * cols := by
  rw [← h.length_cells, List.length_append, padding, List.length_replicate]

theorem lt_length (h : Holds cols n cells rows) : n < rows.length := by
  induction h with
  | last _ _ => exact Nat.succ_pos _
  | cons _ _ ih => exact Nat.succ_lt_succ ih

/-- Whatever a row shows is a cell of the line or nothing. -/
theorem mem (h : Holds cols n cells rows) : ∀ r ∈ rows, ∀ c ∈ r.1, c ∈ cells ∨ c = {} := by
  induction h with
  | last hsize hblank =>
    intro r hr c hc
    rcases List.mem_cons.1 hr with rfl | hr
    · exact .inl (Array.mem_def.1 hc)
    · rw [hblank r hr] at hc
      exact .inr (Array.eq_of_mem_replicate hc)
  | cons hsize _ ih =>
    intro r hr c hc
    rcases List.mem_cons.1 hr with rfl | hr
    · exact .inl (List.mem_append_left _ (Array.mem_def.1 hc))
    · exact (ih r hr c hc).imp_left (List.mem_append_right _)

/-- A cell written in the last row is a cell of the line. -/
theorem set (h : Holds cols n cells rows) {col : Nat} {c : Cell}
    {f : Array Cell × Bool → Array Cell × Bool}
    (hf : ∀ r ∈ rows, f r = (r.1.setIfInBounds col c, r.2)) :
    Holds cols n (cells.set (n * cols + col) c) (rows.modify n f) := by
  induction h with
  | @last cells rest hsize hblank =>
    have first : ((cells, false) :: rest).modify 0 f = f (cells, false) :: rest := rfl
    rw [first, hf _ List.mem_cons_self, Nat.zero_mul, Nat.zero_add, ← Array.toList_setIfInBounds]
    exact .last (by rw [Array.size_setIfInBounds, hsize]) hblank
  | @cons cells n more rows hsize _ ih =>
    have here : cells.toList.length ≤ (n + 1) * cols + col := by
      rw [Array.length_toList, hsize, Nat.succ_mul]
      omega
    rw [List.set_append_right _ _ here, Array.length_toList, hsize,
      show (n + 1) * cols + col - cols = n * cols + col by rw [Nat.succ_mul]; omega]
    exact .cons hsize (ih fun r hr => hf r (List.mem_cons_of_mem _ hr))

/-- Blank rows can come after the line. -/
theorem append_blank (h : Holds cols n cells rows) (m : Nat) :
    Holds cols n cells (rows ++ List.replicate m (Row.blankShape cols)) := by
  induction h with
  | last hsize hblank =>
    refine .last hsize fun r hr => ?_
    rcases List.mem_append.1 hr with hr | hr
    · exact hblank r hr
    · exact List.eq_of_mem_replicate hr
  | cons hsize _ ih => exact .cons hsize ih

/-- The text goes on in the next row, which may be a new one. -/
theorem wrap (h : Holds cols n cells rows) (m : Nat) (hnext : n + 1 < rows.length + m) :
    Holds cols (n + 1) (cells ++ padding cols)
      (rows.modify n (fun r => (r.1, true)) ++ List.replicate m (Row.blankShape cols)) := by
  induction h with
  | @last cells rest hsize hblank =>
    have blank : ∀ r ∈ rest ++ List.replicate m (Row.blankShape cols), r = Row.blankShape cols :=
      List.forall_mem_append.2 ⟨hblank, fun r hr => List.eq_of_mem_replicate hr⟩
    cases hrest : rest ++ List.replicate m (Row.blankShape cols) with
    | nil =>
      have length := congrArg List.length hrest
      rw [List.length_append, List.length_replicate] at length
      simp only [List.length_cons, List.length_nil] at hnext length
      omega
    | cons next more =>
      rw [hrest] at blank
      obtain rfl := blank next List.mem_cons_self
      have row : Holds cols 0 (Array.replicate cols {}).toList
          ((Array.replicate cols {}, false) :: more) :=
        .last Array.size_replicate fun r hr => blank r (List.mem_cons_of_mem _ hr)
      rw [Array.toList_replicate] at row
      show Holds cols (0 + 1) _ ((cells, true) :: (rest ++ List.replicate m (Row.blankShape cols)))
      rw [hrest]
      exact .cons hsize row
  | @cons cells n more rows hsize _ ih =>
    rw [List.append_assoc]
    refine .cons hsize (ih ?_)
    rw [List.length_cons] at hnext
    omega

/-- The empty rows after those that hold the cells can go again. -/
theorem take (h : Holds cols n cells rows) : Holds cols n cells (rows.take (n + 1)) := by
  induction h with
  | last hsize _ => exact .last hsize fun r hr => absurd hr List.not_mem_nil
  | cons hsize _ ih => exact .cons hsize ih

theorem drop_blank (h : Holds cols n cells rows) :
    ∀ r ∈ rows.drop (n + 1), r = Row.blankShape cols := by
  induction h with
  | last _ hblank => exact hblank
  | cons _ _ ih => exact ih

/-- The line that ends in the row is what the rows hold. -/
theorem lineAt_eq {rows : List Row} (h : Holds cols n cells (rows.map Row.shape)) :
    lineAt rows n = trim cells := by
  have split : (∀ r ∈ rows.take n, r.wrapped = true) ∧
      (rows.take n ++ goingOn (rows.drop n)).flatMap (·.cells.toList) = cells := by
    generalize hshapes : rows.map Row.shape = shapes at h
    induction h generalizing rows with
    | last _ _ =>
      obtain ⟨row, rest, rfl, hrow, -⟩ := List.map_eq_cons_iff.1 hshapes
      have wrapped : row.wrapped = false := congrArg Prod.snd hrow
      have cells : row.cells = _ := congrArg Prod.fst hrow
      refine ⟨by simp, ?_⟩
      simp [goingOn, wrapped, cells]
    | cons _ _ ih =>
      obtain ⟨row, rest, rfl, hrow, hrest⟩ := List.map_eq_cons_iff.1 hshapes
      obtain ⟨hwrapped, hcells⟩ := ih hrest
      have cells : row.cells = _ := congrArg Prod.fst hrow
      refine ⟨List.forall_mem_cons.2 ⟨congrArg Prod.snd hrow, hwrapped⟩, ?_⟩
      rw [List.take_succ_cons, List.drop_succ_cons, List.cons_append, List.flatMap_cons,
        hcells, cells]
  unfold lineAt
  rw [List.rtakeWhile_eq_self_iff.2 split.1]
  exact congrArg trim split.2

end Holds

end Reflow

namespace Grid

/-- The text of the line that the cursor is on. -/
def cursorLine (g : Grid) : List Cell := Reflow.lineAt g.lines (g.history + g.cursor.row)

/-- The index of the cell that the cursor is on, in a line that starts in the first row. -/
def cursorIndex (g : Grid) : Nat := (g.history + g.cursor.row) * g.cols + g.cursor.col

end Grid

end Teletype
