import Teletype.Proofs.Machine.Word
import Teletype.Row

/-!
# Editing rows in machine words

The steps of each edit that depend on where the cells are. All of them can be taken: a half glyph is
looked for only where there is a cell.
-/

namespace Teletype.Row

open Machine

variable {r : Row} {cells : Array Cell} {cols col : Nat}

/-- The other half of the glyph at a column is looked for on either side. -/
def splitSteps (cells : Array Cell) (col : Nat) : Option Unit := do
  let c ← entry cells col
  when (c.isTail ∧ 0 < col) do
    let before ← sub col 1
    index before cells.size
  when c.isHead do
    let after ← add .usize col 1
    when (after < cells.size) (index after cells.size)

theorem splitSteps_eq (hcol : col < cells.size) (hsize : cells.size ≤ 65535) :
    splitSteps cells col = some () := by
  refine bind_eq (entry_of_lt hcol) (bind_eq (when_of_imp fun h => ?_) (when_of_imp fun _ => ?_))
  · exact bind_eq (sub_of_le (by omega)) (index_of_lt (by omega))
  · exact bind_eq (add_usize (by omega)) (when_of_imp index_of_lt)

/-- A right half at a column is cut off from the left half before it. -/
def cutSteps (cells : Array Cell) (col : Nat) : Option Unit := do
  let c ← entry cells col
  when (c.isTail ∧ 0 < col) do
    let before ← sub col 1
    index before cells.size

theorem cutSteps_eq (hcol : col < cells.size) : cutSteps cells col = some () :=
  bind_eq (entry_of_lt hcol) (when_of_imp fun _ =>
    bind_eq (sub_of_le (by omega)) (index_of_lt (by omega)))

def eraseRangeSteps (r : Row) (first last : Nat) : Option Unit :=
  let size := r.cells.size
  let first := min first size
  let last := min last size
  when (first < last) do
    when (0 < first) (cutSteps r.cells first)
    when (last < size) (index last size)
    slice first last size

theorem eraseRangeSteps_eq (first last : Nat) : r.eraseRangeSteps first last = some () := by
  refine when_of_imp fun h => ?_
  refine bind_eq (when_of_imp fun _ => cutSteps_eq (by omega)) ?_
  refine bind_eq (when_of_imp index_of_lt) ?_
  exact slice_of_le (by omega) (by omega)

/-- The cells from a column on turn by `n`, and those that turn up are blank. -/
def insertBlanksSteps (cols col n : Nat) (r : Row) : Option Unit :=
  let size := r.cells.size
  when (col < cols ∧ n ≠ 0) do
    let n := min n (← sub cols col)
    cutSteps r.cells col
    slice col size size
    slice 0 n (size - col)
    let last ← add .usize col n
    slice col last size
    when (last < cols) (index last size)
    let margin ← sub cols 1
    index margin size

theorem insertBlanksSteps_eq (hsize : r.cells.size = cols) (hcols : cols ≤ 65535) (col n : Nat) :
    r.insertBlanksSteps cols col n = some () := by
  refine when_of_imp fun ⟨hcol, _⟩ => ?_
  refine bind_eq (sub_of_le (by omega)) (bind_eq (cutSteps_eq (by omega)) ?_)
  refine bind_eq (slice_of_le (by omega) (by omega))
    (bind_eq (slice_of_le (by omega) (by omega)) ?_)
  refine bind_eq (add_usize (by omega)) (bind_eq (slice_of_le (by omega) (by omega)) ?_)
  refine bind_eq (when_of_imp fun _ => index_of_lt (by omega)) ?_
  exact bind_eq (sub_of_le (by omega)) (index_of_lt (by omega))

def deleteCellsSteps (cols col n : Nat) (r : Row) : Option Unit :=
  let size := r.cells.size
  when (col < cols ∧ n ≠ 0) do
    let n := min n (← sub cols col)
    cutSteps r.cells col
    slice col size size
    slice 0 n (size - col)
    let first ← sub cols n
    slice first size size
    index col size

theorem deleteCellsSteps_eq (hsize : r.cells.size = cols) (col n : Nat) :
    r.deleteCellsSteps cols col n = some () := by
  refine when_of_imp fun ⟨hcol, _⟩ => ?_
  refine bind_eq (sub_of_le (by omega)) (bind_eq (cutSteps_eq (by omega)) ?_)
  refine bind_eq (slice_of_le (by omega) (by omega))
    (bind_eq (slice_of_le (by omega) (by omega)) ?_)
  refine bind_eq (sub_of_le (by omega)) (bind_eq (slice_of_le (by omega) (by omega)) ?_)
  exact index_of_lt (by omega)

/-- A glyph of the given width is written over what was there. -/
def writeSteps (col width : Nat) (r : Row) : Option Unit := do
  splitSteps r.cells col
  index col r.cells.size
  when (width = 2) do
    let after ← add .usize col 1
    splitSteps r.cells after
    index after r.cells.size

theorem writeSteps_eq {width : Nat} (hcol : col + (if width = 2 then 2 else 1) ≤ r.cells.size)
    (hsize : r.cells.size ≤ 65535) : r.writeSteps col width = some () := by
  refine bind_eq (splitSteps_eq (by split at hcol <;> omega) hsize) ?_
  refine bind_eq (index_of_lt (by split at hcol <;> omega)) (when_of_imp fun hwidth => ?_)
  rw [if_pos hwidth] at hcol
  refine bind_eq (add_usize (by omega)) ?_
  exact bind_eq (splitSteps_eq (by omega) hsize) (index_of_lt (by omega))

/-- The glyph at a column, if there is one, becomes a cluster, which may take the next column. -/
def composeSteps (cols col width : Nat) (r : Row) : Option Unit :=
  when (col < r.cells.size) do
    let c ← entry r.cells col
    let after ← add .usize col 1
    when (2 ≤ width ∧ after < cols ∧ ¬c.isHead) do
      splitSteps r.cells after
      index after r.cells.size
    index col r.cells.size

theorem composeSteps_eq (hsize : r.cells.size = cols) (hcols : cols ≤ 65535) (col width : Nat) :
    r.composeSteps cols col width = some () := by
  refine when_of_imp fun hcol => ?_
  refine bind_eq (entry_of_lt hcol) (bind_eq (add_usize (by omega)) ?_)
  refine bind_eq (when_of_imp fun ⟨_, hafter, _⟩ => ?_) (index_of_lt hcol)
  exact bind_eq (splitSteps_eq (by omega) (by omega)) (index_of_lt (by omega))

end Teletype.Row
