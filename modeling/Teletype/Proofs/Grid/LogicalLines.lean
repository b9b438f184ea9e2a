import Mathlib.Data.List.DropRight
import Teletype.Grid.Basic

/-!
# Logical lines

Rows whose text goes on in the next row make up one line of text. Empty cells at the end of a line
and empty lines at the end of a text are not part of it, so that rows of empty cells can come and go
at the end.
-/

namespace Teletype

/-- Nothing shows in the row, on the default background. -/
def Row.Vacant (r : Row) : Prop := ∀ c ∈ r.cells, c.isEmpty

instance (r : Row) : Decidable r.Vacant := inferInstanceAs (Decidable (∀ c ∈ r.cells, c.isEmpty))

/-- What decides how a row is read as text. -/
def Row.shape (r : Row) : Array Cell × Bool := (r.cells, r.wrapped)

namespace Reflow

/-- Cells before the first of some lines, or as a line if there is none. -/
def glue (cells : List Cell) : List (List Cell) → List (List Cell)
  | [] => [cells]
  | line :: lines => (cells ++ line) :: lines

/-- The cells of rows, joined where the text goes on. The last row ends its line in any case. -/
def chains : List Row → List (List Cell)
  | [] => []
  | row :: rows =>
    if row.wrapped then glue row.cells.toList (chains rows)
    else row.cells.toList :: chains rows

/-- A line without the empty cells at its end. -/
def trim (line : List Cell) : List Cell := line.rdropWhile Cell.isEmpty

/-- The text of rows, line by line, without the empty lines at its end. -/
def logicalLines (rows : List Row) : List (List Cell) :=
  ((chains rows).map trim).rdropWhile List.isEmpty

/-! ## Trimming -/

theorem rdropWhile_append_of_forall {α : Type} {p : α → Bool} {l e : List α} (h : ∀ x ∈ e, p x) :
    (l ++ e).rdropWhile p = l.rdropWhile p := by
  rw [List.rdropWhile, List.rdropWhile, List.reverse_append, List.dropWhile_append_of_pos]
  intro x hx
  exact h x (List.mem_reverse.1 hx)

theorem trim_append_of_empty {line e : List Cell} (h : ∀ c ∈ e, c.isEmpty) :
    trim (line ++ e) = trim line :=
  rdropWhile_append_of_forall h

theorem trim_of_empty {line : List Cell} (h : ∀ c ∈ line, c.isEmpty) : trim line = [] :=
  List.rdropWhile_eq_nil_iff.2 h

theorem prefix_trim (line : List Cell) : trim line <+: line :=
  List.rdropWhile_prefix _ _

/-- What comes before two lines does not make them differ. -/
theorem trim_append_congr {line line' : List Cell} (h : trim line = trim line')
    (cells : List Cell) : trim (cells ++ line) = trim (cells ++ line') := by
  have same : line.reverse.dropWhile Cell.isEmpty = line'.reverse.dropWhile Cell.isEmpty :=
    List.reverse_injective h
  rw [trim, trim, List.rdropWhile, List.rdropWhile, List.reverse_append, List.reverse_append,
    List.dropWhile_append, List.dropWhile_append, same]

/-! ## Joining -/

theorem glue_glue (a b : List Cell) (lines : List (List Cell)) :
    glue a (glue b lines) = glue (a ++ b) lines := by
  cases lines with
  | nil => rfl
  | cons line lines => rw [glue, glue, glue, List.append_assoc]

/-- Rows that go on, and one that does not, are one line. -/
theorem chains_append_cons {rows : List Row} (hrows : ∀ r ∈ rows, r.wrapped = true) {last : Row}
    (hlast : last.wrapped = false) (rest : List Row) :
    chains (rows ++ last :: rest) =
      (rows.flatMap (·.cells.toList) ++ last.cells.toList) :: chains rest := by
  induction rows with
  | nil => simp [chains, hlast]
  | cons r rows ih =>
    have wrapped := hrows r List.mem_cons_self
    rw [List.cons_append, chains, if_pos wrapped,
      ih fun r hr => hrows r (List.mem_cons_of_mem _ hr), glue, List.flatMap_cons,
      List.append_assoc]

theorem chains_congr {rows rows' : List Row} (h : rows'.map Row.shape = rows.map Row.shape) :
    chains rows' = chains rows := by
  induction rows generalizing rows' with
  | nil =>
    rw [List.map_eq_nil_iff.1 h]
  | cons r rows ih =>
    obtain ⟨r', rest, rfl, hr, hrest⟩ := List.map_eq_cons_iff.1 h
    have hcells : r'.cells = r.cells := congrArg Prod.fst hr
    have hwrapped : r'.wrapped = r.wrapped := congrArg Prod.snd hr
    rw [chains, chains, ih hrest, hcells, hwrapped]

/-- The cells of the lines are those of the rows. -/
theorem flatten_chains (rows : List Row) :
    (chains rows).flatten = rows.flatMap (·.cells.toList) := by
  induction rows with
  | nil => rfl
  | cons r rows ih =>
    rw [List.flatMap_cons, ← ih, chains]
    split
    · cases chains rows with
      | nil => rfl
      | cons line lines => rw [glue, List.flatten_cons, List.flatten_cons, List.append_assoc]
    · rw [List.flatten_cons]

theorem exists_row_of_mem_chains {rows : List Row} {line : List Cell} (hline : line ∈ chains rows)
    {c : Cell} (hc : c ∈ line) : ∃ r ∈ rows, c ∈ r.cells := by
  have mem := List.mem_flatten.2 ⟨line, hline, hc⟩
  rw [flatten_chains] at mem
  obtain ⟨r, hr, hmem⟩ := List.mem_flatMap.1 mem
  exact ⟨r, hr, Array.mem_def.2 hmem⟩

/-- The lines of vacant rows are empty. -/
theorem chains_vacant {rows : List Row} (h : ∀ r ∈ rows, r.Vacant) :
    ∀ line ∈ chains rows, ∀ c ∈ line, c.isEmpty := by
  intro line hline c hc
  obtain ⟨r, hr, hmem⟩ := exists_row_of_mem_chains hline hc
  exact h r hr c hmem

/-- Lines that differ in empty ones at the end still do after cells were put before the first. -/
theorem map_trim_glue (cells : List Cell) {lines more : List (List Cell)} {n : Nat}
    (h : more.map trim = lines.map trim ++ List.replicate n []) :
    ∃ m, (glue cells more).map trim = (glue cells lines).map trim ++ List.replicate m [] := by
  cases lines with
  | nil =>
    cases more with
    | nil => exact ⟨0, rfl⟩
    | cons line more =>
      cases n with
      | zero => exact absurd h (by simp)
      | succ n =>
        rw [List.map_nil, List.nil_append, List.replicate_succ, List.map_cons,
          List.cons.injEq] at h
        have first : trim (cells ++ line) = trim (cells ++ []) := trim_append_congr h.1 cells
        rw [List.append_nil] at first
        exact ⟨n, by rw [glue, glue, List.map_cons, List.map_singleton, first, h.2]; rfl⟩
  | cons line lines =>
    cases more with
    | nil => exact absurd h (by simp)
    | cons line' more =>
      rw [List.map_cons, List.map_cons, List.cons_append, List.cons.injEq] at h
      have first : trim (cells ++ line') = trim (cells ++ line) := trim_append_congr h.1 cells
      exact ⟨n, by rw [glue, glue, List.map_cons, List.map_cons, first, h.2]; rfl⟩

/-- Vacant rows add only empty lines at the end, and empty cells to a last line that lacks its
end. -/
theorem chains_append_vacant (rows : List Row) {e : List Row} (h : ∀ r ∈ e, r.Vacant) :
    ∃ n, (chains (rows ++ e)).map trim = (chains rows).map trim ++ List.replicate n [] := by
  induction rows with
  | nil =>
    refine ⟨(chains e).length, List.eq_replicate_iff.2 ⟨by simp, fun line hline => ?_⟩⟩
    obtain ⟨line', hline', rfl⟩ := List.mem_map.1 hline
    exact trim_of_empty (chains_vacant h line' hline')
  | cons r rows ih =>
    obtain ⟨n, hn⟩ := ih
    rw [List.cons_append, chains, chains]
    split
    · exact map_trim_glue _ hn
    · exact ⟨n, by rw [List.map_cons, List.map_cons, hn, List.cons_append]⟩

/-- Vacant rows at the end are not text. -/
theorem logicalLines_append_vacant (rows : List Row) {e : List Row} (h : ∀ r ∈ e, r.Vacant) :
    logicalLines (rows ++ e) = logicalLines rows := by
  obtain ⟨n, hn⟩ := chains_append_vacant rows h
  rw [logicalLines, logicalLines, hn]
  apply rdropWhile_append_of_forall
  intro line hline
  rw [List.eq_of_mem_replicate hline]
  rfl

theorem logicalLines_congr {rows rows' : List Row}
    (h : (chains rows').map trim = (chains rows).map trim) :
    logicalLines rows' = logicalLines rows := by
  rw [logicalLines, logicalLines, h]

end Reflow

/-- The text of a grid. -/
def Grid.text (g : Grid) : List (List Cell) := Reflow.logicalLines g.lines

end Teletype
