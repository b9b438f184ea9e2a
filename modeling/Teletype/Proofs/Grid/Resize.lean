import Teletype.Grid.Resize
import Teletype.Proofs.Grid.Reflow
import Teletype.Proofs.Grid.Ring
import Teletype.Proofs.Grid.Valid

/-!
# Changing the size keeps grids valid

The lines that are kept fill the new screen and fit the new ring, and the cursor's line is among the
last ones, which become the screen.
-/

namespace Teletype.Grid

variable {kind : ScreenKind} {cols rows : Nat} {g : Grid}

theorem Valid.capacity_pos (h : Valid kind cols rows g) : 0 < g.capacity :=
  Nat.lt_of_le_of_lt (Nat.zero_le _) h.offset_lt

/-- Every line that is counted exists. -/
theorem line?_isSome (hpos : 0 < g.capacity) {line : Nat} (hline : line < g.lineCount) :
    (g.line? line).isSome := by
  rw [line?, if_pos hline]
  have : g.slotOfLine line < g.slots.size := Nat.mod_lt _ hpos
  simp [this]

theorem length_lines (hpos : 0 < g.capacity) : g.lines.length = g.lineCount := by
  unfold lines
  rw [List.filterMap_length_eq_length.2, List.length_range]
  intro line hline
  exact line?_isSome hpos (List.mem_range.1 hline)

theorem mem_slots_of_mem_lines {r : Row} (h : r ∈ g.lines) : r ∈ g.slots := by
  obtain ⟨line, -, hline⟩ := List.mem_filterMap.1 h
  unfold line? at hline
  split at hline
  · exact Array.mem_of_getElem? hline
  · exact absurd hline (by simp)

theorem Valid.lines (h : Valid kind cols rows g) : ∀ r ∈ g.lines, r.Valid cols :=
  fun r hr => h.row r (mem_slots_of_mem_lines hr)

/-- The lines at the new width, with the cursor on one of them. -/
theorem Valid.refit (h : Valid kind cols rows g) {cols' : Nat} (hcols : 0 < cols') (reflow : Bool) :
    (∀ r ∈ (g.refit cols' reflow).1, r.Valid cols') ∧
      (g.refit cols' reflow).2.line < (g.refit cols' reflow).1.length := by
  have length := length_lines h.capacity_pos
  have hcursor := h.cursor_row
  have hrows := h.rows_eq
  unfold lineCount at length
  unfold Grid.refit
  dsimp only
  split
  · refine Reflow.rows_valid h.cols_pos hcols h.lines (fun hnil => ?_) _
    rw [hnil] at length
    simp at length
    omega
  · refine ⟨fun r hr => ?_, ?_⟩
    · obtain ⟨r', hr', rfl⟩ := List.mem_map.1 hr
      exact (h.lines r' hr').fit hcols
    · rw [List.length_map, length]
      dsimp only
      omega

/-- Only blank rows are dropped at the end. -/
theorem dropBlankEnd_eq (keep : Nat) (lines : List Row) :
    dropBlankEnd keep lines = lines.take keep ++ (lines.drop keep).rdropWhile Row.isBlank := rfl

theorem dropBlankEnd_append (keep : Nat) (lines : List Row) :
    dropBlankEnd keep lines ++ (lines.drop keep).rtakeWhile Row.isBlank = lines := by
  rw [dropBlankEnd_eq, List.append_assoc, List.rdropWhile_append_rtakeWhile,
    List.take_append_drop]

/-- The lines that are kept fill the screen, and those above the cursor's leave room for it. -/
theorem length_settle (cols : Nat) {rows line : Nat} {lines : List Row} (hrows : 0 < rows)
    (hline : line < lines.length) :
    rows ≤ (settle cols rows line lines).length ∧
      line < (settle cols rows line lines).length ∧
      (settle cols rows line lines).length ≤ line + rows := by
  have kept : line < (dropBlankEnd (line + 1) lines).length := by
    rw [dropBlankEnd_eq, List.length_append, List.length_take]
    omega
  unfold settle
  dsimp only
  rw [List.length_take, List.length_append, List.length_replicate]
  omega

theorem mem_settle {cols rows line : Nat} {lines : List Row} {r : Row}
    (h : r ∈ settle cols rows line lines) : r ∈ lines ∨ r = Row.blank cols .default 0 := by
  rcases List.mem_append.1 (List.mem_of_mem_take h) with h | h
  · exact .inl (dropBlankEnd_append (line + 1) lines ▸ List.mem_append_left _ h)
  · exact .inr (List.eq_of_mem_replicate h)

theorem settle_valid {cols : Nat} (rows line : Nat) {lines : List Row}
    (hl : ∀ r ∈ lines, r.Valid cols) : ∀ r ∈ settle cols rows line lines, r.Valid cols := by
  intro r hr
  rcases mem_settle hr with hr | rfl
  · exact hl r hr
  · exact Row.valid_blank _ _ _

theorem size_ringOf {capacity : Nat} (cols firstSeq : Nat) {lines : List Row}
    (h : lines.length ≤ capacity) : (ringOf capacity cols firstSeq lines).size = capacity := by
  simp [ringOf]
  omega

/-- A size is at least one row and column. -/
theorem resize_max (g : Grid) (rows cols : Nat) (reflow : Bool) :
    g.resize (max rows 1) (max cols 1) reflow = g.resize rows cols reflow := by
  unfold Grid.resize
  rw [Nat.max_eq_left (Nat.le_max_right rows 1), Nat.max_eq_left (Nat.le_max_right cols 1)]

theorem scrollback_resize (g : Grid) (rows cols : Nat) (reflow : Bool) :
    (g.resize rows cols reflow).scrollback = g.scrollback := by
  unfold Grid.resize
  dsimp only
  split <;> rfl

/-- The ring gets the size that the new height asks for. -/
theorem capacity_resize {g : Grid} (h : g.capacity = capacityFor g.kind g.rows g.scrollback)
    (rows cols : Nat) (reflow : Bool) : (g.resize rows cols reflow).capacity =
      capacityFor g.kind (g.resize rows cols reflow).rows g.scrollback := by
  unfold Grid.resize
  dsimp only
  split
  · exact h
  · have le := le_capacityFor g.kind (max rows 1) g.scrollback
    refine size_ringOf _ _ ?_
    rw [List.length_drop]
    omega

theorem mem_ringOf {capacity cols firstSeq : Nat} {lines : List Row} {r : Row}
    (h : r ∈ ringOf capacity cols firstSeq lines) :
    (∃ r' ∈ lines, r.cells = r'.cells) ∨ ∃ seq, r = Row.blank cols .default seq := by
  rcases Array.mem_append.1 h with h | h
  · obtain ⟨e, he, rfl⟩ := List.mem_map.1 (List.mem_toArray.1 h)
    exact .inl ⟨e.1, List.fst_mem_of_mem_zipIdx he, rfl⟩
  · obtain ⟨i, -, rfl⟩ := Array.mem_map.1 h
    exact .inr ⟨_, rfl⟩

theorem ringOf_valid {capacity cols firstSeq : Nat} {lines : List Row}
    (hl : ∀ r ∈ lines, r.Valid cols) : ∀ r ∈ ringOf capacity cols firstSeq lines, r.Valid cols := by
  intro r hr
  rcases mem_ringOf hr with ⟨r', hr', hcells⟩ | ⟨seq, rfl⟩
  · exact (hl r' hr').of_cells hcells
  · exact Row.valid_blank _ _ _

/-- A new ring numbers its rows one after the other. -/
theorem numbered_ringOf {capacity : Nat} (cols firstSeq : Nat) {lines : List Row}
    (h : lines.length ≤ capacity) :
    Numbered (ringOf capacity cols firstSeq lines).toList
      (firstSeq + (ringOf capacity cols firstSeq lines).size) := by
  have kept :
      (lines.zipIdx.map fun e => { e.1 with seq := firstSeq + e.2, dirty := true }).map Row.seq =
      List.range' firstSeq lines.length := by
    rw [List.map_map, List.range'_eq_map_range, List.range_eq_range', ← List.zipIdx_map_snd 0 lines,
      List.map_map]
    rfl
  have fresh : ((Array.range (capacity - lines.length)).map fun i =>
      Row.blank cols .default (firstSeq + lines.length + i)).toList.map Row.seq =
        List.range' (firstSeq + lines.length) (capacity - lines.length) := by
    rw [Array.toList_map, List.map_map, Array.toList_range, List.range'_eq_map_range]
    rfl
  have seqs : (ringOf capacity cols firstSeq lines).toList.map Row.seq =
      List.range' firstSeq capacity := by
    rw [ringOf, Array.toList_append, List.map_append, kept, fresh, List.range'_append_1,
      Nat.add_sub_cancel' h]
  rw [size_ringOf cols firstSeq h]
  refine ⟨fun r hr => ?_, seqs ▸ List.nodup_range'⟩
  have mem := List.mem_map_of_mem (f := Row.seq) hr
  rw [seqs] at mem
  exact (List.mem_range'_1.1 mem).2

theorem numbered_resize (h : Numbered g.slots.toList g.nextSeq) (rows cols : Nat) (reflow : Bool) :
    Numbered (g.resize rows cols reflow).slots.toList (g.resize rows cols reflow).nextSeq := by
  unfold Grid.resize
  dsimp only
  split
  · exact h
  · have le := le_capacityFor g.kind (max rows 1) g.scrollback
    refine numbered_ringOf _ _ ?_
    rw [List.length_drop]
    omega

theorem Valid.resize (h : Valid kind cols rows g) (rows' cols' : Nat) (reflow : Bool) :
    Valid kind (max cols' 1) (max rows' 1) (g.resize rows' cols' reflow) := by
  have hrows : 0 < max rows' 1 := by omega
  have hcols : 0 < max cols' 1 := by omega
  have hkind := h.kind_eq
  unfold Grid.resize
  generalize max rows' 1 = rows' at hrows ⊢
  generalize max cols' 1 = cols' at hcols ⊢
  dsimp only
  split
  · rename_i hsame
    simp only [Bool.and_eq_true, decide_eq_true_eq, h.rows_eq, h.cols_eq] at hsame
    obtain ⟨rfl, rfl⟩ := hsame
    exact h
  · obtain ⟨hlines, hcursor⟩ := h.refit hcols reflow
    have hsettled := settle_valid rows' (g.refit cols' reflow).2.line hlines
    obtain ⟨hfill, hon, hroom⟩ := length_settle cols' hrows hcursor
    generalize settle cols' rows' _ _ = lines at hsettled hfill hon hroom ⊢
    have hle := le_capacityFor g.kind rows' g.scrollback
    have hcap := hasCapacity_capacityFor g.kind rows' g.scrollback
    generalize capacityFor g.kind rows' g.scrollback = capacity at hle hcap ⊢
    have hkept : ∀ r ∈ lines.drop (lines.length - rows' - (capacity - rows')), r.Valid cols' :=
      fun r hr => hsettled r (List.mem_of_mem_drop hr)
    have hlength : (lines.drop (lines.length - rows' - (capacity - rows'))).length ≤ capacity := by
      rw [List.length_drop]
      omega
    have hsize := size_ringOf cols' g.nextSeq hlength
    have hoffset : (lines.drop (lines.length - rows' - (capacity - rows'))).length - rows' <
        capacity := by omega
    constructor
    case kind_eq => exact hkind
    case cols_eq | rows_eq => rfl
    case cols_pos => exact hcols
    case rows_pos => exact hrows
    case row => exact ringOf_valid hkept
    case capacity =>
      rw [Grid.capacity, hsize, ← hkind]
      exact hcap
    case room =>
      rw [Grid.capacity, hsize]
      dsimp only
      rw [List.length_drop]
      omega
    case offset_lt | view_lt =>
      rw [Grid.capacity, hsize]
      exact Nat.mod_lt _ (by omega)
    case view_le =>
      rw [viewDistance_of_eq rfl]
      exact Nat.zero_le _
    case region_lt => exact hrows
    case region_le => exact Nat.le_refl _
    case cursor_row =>
      dsimp only
      rw [List.length_drop]
      omega
    case cursor_col =>
      dsimp only
      omega
    case pending | saved_pending => exact fun hp => absurd hp Bool.false_ne_true

end Teletype.Grid
