import Teletype.Proofs.Grid.Ring
import Teletype.Proofs.Grid.Spread

/-!
# Reflow keeps the text

Cutting a line fills one row after the other, so that the rows joined again are the line, spread
over these rows, and some empty cells. A line of narrow glyphs is the same spread over any rows.
-/

namespace Teletype.Reflow

namespace Cutting

/-- The rows after `before` go on, and with the row being filled they have the cells of `text`. -/
structure Filled (cols : Nat) (before : Array Row) (text : List Cell) (s : Cutting) : Prop where
  size : s.current.size ≤ cols
  rows : ∃ full : List Row, s.rows.toList = before.toList ++ full ∧
    (∀ r ∈ full, r.wrapped = true ∧ r.cells.size = cols) ∧
    full.flatMap (·.cells.toList) ++ s.current.toList = text

variable {cols : Nat} {before : Array Row} {text : List Cell} {s : Cutting}

theorem Filled.placeCursor (h : Filled cols before text s) (back : Nat) :
    Filled cols before text (s.placeCursor back) :=
  ⟨h.size, h.rows⟩

theorem Filled.place_if (h : Filled cols before text s) (p : Prop) [Decidable p] (back : Nat) :
    Filled cols before text (if p then s.placeCursor back else s) := by
  split
  · exact h.placeCursor back
  · exact h

/-- The row being filled starts after whole rows. -/
theorem Filled.length_mod (h : Filled cols before text s) :
    ∃ k, text.length = cols * k + s.current.size := by
  obtain ⟨full, -, hfull, rfl⟩ := h.rows
  have sizes : full.map (·.cells.size) = List.replicate full.length cols :=
    List.eq_replicate_iff.2 ⟨List.length_map _, by
      intro n hn
      obtain ⟨r, hr, rfl⟩ := List.mem_map.1 hn
      exact (hfull r hr).2⟩
  refine ⟨full.length, ?_⟩
  simp only [List.length_append, List.length_flatMap, Array.length_toList]
  rw [sizes, List.sum_replicate_nat, Nat.mul_comm]

/-- A row that is not full is padded. -/
theorem Filled.finishRow (h : Filled cols before text s) :
    Filled cols before (text ++ padding (cols - s.current.size))
      (s.finishRow cols true) := by
  have hsize := h.size
  obtain ⟨full, hrows, hfull, rfl⟩ := h.rows
  let row : Row :=
    { cells := s.current ++ Array.replicate (cols - s.current.size) {}, seq := 0, wrapped := true }
  refine ⟨Nat.zero_le _, full ++ [row], ?_, ?_, ?_⟩
  · rw [Cutting.finishRow, Array.toList_push, hrows, List.append_assoc]
  · intro r hr
    rcases List.mem_append.1 hr with hr | hr
    · exact hfull r hr
    · obtain rfl := List.mem_singleton.1 hr
      refine ⟨rfl, ?_⟩
      simp [row]
      omega
  · simp [row, Cutting.finishRow, padding]

/-- A full row is finished as it is. -/
theorem Filled.makeRoom_narrow (h : Filled cols before text s) :
    Filled cols before text (s.makeRoom cols 1) := by
  unfold Cutting.makeRoom
  split
  · have finished := h.finishRow
    have full : cols - s.current.size = 0 := by
      omega
    rw [full, padding, List.replicate_zero, List.append_nil] at finished
    exact finished
  · exact h

/-- Where one column is left, a glyph of two columns leaves it empty. -/
theorem Filled.makeRoom_wide (h : Filled cols before text s) (hcols : 2 ≤ cols) :
    Filled cols before (text ++ padding (if (text.length + 1) % cols = 0 then 1 else 0))
      (s.makeRoom cols 2) := by
  have hsize := h.size
  obtain ⟨k, hlength⟩ := h.length_mod
  have column : (text.length + 1) % cols = (s.current.size + 1) % cols := by
    rw [hlength, Nat.add_assoc, Nat.mul_add_mod]
  have gap : (if (text.length + 1) % cols = 0 then 1 else 0) =
      if cols < s.current.size + 2 then cols - s.current.size else 0 := by
    rw [column]
    rcases Nat.lt_or_eq_of_le hsize with hlt | heq
    · rcases Nat.lt_or_eq_of_le (show s.current.size + 1 ≤ cols from hlt) with hlt | heq
      · rw [Nat.mod_eq_of_lt hlt, if_neg (by omega), if_neg (by omega)]
      · rw [heq, Nat.mod_self, if_pos rfl, if_pos (by omega)]
        omega
    · rw [heq, Nat.add_mod_left, Nat.mod_eq_of_lt (by omega), if_neg (by decide), Nat.sub_self,
        ite_self]
  rw [gap]
  unfold Cutting.makeRoom
  split
  · exact h.finishRow
  · rw [padding, List.replicate_zero, List.append_nil]
    exact h

theorem Filled.add (h : Filled cols before text s) (hfit : s.current.size + 1 ≤ cols) (c : Cell) :
    Filled cols before (text ++ [c]) (s.add c) := by
  obtain ⟨full, hrows, hfull, rfl⟩ := h.rows
  refine ⟨by simpa [Cutting.add] using hfit, full, hrows, hfull, ?_⟩
  rw [Cutting.add, Array.toList_push, List.append_assoc]

/-- Cutting glyphs adds each of them, and empty cells where a glyph of two columns does not fit. -/
theorem Filled.cells (h : Filled cols before text s) (hcols : 0 < cols) {l : List Cell}
    (hl : Fits cols l) (target : Option Nat) (i : Nat) :
    Filled cols before (text ++ spread cols text.length l) (cells cols target i s l) := by
  obtain ⟨⟨hglyphs, -⟩, hroom⟩ := hl
  induction hglyphs generalizing i s text with
  | nil =>
    rw [Cutting.cells, spread, List.append_nil]
    exact h
  | @narrow c l hc _ ih =>
    have placed := h.makeRoom_narrow.place_if (target = some i) 0
    have room := size_makeRoom (s := s) hcols
    rw [← current_placed (s.makeRoom cols 1) (target = some i) 0] at room
    have added := ih (placed.add room c) (i + 1) fun c hc => hroom c (List.mem_cons_of_mem _ hc)
    rw [cells_narrow hc, spread_narrow hc]
    rwa [List.append_assoc, List.length_append] at added
  | @wide c d l hc hd _ ih =>
    have hwide := hroom c List.mem_cons_self (by simp [Cell.isHead, hc])
    have placed := (h.makeRoom_wide hwide).place_if (target = some i) 0
    have room := size_makeRoom (s := s) hwide
    rw [← current_placed (s.makeRoom cols 2) (target = some i) 0] at room
    have head := placed.add (by omega) c
    have whole := head.add (by simpa only [Cutting.add, Array.size_push] using room) d
    have added := ih (whole.place_if (target = some (i + 1)) 1) (i + 2) fun c hc =>
      hroom c (List.mem_cons_of_mem _ (List.mem_cons_of_mem _ hc))
    rw [cells_wide hc hwide, spread_wide hc hd]
    simpa only [List.append_assoc, List.length_append, List.cons_append, List.nil_append,
      List.length_cons, List.length_nil, Nat.add_assoc] using added

/-- Rows added for a cursor beyond the line are empty. -/
theorem Filled.placeBeyond (h : Filled cols before text s) (col : Nat) :
    ∃ n, Filled cols before (text ++ padding n) (s.placeBeyond cols col) := by
  fun_induction Cutting.placeBeyond s cols col generalizing text with
  | case1 s col hc ih =>
    obtain ⟨n, hn⟩ := ih h.finishRow
    rw [List.append_assoc, padding_append] at hn
    exact ⟨_, hn⟩
  | case2 s col hc =>
    refine ⟨0, h.size, ?_⟩
    rw [padding, List.replicate_zero, List.append_nil]
    exact h.rows

/-- The last row of a line ends it. -/
theorem Filled.finish (h : Filled cols before text s) :
    ∃ piece n, (s.finishRow cols false).rows.toList = before.toList ++ piece ∧
      (∀ rest, chains (piece ++ rest) = (text ++ padding n) :: chains rest) ∧
      ∀ r ∈ piece, ∀ c ∈ r.cells, c ∈ text ∨ c = {} := by
  obtain ⟨full, hrows, hfull, htext⟩ := h.rows
  let last : Row :=
    { cells := s.current ++ Array.replicate (cols - s.current.size) {}, seq := 0, wrapped := false }
  have joined : full.flatMap (·.cells.toList) ++ last.cells.toList =
      text ++ padding (cols - s.current.size) := by
    rw [← htext, List.append_assoc]
    simp [last, padding]
  refine ⟨full ++ [last], cols - s.current.size, ?_, fun rest => ?_, ?_⟩
  · rw [Cutting.finishRow, Array.toList_push, hrows, List.append_assoc]
  · rw [List.append_assoc, List.singleton_append,
      chains_append_cons (fun r hr => (hfull r hr).1) rfl, joined]
  · intro r hr c hc
    have mem : c ∈ text ++ padding (cols - s.current.size) := by
      rw [← joined]
      rcases List.mem_append.1 hr with hr | hr
      · exact List.mem_append_left _ (List.mem_flatMap.2 ⟨r, hr, Array.mem_def.1 hc⟩)
      · obtain rfl := List.mem_singleton.1 hr
        exact List.mem_append_right _ (Array.mem_def.1 hc)
    rcases List.mem_append.1 mem with mem | mem
    · exact .inl mem
    · exact .inr (eq_of_mem_padding mem)

end Cutting

/-- The rows that a line is cut into have its cells, spread over them, and some empty ones. -/
theorem cutLine_chains {cols : Nat} (hcols : 0 < cols) {line : List Cell} (hline : Fits cols line)
    (target : Option Nat) (rows : Array Row) :
    ∃ piece n, (cutLine cols line target rows).1.toList = rows.toList ++ piece ∧
      (∀ rest, chains (piece ++ rest) = (spread cols 0 line ++ padding n) :: chains rest) ∧
      ∀ r ∈ piece, ∀ c ∈ r.cells, c ∈ line ∨ c = {} := by
  have start : Cutting.Filled cols rows [] { rows := rows } :=
    ⟨Nat.zero_le _, [], by simp, by simp, rfl⟩
  have cut := start.cells hcols hline target 0
  rw [List.nil_append] at cut
  have finished {s : Cutting} {k : Nat}
      (h : Cutting.Filled cols rows (spread cols 0 line ++ padding k) s) :
      ∃ piece n, (s.finishRow cols false).rows.toList = rows.toList ++ piece ∧
        (∀ rest, chains (piece ++ rest) = (spread cols 0 line ++ padding n) :: chains rest) ∧
        ∀ r ∈ piece, ∀ c ∈ r.cells, c ∈ line ∨ c = {} := by
    obtain ⟨piece, m, hrows, hchains, hmem⟩ := h.finish
    refine ⟨piece, k + m, hrows, fun rest => ?_, fun r hr c hc => ?_⟩
    · rw [hchains, List.append_assoc, padding_append]
    · rcases hmem r hr c hc with hc | hc
      · rcases List.mem_append.1 hc with hc | hc
        · exact mem_spread hc
        · exact .inr (eq_of_mem_padding hc)
      · exact .inr hc
  unfold cutLine
  dsimp only
  split
  · rename_i index _
    obtain ⟨k, beyond⟩ := cut.placeBeyond
      ((Cutting.cells cols (some index) 0 { rows := rows } line).current.size +
        (index - line.length))
    exact finished beyond
  · refine finished (k := 0) ?_
    rw [padding, List.replicate_zero, List.append_nil]
    exact cut

namespace Joining

/-- The lines that come of the line being joined and of the lines of the rows that follow. -/
def ahead (s : Joining) (lines : List (List Cell)) : List (List Cell) :=
  if s.line.isEmpty then lines else glue s.line.toList lines

/-- The rows made so far are read as `done`, whatever rows follow. -/
structure Reads (cols : Nat) (s : Joining) (done : List (List Cell)) : Prop where
  rows : ∀ rest, (chains (s.rows.toList ++ rest)).map trim = done ++ (chains rest).map trim
  line : Fits cols s.line.toList
  /-- The cursor's row has cells, which are part of the line being joined. -/
  target : s.line.isEmpty → s.target = none

variable {cols : Nat} {s : Joining} {done : List (List Cell)}

theorem fits_extend (h : Fits cols s.line.toList) {row : Row} (hrow : Fits cols row.cells.toList)
    (cursor : Option Nat) : Fits cols (s.extend row cursor).line.toList := by
  rw [extend, Array.toList_append]
  exact h.append hrow

theorem prefix_trimmed (s : Joining) : s.trimmed <+: s.line.toList :=
  ⟨_, (trimmed_append s).symm⟩

theorem fits_trimmed (h : Fits cols s.line.toList) : Fits cols s.trimmed :=
  ⟨sound_trimmed h.sound, fun c hc => h.room c (s.prefix_trimmed.subset hc)⟩

theorem trim_trimmed (s : Joining) : trim s.trimmed = trim s.line.toList := by
  rw [s.trimmed_append, trim_append_of_empty]
  exact fun c hc => List.mem_rtakeWhile_imp hc

/-- A line that is cut, trimmed or not, is read as it was, spread over the new rows. -/
theorem Reads.cut (h : s.Reads cols done) (hcols : 0 < cols) {line : List Cell}
    (hline : Fits cols line) (htrim : trim line = trim s.line.toList) (rest : List Row) :
    (chains ((s.cut cols line).rows.toList ++ rest)).map trim =
      done ++ spread cols 0 (trim s.line.toList) :: (chains rest).map trim := by
  obtain ⟨piece, n, hrows, hchains, -⟩ := cutLine_chains hcols hline s.target s.rows
  have cut : (s.cut cols line).rows.toList = s.rows.toList ++ piece := hrows
  rw [cut, List.append_assoc, h.rows, hchains, List.map_cons,
    trim_append_of_empty (padding_isEmpty n), trim_spread cols 0 hline.sound, htrim]

/-- Whether a prompt starts on a row is not text. -/
theorem map_shape_markPrompt (s : Joining) (index : Nat) :
    (s.markPrompt index).rows.toList.map Row.shape = s.rows.toList.map Row.shape := by
  rw [markPrompt, Array.toList_modify]
  apply List.ext_getElem?
  intro i
  rw [List.getElem?_map, List.getElem?_map, List.getElem?_modify]
  cases s.rows.toList[i]? with
  | none => rfl
  | some r =>
    by_cases h : index = i
    · simp [h, Row.shape]
    · simp [h]

/-- Joining a row takes its line from what is ahead. -/
theorem Reads.addRow (h : s.Reads cols done) (hcols : 0 < cols) {row : Row}
    (hrow : Fits cols row.cells.toList) (hpos : 0 < row.cells.size) (cursor : Option Nat)
    (rows : List Row) :
    ∃ done', (s.addRow cols row cursor).Reads cols done' ∧
      done' ++ ((s.addRow cols row cursor).ahead (chains rows)).map (spread cols 0 ∘ trim) =
        done ++ (s.ahead (chains (row :: rows))).map (spread cols 0 ∘ trim) := by
  have filled : (s.line ++ row.cells).isEmpty = false := by
    simp only [Array.isEmpty, Array.size_append, decide_eq_false_iff_not]
    omega
  have extended : (s.extend row cursor).Reads cols done :=
    ⟨h.rows, fits_extend h.line hrow cursor, fun he => absurd (filled ▸ he) (by simp)⟩
  rw [addRow_eq]
  dsimp only
  -- A row that goes on is only joined; one that does not ends the line, which is cut.
  split
  · rename_i hwrapped
    refine ⟨done, extended, ?_⟩
    congr 2
    rw [ahead, ahead, chains, if_pos hwrapped]
    show (if (s.line ++ row.cells).isEmpty then _ else glue (s.line ++ row.cells).toList _) = _
    rw [filled, if_neg (by simp), Array.toList_append]
    split
    · rename_i hempty
      rw [Array.isEmpty_iff.1 hempty]
      rfl
    · exact (glue_glue ..).symm
  · rename_i hwrapped
    refine ⟨done ++ [spread cols 0 (trim (s.line ++ row.cells).toList)],
      ⟨fun rest => ?_, fits_nil, by simp⟩, ?_⟩
    · let cut := (s.extend row cursor).cut cols (s.extend row cursor).trimmed
      have marked : chains ((cut.markPrompt (s.extend row cursor).rows.size).rows.toList ++ rest) =
          chains (cut.rows.toList ++ rest) := by
        apply chains_congr
        rw [List.map_append, List.map_append, map_shape_markPrompt]
      show (chains ((cut.markPrompt (s.extend row cursor).rows.size).rows.toList ++ rest)).map
        trim = done ++ [spread cols 0 (trim (s.line ++ row.cells).toList)] ++ (chains rest).map trim
      rw [marked, extended.cut hcols (fits_trimmed extended.line) (trim_trimmed _),
        List.append_assoc]
      rfl
    · rw [ahead, ahead, chains, if_neg hwrapped, List.append_assoc]
      show done ++ (spread cols 0 (trim (s.line ++ row.cells).toList) ::
        (chains rows).map (spread cols 0 ∘ trim)) = _
      congr 1
      rw [Array.toList_append]
      split
      · rename_i hempty
        rw [Array.isEmpty_iff.1 hempty]
        rfl
      · rfl

/-- What rows joined one after the other are read as. -/
theorem Reads.foldl_addRow (h : s.Reads cols done) (hcols : 0 < cols)
    (cursor : Row × Nat → Option Nat) {l : List (Row × Nat)}
    (hl : ∀ e ∈ l, Fits cols e.1.cells.toList ∧ 0 < e.1.cells.size) :
    (chains ((l.foldl (fun s e => s.addRow cols e.1 (cursor e)) s).finish cols).rows.toList).map
      trim = done ++ (s.ahead (chains (l.map Prod.fst))).map (spread cols 0 ∘ trim) := by
  induction l generalizing s done with
  | nil =>
    rw [List.foldl_nil, List.map_nil, chains, ahead, Joining.finish]
    by_cases hempty : s.line.isEmpty
    · have rows := h.rows []
      rw [List.append_nil] at rows
      rw [hempty, h.target hempty]
      exact rows
    · have rows := h.cut hcols h.line rfl []
      rw [List.append_nil] at rows
      rw [if_neg hempty, if_neg (by simp [hempty])]
      exact rows
  | cons e l ih =>
    obtain ⟨hfits, hpos⟩ := hl e List.mem_cons_self
    obtain ⟨done', hadded, heq⟩ := h.addRow hcols hfits hpos (cursor e) (l.map Prod.fst)
    rw [List.foldl_cons, ih hadded fun e he => hl e (List.mem_cons_of_mem _ he), heq, List.map_cons]

end Joining

/-- Reflow spreads the text over the new rows, line by line. -/
theorem rows_chains {cols : Nat} (hcols : 0 < cols) {old : List Row}
    (hold : ∀ r ∈ old, Fits cols r.cells.toList ∧ 0 < r.cells.size) (cursor : Place) :
    (chains (rows old cols cursor).1).map trim = (chains old).map (spread cols 0 ∘ trim) := by
  have start : Joining.Reads cols {} [] := ⟨fun rest => rfl, fits_nil, fun _ => rfl⟩
  have entries : ∀ e ∈ old.zipIdx, Fits cols e.1.cells.toList ∧ 0 < e.1.cells.size :=
    fun e he => hold _ (List.fst_mem_of_mem_zipIdx he)
  have read := start.foldl_addRow hcols
    (fun e => if e.2 = cursor.line then some cursor.col else none) entries
  rw [List.zipIdx_map_fst] at read
  exact read

end Teletype.Reflow
