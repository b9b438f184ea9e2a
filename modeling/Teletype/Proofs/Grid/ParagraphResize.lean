import Teletype.Proofs.Grid.Paragraph
import Teletype.Proofs.Grid.RoundTrip

/-!
# One line of text at another size

A line that starts in the first row is cut anew from the first row on. The cursor keeps its index in
the line, and nothing follows it but blanks.
-/

namespace Teletype

namespace Reflow

variable {cols : Nat}

/-- Rows that go on and one that does not hold the cells of all of them. -/
theorem holds_append {full : List Row} (hfull : ∀ r ∈ full, r.wrapped = true ∧ r.cells.size = cols)
    {last : Row} (hwrapped : last.wrapped = false) (hsize : last.cells.size = cols) :
    Holds cols full.length (full.flatMap (·.cells.toList) ++ last.cells.toList)
      ((full ++ [last]).map Row.shape) := by
  induction full with
  | nil =>
    have row : Holds cols 0 last.cells.toList [(last.cells, false)] :=
      .last hsize fun _ h => absurd h List.not_mem_nil
    rwa [← hwrapped] at row
  | cons r full ih =>
    obtain ⟨hr, hrest⟩ := List.forall_mem_cons.1 hfull
    have row := Holds.cons hr.2 (ih hrest)
    rw [List.flatMap_cons, List.append_assoc, List.length_cons, List.cons_append, List.map_cons]
    rwa [← hr.1] at row

namespace Cutting

/-- The cursor stays on the last cell. -/
theorem cursor_cells_last (cols : Nat) {l : List Cell} {c : Cell} (hl : ∀ d ∈ l, d.extent = .narrow)
    (hc : c.extent = .narrow) (i : Nat) (s : Cutting) :
    let cut := cells cols (some (i + l.length)) i s (l ++ [c])
    cut.cursor = some ⟨cut.rows.size, cut.current.size - 1⟩ ∧ 0 < cut.current.size := by
  induction l generalizing i s with
  | nil =>
    rw [List.nil_append, cells_narrow hc, List.length_nil, Nat.add_zero]
    dsimp only
    rw [if_pos rfl, Cutting.cells]
    simp [Cutting.add, Cutting.placeCursor]
  | cons d l ih =>
    obtain ⟨hd, hl⟩ := List.forall_mem_cons.1 hl
    have later := ih hl (i + 1) ((s.makeRoom cols 1).add d)
    rw [List.cons_append, cells_narrow hd]
    dsimp only
    rw [if_neg (by simp), List.length_cons, show i + (l.length + 1) = i + 1 + l.length by omega]
    exact later

/-- Narrow glyphs are cut with nothing between them. -/
theorem filled_narrow (hcols : 0 < cols) {line : List Cell} (hline : ∀ c ∈ line, c.extent = .narrow)
    (cursor : Option Nat) : Filled cols #[] line (cells cols cursor 0 { rows := #[] } line) := by
  have start : Filled cols #[] [] { rows := #[] } := ⟨Nat.zero_le _, [], by simp, by simp, rfl⟩
  have fits : Fits cols line := ⟨sound_of_narrow hline, fun c hc hhead => by
    rw [Cell.isHead, hline c hc] at hhead
    exact absurd hhead (by decide)⟩
  have filled := start.cells hcols fits cursor 0
  rwa [spread_eq_self_iff.2 (seated_of_narrow hline), List.nil_append] at filled

/-- Finishing the last row pads the text. -/
theorem Filled.holds {line : List Cell} {s : Cutting} (h : Filled cols #[] line s) :
    Holds cols s.rows.size (line ++ padding (cols - s.current.size))
      ((s.finishRow cols false).rows.toList.map Row.shape) := by
  obtain ⟨full, hrows, hfull, htext⟩ := h.rows
  have size := h.size
  let last : Row :=
    { cells := s.current ++ Array.replicate (cols - s.current.size) {}, seq := 0, wrapped := false }
  have rows : (s.finishRow cols false).rows.toList = full ++ [last] := by
    rw [Cutting.finishRow, Array.toList_push, hrows]
    rfl
  have count : s.rows.size = full.length := by
    rw [← Array.length_toList, hrows]
    rfl
  have joined : full.flatMap (·.cells.toList) ++ last.cells.toList =
      line ++ padding (cols - s.current.size) := by
    rw [← htext, List.append_assoc]
    simp [last, padding]
  have last_wrapped : last.wrapped = false := rfl
  rw [rows, count, ← joined]
  exact holds_append hfull last_wrapped (by simp [last]; omega)

end Cutting

/-- A line with the cursor on its last cell. -/
theorem cutLine_last (hcols : 0 < cols) {line : List Cell} (hne : line ≠ [])
    (hline : ∀ c ∈ line, c.extent = .narrow) :
    ∃ k, Holds cols ((line.length - 1) / cols) (line ++ padding k)
        ((cutLine cols line (some (line.length - 1)) #[]).1.toList.map Row.shape) ∧
      (cutLine cols line (some (line.length - 1)) #[]).2 =
        some ⟨(line.length - 1) / cols, (line.length - 1) % cols⟩ := by
  have filled := Cutting.filled_narrow hcols hline (some (line.length - 1))
  obtain ⟨l, c, rfl⟩ := (List.eq_nil_or_concat' line).resolve_left hne
  have placed := Cutting.cursor_cells_last cols
    (fun d hd => hline d (List.mem_append_left _ hd)) (hline c (by simp)) 0 { rows := #[] }
  have index : (l ++ [c]).length - 1 = 0 + l.length := by simp
  rw [← index] at placed
  generalize hcut :
    Cutting.cells cols (some ((l ++ [c]).length - 1)) 0 { rows := #[] } (l ++ [c]) =
    cut at filled placed
  obtain ⟨hcursor, hpos⟩ := placed
  have whole : cutLine cols (l ++ [c]) (some ((l ++ [c]).length - 1)) #[] =
      ((cut.finishRow cols false).rows, cut.cursor) := by
    unfold cutLine
    rw [hcut]
    dsimp only
    rw [hcursor]
    dsimp only
    rw [← hcursor]
    rfl
  have held := filled.holds
  have size := filled.size
  have index_eq : (l ++ [c]).length - 1 = cols * cut.rows.size + (cut.current.size - 1) := by
    have length := held.length_line
    rw [Nat.succ_mul, Nat.mul_comm] at length
    omega
  have column : cut.current.size - 1 < cols := by omega
  have line_eq : ((l ++ [c]).length - 1) / cols = cut.rows.size := by
    rw [index_eq, Nat.mul_add_div hcols, Nat.div_eq_of_lt column, Nat.add_zero]
  have col_eq : ((l ++ [c]).length - 1) % cols = cut.current.size - 1 := by
    rw [index_eq, Nat.mul_add_mod, Nat.mod_eq_of_lt column]
  rw [whole, line_eq, col_eq, hcursor]
  exact ⟨cols - cut.current.size, held, rfl⟩

namespace Joining

variable {s : Joining}

/-- The joined line is cut, and the next one starts. -/
def ended (s : Joining) (cols : Nat) : Joining :=
  let next := (s.cut cols s.trimmed).markPrompt s.rows.size
  { rows := next.rows, cursor := next.cursor }

/-- Joins a row and its index, with the cursor at a place. -/
def join (cols : Nat) (cursor : Place) (s : Joining) (entry : Row × Nat) : Joining :=
  s.addRow cols entry.1 (if entry.2 = cursor.line then some cursor.col else none)

/-- The rows of a line are joined up to the one with the cursor, which ends it. -/
theorem foldl_join_line (cols : Nat) {old n : Nat} {cells : List Cell} {rows : List Row}
    (h : Holds old n cells (rows.map Row.shape)) (htarget : s.target = none) {cursor : Place}
    {i : Nat} (hcursor : cursor.line = i + n) :
    ∃ s' : Joining, s'.target = some (s.line.size + n * old + cursor.col) ∧
      s'.line.toList = s.line.toList ++ cells ∧ s'.rows = s.rows ∧
      (rows.zipIdx i).foldl (join cols cursor) s =
        ((rows.drop (n + 1)).zipIdx (cursor.line + 1)).foldl (join cols cursor)
          (s'.ended cols) := by
  generalize hshapes : rows.map Row.shape = shapes at h
  induction h generalizing rows s i with
  | last _ _ =>
    obtain ⟨row, rest, rfl, hrow, -⟩ := List.map_eq_cons_iff.1 hshapes
    have wrapped : row.wrapped = false := congrArg Prod.snd hrow
    have cells : row.cells = _ := congrArg Prod.fst hrow
    refine ⟨s.extend row (some cursor.col), ?_, ?_, rfl, ?_⟩
    · simp [extend]
    · rw [extend, Array.toList_append, cells]
    · have here : i = cursor.line := hcursor.symm
      rw [List.zipIdx_cons, List.foldl_cons, join, if_pos here, addRow_eq, here]
      dsimp only
      rw [wrapped, if_neg Bool.false_ne_true]
      rfl
  | @cons first n more shapes hsize _ ih =>
    obtain ⟨row, rest, rfl, hrow, hrest⟩ := List.map_eq_cons_iff.1 hshapes
    have wrapped : row.wrapped = true := congrArg Prod.snd hrow
    have cells : row.cells = _ := congrArg Prod.fst hrow
    have joined : join cols cursor s (row, i) = s.extend row none := by
      rw [join, if_neg (show ¬i = cursor.line by omega), addRow_eq]
      dsimp only
      rw [wrapped, if_pos rfl]
    obtain ⟨s', htarget', hline, hrows, hfold⟩ :=
      ih (s := s.extend row none) (by simp [extend, htarget]) (i := i + 1) (by omega) hrest
    refine ⟨s', ?_, ?_, hrows, ?_⟩
    · rw [htarget']
      simp only [extend, Array.size_append, cells, hsize, Nat.succ_mul]
      congr 1
      omega
    · rw [hline, extend, Array.toList_append, cells, List.append_assoc]
    · rw [List.zipIdx_cons, List.foldl_cons, joined, hfold]
      rfl

/-- A blank row after a finished line is a line of its own. -/
theorem ended_blank (cols : Nat) {old : Nat} {row : Row} (hrow : row.shape = Row.blankShape old)
    (hline : s.line = #[]) (htarget : s.target = none) :
    let next := (s.extend row none).ended cols
    next.cursor = s.cursor ∧
      next.rows.toList.map Row.shape = s.rows.toList.map Row.shape ++ [Row.blankShape cols] := by
  have cells : row.cells = Array.replicate old {} := congrArg Prod.fst hrow
  have trimmed : (s.extend row none).trimmed = [] := by
    have line : (s.extend row none).line.toList = padding old := by
      rw [extend, hline, cells]
      simp [padding]
    have target : (s.extend row none).kept = 0 := by
      simp [extend, kept, htarget]
    rw [trimmed_eq, line, target, List.take_zero, List.nil_append, List.drop_zero]
    exact List.rdropWhile_eq_nil_iff.2 (padding_isEmpty old)
  have cut : cutLine cols [] (s.extend row none).target s.rows =
      (s.rows.push { cells := Array.replicate cols {}, seq := 0, wrapped := false }, none) := by
    have none : (s.extend row none).target = none := by simp [extend, htarget]
    rw [none]
    simp [cutLine, Cutting.cells, Cutting.finishRow]
  dsimp only [ended]
  rw [map_shape_markPrompt, trimmed, markPrompt, Joining.cut]
  show (cutLine cols [] (s.extend row none).target s.rows).2.getD s.cursor = s.cursor ∧
    (cutLine cols [] (s.extend row none).target s.rows).1.toList.map Row.shape = _
  rw [cut]
  exact ⟨rfl, by simp [Row.shape, Row.blankShape]⟩

/-- Blank rows after the cursor stay blank rows. -/
theorem foldl_join_blank (cols : Nat) {old : Nat} {rows : List Row}
    (h : ∀ r ∈ rows, r.shape = Row.blankShape old) (hline : s.line = #[])
    (htarget : s.target = none) {cursor : Place} {i : Nat} (hcursor : cursor.line < i) :
    let joined := (rows.zipIdx i).foldl (join cols cursor) s
    joined.line = #[] ∧ joined.target = none ∧ joined.cursor = s.cursor ∧
      joined.rows.toList.map Row.shape =
        s.rows.toList.map Row.shape ++ List.replicate rows.length (Row.blankShape cols) := by
  induction rows generalizing s i with
  | nil => exact ⟨hline, htarget, rfl, by simp⟩
  | cons row rows ih =>
    obtain ⟨hrow, hrest⟩ := List.forall_mem_cons.1 h
    have joined : join cols cursor s (row, i) = (s.extend row none).ended cols := by
      have wrapped : row.wrapped = false := congrArg Prod.snd hrow
      rw [join, if_neg (show ¬i = cursor.line by omega), addRow_eq]
      dsimp only
      rw [wrapped, if_neg Bool.false_ne_true]
      rfl
    obtain ⟨hplace, hrows⟩ := ended_blank cols hrow hline htarget
    obtain ⟨hline', htarget', hplace', hrows'⟩ :=
      ih (s := (s.extend row none).ended cols) hrest rfl rfl (show cursor.line < i + 1 by omega)
    rw [List.zipIdx_cons, List.foldl_cons, joined]
    refine ⟨hline', htarget', hplace'.trans hplace, ?_⟩
    rw [hrows', hrows, List.append_assoc, List.length_cons, List.replicate_succ,
      List.singleton_append]

/-- The line with the cursor is cut with the cells up to the cursor. -/
theorem trimmed_of_empty {index : Nat} (htarget : s.target = some index)
    (hempty : ∀ c ∈ s.line.toList.drop (index + 1), c.isEmpty) :
    s.trimmed = s.line.toList.take (index + 1) := by
  have kept : s.kept = index + 1 := by rw [Joining.kept, htarget]
  rw [Joining.trimmed_eq, kept, List.rdropWhile_eq_nil_iff.2 hempty, List.append_nil]

/-- The first line has the cursor on its last cell. -/
theorem ended_last (hcols : 0 < cols) (hrows : s.rows = #[]) {index : Nat}
    (htarget : s.target = some index) (hlength : s.trimmed.length = index + 1)
    (hnarrow : ∀ c ∈ s.trimmed, c.extent = .narrow) :
    ∃ k, Holds cols (index / cols) (s.trimmed ++ padding k)
      ((s.ended cols).rows.toList.map Row.shape) ∧
      (s.ended cols).cursor = ⟨index / cols, index % cols⟩ := by
  have nonempty : s.trimmed ≠ [] := List.ne_nil_of_length_pos (by omega)
  obtain ⟨k, hcut, hplace⟩ := cutLine_last hcols nonempty hnarrow
  rw [show s.trimmed.length - 1 = index by omega] at hcut hplace
  refine ⟨k, ?_, ?_⟩
  · rwa [ended, map_shape_markPrompt, Joining.cut, htarget, hrows]
  · show (cutLine cols s.trimmed s.target s.rows).2.getD s.cursor = _
    rw [htarget, hrows, hplace]
    rfl

theorem finish_of_empty (hline : s.line = #[]) (htarget : s.target = none) : s.finish cols = s := by
  rw [finish, hline, htarget]
  rfl

end Joining

/-- The rows of a line are joined up to the cursor's. What is blank after the cursor is left out of
the line, which then ends at the cursor. -/
theorem Joining.foldl_join_trimmed (cols : Nat) {old n col m : Nat} {line : List Cell}
    {rows : List Row} (h : Holds old n (line ++ padding m) (rows.map Row.shape))
    (hlength : line.length ≤ n * old + col + 1) (hcol : col < old) :
    ∃ s : Joining, s.target = some (n * old + col) ∧ s.rows = #[] ∧
      s.trimmed = line ++ padding (n * old + col + 1 - line.length) ∧
      (rows.zipIdx 0).foldl (join cols ⟨n, col⟩) {} =
        ((rows.drop (n + 1)).zipIdx (n + 1)).foldl (join cols ⟨n, col⟩) (s.ended cols) := by
  have length := h.length_line
  rw [Nat.succ_mul] at length
  obtain ⟨s, htarget, hjoined, hrows, hfold⟩ := foldl_join_line cols (s := {}) h rfl
    (show (⟨n, col⟩ : Place).line = 0 + n from (Nat.zero_add n).symm)
  rw [show (({} : Joining).line.size + n * old + col) = n * old + col by simp] at htarget
  have split : line ++ padding m =
      (line ++ padding (n * old + col + 1 - line.length)) ++ padding (old - col - 1) := by
    rw [List.append_assoc, padding_append]
    congr 2
    omega
  have kept_length : (line ++ padding (n * old + col + 1 - line.length)).length =
      n * old + col + 1 := by
    rw [List.length_append, padding, List.length_replicate]
    omega
  rw [List.nil_append, split] at hjoined
  refine ⟨s, htarget, hrows, ?_, hfold⟩
  rw [trimmed_of_empty htarget, hjoined, List.take_left' kept_length]
  rw [hjoined, List.drop_left' kept_length]
  exact padding_isEmpty _

/-- A line of narrow glyphs is cut anew, with the cursor at the same index, which only blanks
follow. -/
theorem rows_holds (hcols : 0 < cols) {old n col m : Nat} {line : List Cell} {rows : List Row}
    (h : Holds old n (line ++ padding m) (rows.map Row.shape))
    (hline : ∀ c ∈ line, c.extent = .narrow)
    (hlength : line.length ≤ n * old + col + 1) (hcol : col < old) :
    ∃ k, Holds cols ((n * old + col) / cols) (line ++ padding k)
        ((Reflow.rows rows cols ⟨n, col⟩).1.map Row.shape) ∧
      (Reflow.rows rows cols ⟨n, col⟩).2 = ⟨(n * old + col) / cols, (n * old + col) % cols⟩ := by
  obtain ⟨s, htarget, hrows, trimmed, hfold⟩ := Joining.foldl_join_trimmed cols h hlength hcol
  have narrow : ∀ c ∈ s.trimmed, c.extent = .narrow := by
    rw [trimmed]
    exact narrow_append_padding hline _
  have length : s.trimmed.length = n * old + col + 1 := by
    rw [trimmed, List.length_append, padding, List.length_replicate]
    omega
  obtain ⟨k, hcut, hplace⟩ := Joining.ended_last hcols hrows htarget length narrow
  -- blank rows follow
  have blank : ∀ r ∈ rows.drop (n + 1), r.shape = Row.blankShape old := by
    intro r hr
    refine h.drop_blank _ ?_
    rw [← List.map_drop]
    exact List.mem_map_of_mem hr
  obtain ⟨hempty, hnone, hcursor, hblank⟩ := Joining.foldl_join_blank cols (s := s.ended cols)
    blank rfl rfl (show (⟨n, col⟩ : Place).line < n + 1 from Nat.lt_succ_self n)
  have result : Reflow.rows rows cols ⟨n, col⟩ =
      let joined :=
        ((rows.drop (n + 1)).zipIdx (n + 1)).foldl (Joining.join cols ⟨n, col⟩) (s.ended cols)
      (joined.rows.toList, joined.cursor) := by
    show (((rows.zipIdx 0).foldl (Joining.join cols ⟨n, col⟩) {}).finish cols |>.rows.toList,
      ((rows.zipIdx 0).foldl (Joining.join cols ⟨n, col⟩) {}).finish cols |>.cursor) = _
    rw [hfold, Joining.finish_of_empty hempty hnone]
  rw [result]
  refine ⟨n * old + col + 1 - line.length + k, ?_, hcursor.trans hplace⟩
  dsimp only
  rw [hblank, ← padding_append, ← List.append_assoc, ← trimmed]
  exact hcut.append_blank _

end Reflow

open Reflow

namespace Grid

variable {kind : ScreenKind} {cols rows : Nat} {g : Grid} {line : List Cell} {m : Nat}

theorem Valid.refit_holds (h : g.Valid kind cols rows)
    (hlines : Holds cols (g.history + g.cursor.row) (line ++ padding m) (g.lines.map Row.shape))
    (hline : ∀ c ∈ line, c.extent = .narrow) (hlength : line.length ≤ g.cursorIndex + 1)
    {cols' : Nat} (hcols : 0 < cols') :
    ∃ k, Holds cols' (g.cursorIndex / cols') (line ++ padding k)
      ((g.refit cols' true).1.map Row.shape) ∧
      (g.refit cols' true).2 = ⟨g.cursorIndex / cols', g.cursorIndex % cols'⟩ := by
  have col := h.cursor_col
  have index : g.cursorIndex = (g.history + g.cursor.row) * cols + g.cursor.col := by
    rw [cursorIndex, h.cols_eq]
  rw [index] at hlength ⊢
  unfold Grid.refit
  dsimp only
  split
  · exact rows_holds hcols hlines hline hlength col
  · rename_i hsame
    have same : cols' = cols := by
      have := h.cols_eq
      simp only [Bool.true_and, decide_eq_true_eq, ne_eq, Decidable.not_not] at hsame
      omega
    have fitted : g.lines.map (·.fit cols') = g.lines := by
      refine (List.map_congr_left fun r hr => ?_).trans (List.map_id _)
      rw [same, ← (h.lines r hr).size, Row.fit_self]
      rfl
    have line_eq : ((g.history + g.cursor.row) * cols + g.cursor.col) / cols =
        g.history + g.cursor.row := by
      rw [Nat.mul_comm, Nat.mul_add_div h.cols_pos, Nat.div_eq_of_lt col, Nat.add_zero]
    have col_eq : ((g.history + g.cursor.row) * cols + g.cursor.col) % cols = g.cursor.col := by
      rw [Nat.mul_comm, Nat.mul_add_mod, Nat.mod_eq_of_lt col]
    rw [fitted, same, line_eq, col_eq, Nat.min_eq_left (by omega)]
    exact ⟨m, hlines, rfl⟩

/-- Blank rows are left out and added after the line. -/
theorem settle_holds {n : Nat} {cells : List Cell} {lines : List Row}
    (h : Holds cols n cells (lines.map Row.shape)) (hrows : 0 < rows) :
    Holds cols n cells ((settle cols rows n lines).map Row.shape) ∧
      (settle cols rows n lines).length = n + 1 + (rows - (n + 1)) := by
  have lt : n < lines.length := by
    have := h.lt_length
    rwa [List.length_map] at this
  have dropped : dropBlankEnd (n + 1) lines = lines.take (n + 1) := by
    have blank : ∀ r ∈ lines.drop (n + 1), r.isBlank := by
      intro r hr
      have mem := List.mem_map_of_mem (f := Row.shape) hr
      rw [List.map_drop] at mem
      have shape := h.drop_blank _ mem
      have cells : r.cells = Array.replicate cols {} := congrArg Prod.fst shape
      have wrapped : r.wrapped = false := congrArg Prod.snd shape
      rw [Row.isBlank, cells, wrapped, Bool.not_false, Bool.true_and]
      exact Array.all_eq_true_iff_forall_mem.2 fun c hc => by rw [(Array.mem_replicate.1 hc).2]; rfl
    rw [dropBlankEnd_eq, List.rdropWhile_eq_nil_iff.2 blank, List.append_nil]
  have length : (lines.take (n + 1)).length = n + 1 := by
    rw [List.length_take]
    omega
  unfold settle
  rw [dropped]
  dsimp only
  rw [length, List.take_of_length_le
    (by rw [List.length_append, length, List.length_replicate]; omega)]
  refine ⟨?_, by rw [List.length_append, length, List.length_replicate]⟩
  rw [List.map_append, List.map_take, List.map_replicate]
  exact h.take.append_blank _

/-- At another size the line is cut anew, as long as there is room for it. The cursor keeps its
index. -/
theorem Valid.resize_holds (h : g.Valid .primary cols rows)
    (hlines : Holds cols (g.history + g.cursor.row) (line ++ padding m) (g.lines.map Row.shape))
    (hline : ∀ c ∈ line, c.extent = .narrow) (hlength : line.length ≤ g.cursorIndex + 1)
    {rows' cols' : Nat} (hrows : 0 < rows') (hcols : 0 < cols')
    (hsize : ¬(rows' = g.rows ∧ cols' = g.cols))
    (hroom : g.cursorIndex < cols' * (g.scrollback + rows')) :
    let g' := g.resize rows' cols' true
    ∃ k, Holds cols' (g'.history + g'.cursor.row) (line ++ padding k) (g'.lines.map Row.shape) ∧
      g'.cursorIndex = g.cursorIndex := by
  obtain ⟨k, hrefit, hplace⟩ := h.refit_holds hlines hline hlength hcols
  obtain ⟨hsettled, hsettled_length⟩ := settle_holds hrefit hrows
  have resplit : g.resplit rows' cols' =
      settle cols' rows' (g.cursorIndex / cols') (g.refit cols' true).1 := by
    rw [resplit_eq, hplace]
  rw [← resplit] at hsettled hsettled_length
  have fits : (g.resplit rows' cols').length ≤ capacityFor .primary rows' g.scrollback := by
    have le := le_nextPowerOfTwo (g.scrollback + rows')
    have lt : g.cursorIndex / cols' < g.scrollback + rows' := Nat.div_lt_of_lt_mul hroom
    rw [hsettled_length]
    show _ ≤ nextPowerOfTwo (g.scrollback + rows')
    omega
  obtain ⟨hlines', hline', hcol'⟩ := h.lines_resize hrows hcols hsize fits
  have hcols' : (g.resize rows' cols' true).cols = cols' := by
    have := (h.resize rows' cols' true).cols_eq
    rwa [Nat.max_eq_left hcols] at this
  rw [hplace] at hline' hcol'
  dsimp only at hline' hcol' ⊢
  rw [cursorIndex, hlines', hline', hcol', hcols']
  refine ⟨k, hsettled, ?_⟩
  have lt := Nat.mod_lt g.cursorIndex hcols
  rw [Nat.min_eq_left (by omega), Nat.div_add_mod']

end Grid

end Teletype
