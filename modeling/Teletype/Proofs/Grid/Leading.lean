import Teletype.Proofs.Grid.ParagraphResize

/-!
# Text up to a place

The line of a place starts after the last row above that does not go on. Reflow spreads it over the
new rows, so that a place among the old rows becomes one that the same glyphs lead up to.
-/

namespace Teletype.Reflow

/-- The last row does not go on, so that what follows starts a line. -/
def Ended (rows : List Row) : Prop := ∀ r ∈ rows.getLast?, r.wrapped = false

/-- The cells of its line before a place. -/
def leading (rows : List Row) (p : Place) : List Cell :=
  ((rows.take p.line).rtakeWhile (·.wrapped)).flatMap (·.cells.toList) ++
    (rows[p.line]?.elim [] (·.cells.toList)).take p.col

/-- The cells of its line up to a place and with the one there. -/
def upTo (rows : List Row) (p : Place) : List Cell := leading rows ⟨p.line, p.col + 1⟩

section

variable {rows : List Row} {p : Place}

theorem leading_append (h : p.line < rows.length) (more : List Row) :
    leading (rows ++ more) p = leading rows p := by
  rw [leading, leading, List.take_append_of_le_length (Nat.le_of_lt h), List.getElem?_append_left h]

theorem upTo_append (h : p.line < rows.length) (more : List Row) :
    upTo (rows ++ more) p = upTo rows p :=
  leading_append (p := ⟨p.line, p.col + 1⟩) h more

theorem leading_congr {rows' : List Row} (h : rows'.map Row.shape = rows.map Row.shape) :
    leading rows' p = leading rows p := by
  have read (rows : List Row) : leading rows p =
      (((rows.map Row.shape).take p.line).rtakeWhile Prod.snd).flatMap (·.1.toList) ++
        ((rows.map Row.shape)[p.line]?.elim [] (·.1.toList)).take p.col := by
    rw [leading, List.getElem?_map, ← List.map_take, List.rtakeWhile, List.rtakeWhile,
      ← List.map_reverse, List.takeWhile_map, ← List.map_reverse, List.flatMap_map]
    congr 2
    cases rows[p.line]? <;> rfl
  rw [read, read, h]

/-- Rows after the end of a line that go on are not part of it. -/
theorem rtakeWhile_ended (h : Ended rows) (more : List Row) :
    (rows ++ more).rtakeWhile (·.wrapped) = more.rtakeWhile (·.wrapped) := by
  induction more using List.reverseRecOn with
  | nil =>
    rw [List.append_nil, List.rtakeWhile_nil, List.rtakeWhile_eq_nil_iff]
    intro hne
    rw [h _ (List.getLast?_eq_some_getLast hne)]
    exact Bool.false_ne_true
  | append_singleton more row ih =>
    rw [← List.append_assoc, List.rtakeWhile_concat, List.rtakeWhile_concat, ih]

/-- The cells before a place are those of its own line, if the rows before ended theirs. -/
theorem leading_ended (h : Ended rows) (more : List Row) :
    leading (rows ++ more) ⟨rows.length + p.line, p.col⟩ = leading more p := by
  rw [leading, leading, List.take_length_add_append, rtakeWhile_ended h,
    List.getElem?_append_right (Nat.le_add_right _ _), Nat.add_sub_cancel_left]

/-- The cells before a place among rows that go on are those of the rows before it, too. -/
theorem leading_full {cols n col : Nat} (hsize : ∀ r ∈ rows, r.cells.size = cols)
    (hn : n < rows.length) (hwrapped : ∀ r ∈ rows.take n, r.wrapped = true) (hcol : col ≤ cols) :
    leading rows ⟨n, col⟩ = (rows.flatMap (·.cells.toList)).take (n * cols + col) := by
  rw [leading, List.rtakeWhile_eq_self_iff.2 hwrapped]
  clear hwrapped
  induction rows generalizing n with
  | nil => exact absurd hn (Nat.not_lt_zero n)
  | cons row rows ih =>
    obtain ⟨hrow, hrest⟩ := List.forall_mem_cons.1 hsize
    have size : row.cells.toList.length = cols := Array.length_toList.trans hrow
    cases n with
    | zero =>
      rw [List.flatMap_cons, Nat.zero_mul, Nat.zero_add, List.take_append_of_le_length (by omega)]
      rfl
    | succ n =>
      have later := ih hrest (Nat.lt_of_succ_lt_succ hn)
      rw [List.flatMap_cons, Nat.succ_mul, Nat.add_right_comm, Nat.add_comm _ cols, ← size,
        List.take_length_add_append, size, ← later, List.take_succ_cons, List.flatMap_cons,
        List.append_assoc]
      rfl

end

/-! ## Spreading in parts -/

theorem spread_append (cols n : Nat) (line more : List Cell) : spread cols n (line ++ more) =
    spread cols n line ++ spread cols (n + (spread cols n line).length) more := by
  induction line generalizing n with
  | nil => rfl
  | cons c line ih =>
    rw [List.cons_append, spread, spread]
    split
    · rw [ih, List.cons_append, List.cons_append, List.length_cons, List.length_cons]
      congr 4
      omega
    · rw [ih, List.cons_append, List.length_cons]
      congr 3
      omega

/-! ## Cutting -/

/-- Only the left half of a glyph has a gap before it. -/
theorem spread_left {cols n : Nat} {c : Cell} (hc : c.extent = .head) :
    spread cols n [c] = padding (if (n + 1) % cols = 0 then 1 else 0) ++ [c] := by
  by_cases hgap : (n + 1) % cols = 0
  · simp [spread, Cell.isHead, hc, hgap, padding]
  · simp [spread, Cell.isHead, hc, hgap, padding]

namespace Cutting

variable {cols : Nat} {before : Array Row} {text : List Cell} {s : Cutting}

/-- The row being filled starts after the rows that the line has filled. -/
theorem Filled.length_eq (h : Filled cols before text s) :
    before.size ≤ s.rows.size ∧
      text.length = (s.rows.size - before.size) * cols + s.current.size := by
  obtain ⟨full, hrows, hfull, rfl⟩ := h.rows
  have sizes : full.map (·.cells.size) = List.replicate full.length cols :=
    List.eq_replicate_iff.2 ⟨List.length_map _, by
      intro n hn
      obtain ⟨r, hr, rfl⟩ := List.mem_map.1 hn
      exact (hfull r hr).2⟩
  have count := congrArg List.length hrows
  rw [List.length_append, Array.length_toList, Array.length_toList] at count
  simp only [List.length_append, List.length_flatMap, Array.length_toList]
  rw [sizes, List.sum_replicate_nat, count, Nat.add_sub_cancel_left]
  exact ⟨Nat.le_add_right _ _, rfl⟩

/-- The place of the last cell of a text that starts in a row. -/
structure Ends (cols start : Nat) (text : List Cell) (p : Place) : Prop where
  le : start ≤ p.line
  col_lt : p.col < cols
  length : text.length = (p.line - start) * cols + p.col + 1

/-- What comes after the cursor leaves it where it is. -/
theorem cursor_cells {l : List Cell} (hl : Fits cols l) {target : Option Nat} {i : Nat}
    (h : ∀ t ∈ target, t < i) : (cells cols target i s l).cursor = s.cursor := by
  have away {j : Nat} (hj : i ≤ j) : target ≠ some j := fun ht => Nat.not_le_of_lt (h j ht) hj
  obtain ⟨⟨hglyphs, -⟩, hroom⟩ := hl
  induction hglyphs generalizing i s with
  | nil => rw [Cutting.cells]
  | @narrow c l hc _ ih =>
    have later :=
      ih (i := i + 1) (s := (s.makeRoom cols 1).add c) (fun t ht => Nat.lt_succ_of_lt (h t ht))
        (fun hj => away (by omega)) fun c hc => hroom c (List.mem_cons_of_mem _ hc)
    rw [cells_narrow hc]
    dsimp only
    rw [if_neg (away (Nat.le_refl i)), later]
    exact cursor_makeRoom s cols 1
  | @wide c d l hc hd _ ih =>
    have later := ih (i := i + 2) (s := ((s.makeRoom cols 2).add c).add d)
      (fun t ht => Nat.lt_add_right 2 (h t ht)) (fun hj => away (by omega))
      fun c hc => hroom c (List.mem_cons_of_mem _ (List.mem_cons_of_mem _ hc))
    rw [cells_wide hc (hroom c List.mem_cons_self (by simp [Cell.isHead, hc]))]
    dsimp only
    rw [if_neg (away (Nat.le_refl i)), if_neg (away (Nat.le_succ i)), later]
    exact cursor_makeRoom s cols 2

/-- The last cell of the text is where the next one was to come before it was added. -/
theorem Filled.ends {c : Cell} (h : Filled cols before (text ++ [c]) (s.add c)) :
    Ends cols before.size (text ++ [c]) ⟨s.rows.size, s.current.size⟩ := by
  obtain ⟨hle, hlength⟩ := h.length_eq
  have hsize := h.size
  rw [Cutting.add, Array.size_push] at hsize hlength
  exact ⟨hle, hsize, hlength⟩

/-- The cursor comes to the last cell of what the glyphs up to it are spread over. -/
theorem Filled.cursor_cells (h : Filled cols before text s) (hcols : 0 < cols) {l : List Cell}
    (hl : Fits cols l) {t i : Nat} (hi : i ≤ t) (ht : t < i + l.length) :
    ∃ p, (Cutting.cells cols (some t) i s l).cursor = some p ∧
      Ends cols before.size (text ++ spread cols text.length (l.take (t + 1 - i))) p := by
  -- The text so far grows by each glyph and the gap before it. The one with the cursor is the last
  -- that counts.
  obtain ⟨⟨hglyphs, hkey⟩, hroom⟩ := hl
  induction hglyphs generalizing i s text with
  | nil => exact absurd ht (by simp; omega)
  | @narrow c l hc hg ih =>
    have hkey' : ∀ c ∈ l, c.extent = .tail → c.key = 0 :=
      fun c hc => hkey c (List.mem_cons_of_mem _ hc)
    have hroom' : ∀ c ∈ l, c.isHead → 2 ≤ cols := fun c hc => hroom c (List.mem_cons_of_mem _ hc)
    have room := size_makeRoom (s := s) hcols
    have added := h.makeRoom_narrow.add room c
    rw [cells_narrow hc]
    dsimp only
    by_cases here : t = i
    · have placed := (h.makeRoom_narrow.placeCursor 0).add room c
      rw [here, if_pos rfl, Cutting.cursor_cells ⟨⟨hg, hkey'⟩, hroom'⟩ (by simp),
        show i + 1 - i = 1 by omega, List.take_succ_cons, List.take_zero, spread_narrow hc]
      exact ⟨_, rfl, added.ends⟩
    · have later :=
        ih added (i := i + 1) (by omega) (by rw [List.length_cons] at ht; omega) hroom' hkey'
      rw [if_neg (by simpa using here), show t + 1 - i = (t + 1 - (i + 1)) + 1 by omega,
        List.take_succ_cons, spread_narrow hc]
      rwa [List.append_assoc, List.length_append] at later
  | @wide c d l hc hd hg ih =>
    have hkey' : ∀ c ∈ l, c.extent = .tail → c.key = 0 := fun c hc =>
      hkey c (List.mem_cons_of_mem _ (List.mem_cons_of_mem _ hc))
    have hroom' : ∀ c ∈ l, c.isHead → 2 ≤ cols := fun c hc =>
      hroom c (List.mem_cons_of_mem _ (List.mem_cons_of_mem _ hc))
    have hwide := hroom c List.mem_cons_self (by simp [Cell.isHead, hc])
    have room := size_makeRoom (s := s) hwide
    have head := (h.makeRoom_wide hwide).add (by omega) c
    have whole := head.add (by simpa only [Cutting.add, Array.size_push] using room) d
    rw [cells_wide hc hwide]
    dsimp only
    by_cases left : t = i
    · rw [left, if_pos rfl, if_neg (by simp), Cutting.cursor_cells ⟨⟨hg, hkey'⟩, hroom'⟩ (by simp),
        show i + 1 - i = 1 by omega, List.take_succ_cons, List.take_zero, spread_left hc,
          ← List.append_assoc]
      exact ⟨_, rfl, head.ends⟩
    · have notLeft : some t ≠ some i := by simpa using left
      rw [if_neg notLeft]
      by_cases right : t = i + 1
      · rw [right, if_pos rfl, Cutting.cursor_cells ⟨⟨hg, hkey'⟩, hroom'⟩ (by simp),
          show i + 1 + 1 - i = 2 by omega, List.take_succ_cons, List.take_succ_cons, List.take_zero,
          spread_wide hc hd]
        refine ⟨_, rfl, ?_⟩
        have ends := whole.ends
        have here : (((s.makeRoom cols 2).add c).add d).current.size - 1 =
            ((s.makeRoom cols 2).add c).current.size := by simp [Cutting.add]
        rw [← here, List.append_assoc, List.append_assoc] at ends
        exact ends
      · have notRight : some t ≠ some (i + 1) := by simpa using right
        rw [if_neg notRight]
        have later :=
          ih whole (i := i + 2) (by omega)
            (by simp only [List.length_cons] at ht; omega) hroom' hkey'
        rw [show t + 1 - i = (t + 1 - (i + 2)) + 2 by omega, List.take_succ_cons,
          List.take_succ_cons, spread_wide hc hd]
        simpa only [List.append_assoc, List.length_append, List.cons_append, List.nil_append,
          List.length_cons, List.length_nil, Nat.add_assoc] using later

/-- The last row of a line ends it, and the place in its rows that a part of its text ends in is one
that this part leads up to. -/
theorem Filled.upTo_finishRow (h : Filled cols before text s) (hbefore : Ended before.toList)
    {shown : List Cell} (hshown : shown <+: text) {p : Place} (hp : Ends cols before.size shown p) :
    p.line < (s.finishRow cols false).rows.size ∧
      upTo (s.finishRow cols false).rows.toList p = shown := by
  obtain ⟨hle, hlength⟩ := h.length_eq
  have hsize := h.size
  obtain ⟨full, hrows, hfull, htext⟩ := h.rows
  let last : Row :=
    { cells := s.current ++ Array.replicate (cols - s.current.size) {}, seq := 0, wrapped := false }
  obtain ⟨n, hn⟩ := Nat.exists_eq_add_of_le hp.le
  have count : s.rows.size = before.size + full.length := by
    rw [← Array.length_toList, hrows, List.length_append, Array.length_toList]
  have rows : (s.finishRow cols false).rows.toList = before.toList ++ (full ++ [last]) := by
    rw [Cutting.finishRow, Array.toList_push, hrows, List.append_assoc]
  have joined :
      (full ++ [last]).flatMap (·.cells.toList) = text ++ padding (cols - s.current.size) := by
    rw [← htext, List.append_assoc, List.flatMap_append]
    simp [last, padding]
  have row : n < full.length + 1 := by
    have shorter := hshown.length_le
    have col := hp.col_lt
    rw [hp.length, hlength, hn, count, Nat.add_sub_cancel_left, Nat.add_sub_cancel_left] at shorter
    refine Nat.lt_of_mul_lt_mul_right (a := cols) ?_
    rw [Nat.succ_mul]
    omega
  constructor
  · rw [← Array.length_toList, rows, List.length_append, List.length_append, Array.length_toList,
      List.length_singleton]
    omega
  · have place : (⟨p.line, p.col + 1⟩ : Place) =
        ⟨before.toList.length + (⟨n, p.col + 1⟩ : Place).line, (⟨n, p.col + 1⟩ : Place).col⟩ := by
      rw [hn, Array.length_toList]
    have sizes : ∀ r ∈ full ++ [last], r.cells.size = cols := by
      refine List.forall_mem_append.2 ⟨fun r hr => (hfull r hr).2, ?_⟩
      simp [last]
      omega
    have goes : ∀ r ∈ (full ++ [last]).take n, r.wrapped = true := by
      intro r hr
      rw [List.take_append_of_le_length (by omega)] at hr
      exact (hfull r (List.mem_of_mem_take hr)).1
    rw [upTo, rows, place, leading_ended hbefore,
      leading_full sizes (by rw [List.length_append, List.length_singleton]; exact row) goes
        hp.col_lt, joined]
    have length : shown.length = n * cols + (p.col + 1) := by
      rw [hp.length, hn, Nat.add_sub_cancel_left, Nat.add_assoc]
    rw [← length, List.take_append_of_le_length hshown.length_le]
    exact (List.prefix_iff_eq_take.1 hshown).symm

theorem ended_finishRow (s : Cutting) (cols : Nat) :
    Ended (s.finishRow cols false).rows.toList := by
  intro r hr
  rw [Cutting.finishRow, Array.toList_push, List.getLast?_concat] at hr
  obtain rfl := Option.mem_some.1 hr
  rfl

end Cutting

theorem ended_cutLine (cols : Nat) (line : List Cell) (target : Option Nat) (rows : Array Row) :
    Ended (cutLine cols line target rows).1.toList := Cutting.ended_finishRow _ cols

/-- A line without the cursor leaves it where it is. -/
theorem cutLine_none {cols : Nat} {line : List Cell} (hline : Fits cols line) (rows : Array Row) :
    (cutLine cols line none rows).2 = none := by
  have kept : (Cutting.cells cols none 0 { rows := rows } line).cursor = none :=
    Cutting.cursor_cells hline (by simp)
  unfold cutLine
  dsimp only
  rw [kept]
  exact kept

/-- The cursor is on the cell at its index, which the cells before it lead up to. -/
theorem cutLine_upTo {cols : Nat} (hcols : 0 < cols) {line : List Cell} (hline : Fits cols line)
    {t : Nat} (ht : t < line.length) {rows : Array Row} (hrows : Ended rows.toList) :
    ∃ p, (cutLine cols line (some t) rows).2 = some p ∧
      p.line < (cutLine cols line (some t) rows).1.size ∧ p.col < cols ∧
      upTo (cutLine cols line (some t) rows).1.toList p = spread cols 0 (line.take (t + 1)) := by
  have start : Cutting.Filled cols rows [] { rows := rows } :=
    ⟨Nat.zero_le _, [], by simp, by simp, rfl⟩
  have cut := start.cells hcols hline (some t) 0
  obtain ⟨p, hp, ends⟩ := start.cursor_cells hcols hline (Nat.zero_le t) (by rwa [Nat.zero_add])
  have shown : spread cols 0 (line.take (t + 1)) <+: spread cols 0 line := by
    have parts := spread_append cols 0 (line.take (t + 1)) (line.drop (t + 1))
    rw [List.take_append_drop] at parts
    exact ⟨_, parts.symm⟩
  obtain ⟨lt, hupTo⟩ := cut.upTo_finishRow hrows shown ends
  have whole : cutLine cols line (some t) rows =
      (((Cutting.cells cols (some t) 0 { rows := rows } line).finishRow cols false).rows,
        some p) := by
    unfold cutLine
    dsimp only
    rw [hp]
    dsimp only
    rw [← hp]
    rfl
  rw [whole]
  exact ⟨p, rfl, lt, ends.col_lt, hupTo⟩

/-! ## Joining -/

theorem ended_congr {rows rows' : List Row} (h : rows'.map Row.shape = rows.map Row.shape)
    (hrows : Ended rows) : Ended rows' := by
  intro r hr
  have last := congrArg List.getLast? h
  rw [List.getLast?_map, List.getLast?_map, Option.mem_def.1 hr] at last
  obtain ⟨r', hr', hshape⟩ := Option.map_eq_some_iff.1 last.symm
  exact (congrArg Prod.snd hshape).symm.trans (hrows r' hr')

namespace Joining

variable {cols : Nat} {s : Joining}

/-- Before the cursor's row, the line being joined has the cells of the last rows that go on. -/
structure Gathers (s : Joining) (joined : List Row) : Prop where
  target : s.target = none
  line : s.line.toList = (joined.rtakeWhile (·.wrapped)).flatMap (·.cells.toList)
  rows : Ended s.rows.toList

theorem ended_ended (s : Joining) (cols : Nat) : Ended (s.ended cols).rows.toList := by
  have cut : Ended (s.cut cols s.trimmed).rows.toList :=
    ended_cutLine cols s.trimmed s.target s.rows
  exact ended_congr (map_shape_markPrompt _ _) cut

theorem addRow_ended (s : Joining) (row : Row) (cursor : Option Nat) :
    s.addRow cols row cursor =
      if row.wrapped then s.extend row cursor else (s.extend row cursor).ended cols :=
  addRow_eq s row cursor

theorem Gathers.addRow {joined : List Row} (h : s.Gathers joined) (row : Row) :
    (s.addRow cols row none).Gathers (joined ++ [row]) := by
  rw [addRow_ended]
  split
  · rename_i hwrapped
    refine ⟨h.target, ?_, h.rows⟩
    rw [List.rtakeWhile_concat_pos _ _ _ hwrapped, List.flatMap_append, ← h.line, extend,
      Array.toList_append]
    simp
  · rename_i hwrapped
    refine ⟨rfl, ?_, ended_ended _ _⟩
    rw [List.rtakeWhile_concat_neg _ _ _ hwrapped]
    rfl

/-- Joining the rows above the cursor's gathers their text. -/
theorem Gathers.foldl_join {joined : List Row} (h : s.Gathers joined) {cursor : Place}
    {rows : List Row} {i : Nat} (hcursor : i + rows.length ≤ cursor.line) :
    ((rows.zipIdx i).foldl (join cols cursor) s).Gathers (joined ++ rows) := by
  induction rows generalizing s joined i with
  | nil => rwa [List.append_nil]
  | cons row rows ih =>
    rw [List.length_cons] at hcursor
    have above : join cols cursor s (row, i) = s.addRow cols row none := by
      rw [join, if_neg (show ¬i = cursor.line by omega)]
    rw [List.zipIdx_cons, List.foldl_cons, above, List.append_cons]
    exact ih (h.addRow row) (by omega)

/-- From the cursor's row on: the given cells lead up to the cursor and end with the one at it, in
the line being joined or, once this was cut, in the new rows. -/
inductive Follows (cols : Nat) (text : List Cell) (s : Joining) : Prop
  | here (t : Nat) (target : s.target = some t) (lt : t < s.line.size)
      (line : s.line.toList.take (t + 1) = text) (rows : Ended s.rows.toList)
  | above (target : s.target = none) (lt : s.cursor.line < s.rows.size) (col : s.cursor.col < cols)
      (rows : upTo s.rows.toList s.cursor = spread cols 0 text)

variable {text : List Cell}

/-- Once the cursor's row is joined, its text follows the cells that lead up to the cursor. -/
theorem Gathers.follows {joined : List Row} (h : s.Gathers joined) {row : Row} {col : Nat}
    (hcol : col < row.cells.size) (below : List Row) : (s.extend row (some col)).Follows cols
      (upTo (joined ++ row :: below) ⟨joined.length, col⟩) := by
  refine .here (s.line.size + col) rfl ?_ ?_ h.rows
  · rw [extend, Array.size_append]
    omega
  · rw [extend, Array.toList_append, ← Array.length_toList, Nat.add_assoc,
      List.take_length_add_append, h.line, upTo, leading, List.take_left,
      List.getElem?_append_right (Nat.le_refl _), Nat.sub_self]
    rfl

theorem Follows.extend (h : s.Follows cols text) (row : Row) :
    (s.extend row none).Follows cols text := by
  cases h with
  | here t target lt line rows =>
    refine .here t target ?_ ?_ rows
    · rw [Joining.extend, Array.size_append]
      omega
    · rw [Joining.extend, Array.toList_append, List.take_append_of_le_length, line]
      rwa [Array.length_toList]
  | above target lt col rows => exact .above target lt col rows

/-- The line is cut up to the cursor at least. -/
theorem Follows.cut (h : s.Follows cols text) (hcols : 0 < cols) {line : List Cell}
    (hline : Fits cols line) (hpart : line <+: s.line.toList)
    (hkept : s.line.toList.take s.kept <+: line) :
    (s.cut cols line).cursor.line < (s.cut cols line).rows.size ∧
      (s.cut cols line).cursor.col < cols ∧
      upTo (s.cut cols line).rows.toList (s.cut cols line).cursor = spread cols 0 text := by
  have cursor : (s.cut cols line).cursor = (cutLine cols line s.target s.rows).2.getD s.cursor :=
    rfl
  have rows : (s.cut cols line).rows = (cutLine cols line s.target s.rows).1 := rfl
  rw [cursor, rows]
  cases h with
  | here t target lt htext ended =>
    rw [kept, target] at hkept
    dsimp only at hkept
    have long : t < line.length := by
      have longer := hkept.length_le
      rw [List.length_take, Array.length_toList] at longer
      omega
    obtain ⟨p, hp, hlt, hcol, hupTo⟩ := cutLine_upTo hcols hline long ended
    have same : line.take (t + 1) = text := by
      obtain ⟨more, hmore⟩ := hpart
      rw [← htext, ← hmore, List.take_append_of_le_length long]
    rw [target, hp, ← same]
    exact ⟨hlt, hcol, hupTo⟩
  | above target lt col htext =>
    obtain ⟨piece, n, happend, -⟩ := cutLine_chains hcols hline none s.rows
    have len := congrArg List.length happend
    rw [List.length_append, Array.length_toList, Array.length_toList] at len
    rw [target, cutLine_none hline, Option.getD_none, happend]
    refine ⟨by omega, col, ?_⟩
    rw [upTo_append (by rwa [Array.length_toList])]
    exact htext

/-- Adding a row from the cursor's on keeps the cells that lead up to the cursor. -/
theorem Follows.addRow {row : Row} {cursor : Option Nat}
    (h : (s.extend row cursor).Follows cols text) (hcols : 0 < cols)
    (hline : Fits cols (s.extend row cursor).line.toList) :
    (s.addRow cols row cursor).Follows cols text := by
  rw [addRow_ended]
  split
  · exact h
  · have kept : (s.extend row cursor).line.toList.take (s.extend row cursor).kept <+:
        (s.extend row cursor).trimmed := ⟨_, (trimmed_eq _).symm⟩
    obtain ⟨lt, col, htext⟩ := h.cut hcols (fits_trimmed hline) (prefix_trimmed _) kept
    refine .above rfl ?_ col ?_
    · rw [ended, markPrompt, Array.size_modify]
      exact lt
    · rw [← htext]
      exact leading_congr (map_shape_markPrompt _ _)

/-- Joining the rows below the cursor's keeps the cells that lead up to the cursor. -/
theorem Follows.foldl_join (h : s.Follows cols text) (hcols : 0 < cols)
    (hs : Fits cols s.line.toList) {cursor : Place} {rows : List Row} {i : Nat}
    (hcursor : cursor.line < i) (hrows : ∀ r ∈ rows, Fits cols r.cells.toList) :
    ((rows.zipIdx i).foldl (join cols cursor) s).Follows cols text := by
  induction rows generalizing s i with
  | nil => exact h
  | cons row rows ih =>
    obtain ⟨hrow, hrest⟩ := List.forall_mem_cons.1 hrows
    have below : join cols cursor s (row, i) = s.addRow cols row none := by
      rw [join, if_neg (show ¬i = cursor.line by omega)]
    rw [List.zipIdx_cons, List.foldl_cons, below]
    exact ih ((h.extend row).addRow hcols (fits_extend hs hrow none)) (fits_addRow hs hrow none)
      (by omega) hrest

/-- The last line is cut as well, if it lacks its end. -/
theorem Follows.finish (h : s.Follows cols text) (hcols : 0 < cols)
    (hline : Fits cols s.line.toList) : (s.finish cols).cursor.line < (s.finish cols).rows.size ∧
      (s.finish cols).cursor.col < cols ∧ upTo (s.finish cols).rows.toList (s.finish cols).cursor =
      spread cols 0 text := by
  unfold Joining.finish
  split
  · rename_i hempty
    cases h with
    | here t target _ => simp [target] at hempty
    | above _ lt col rows => exact ⟨lt, col, rows⟩
  · exact h.cut hcols hline (List.prefix_refl _) (List.take_prefix _ _)

end Joining

/-- The cursor stays on its cell, which the cells of its line lead up to as before, spread over the
new rows. -/
theorem rows_upTo {cols : Nat} (hcols : 0 < cols) {old : List Row}
    (hold : ∀ r ∈ old, Fits cols r.cells.toList) {cursor : Place}
    (hcol : ∀ r ∈ old[cursor.line]?, cursor.col < r.cells.size) (hlt : cursor.line < old.length) :
    (rows old cols cursor).2.line < (rows old cols cursor).1.length ∧
      (rows old cols cursor).2.col < cols ∧ upTo (rows old cols cursor).1 (rows old cols cursor).2 =
      spread cols 0 (upTo old cursor) := by
  obtain ⟨above, row, below, rfl, hlength⟩ : ∃ above row below, old = above ++ row :: below ∧
      above.length = cursor.line := by
    refine ⟨old.take cursor.line, old[cursor.line], old.drop (cursor.line + 1), ?_, ?_⟩
    · rw [← List.drop_eq_getElem_cons hlt, List.take_append_drop]
    · rw [List.length_take]
      omega
  have onRow : cursor.col < row.cells.size := by
    refine hcol row ?_
    rw [← hlength, List.getElem?_append_right (Nat.le_refl _), Nat.sub_self]
    rfl
  have entries : (above ++ row :: below).zipIdx =
      above.zipIdx ++ (row, cursor.line) :: below.zipIdx (cursor.line + 1) := by
    rw [List.zipIdx_append, List.zipIdx_cons, hlength, Nat.zero_add]
  have hrow := hold row (List.mem_append_right _ List.mem_cons_self)
  -- Rows above the cursor's are gathered into its line, its own makes the text that those below
  -- follow.
  let joined := above.zipIdx.foldl (Joining.join cols cursor) {}
  have fits : Fits cols joined.line.toList :=
    Joining.fits_foldl_addRow (s := {}) fits_nil
      (fun e => if e.2 = cursor.line then some cursor.col else none)
      fun e he => hold _ (List.mem_append_left _ (List.fst_mem_of_mem_zipIdx he))
  have gathered : joined.Gathers above := by
    have start : Joining.Gathers {} [] := ⟨rfl, rfl, by simp [Ended]⟩
    exact start.foldl_join (i := 0) (by omega)
  have here := (gathered.follows onRow below).addRow hcols (Joining.fits_extend fits hrow _)
  have fits' := Joining.fits_addRow fits hrow (some cursor.col)
  have fitsBelow : ∀ r ∈ below, Fits cols r.cells.toList :=
    fun r hr => hold r (List.mem_append_right _ (List.mem_cons_of_mem _ hr))
  have follows := here.foldl_join hcols fits' (Nat.lt_succ_self cursor.line) fitsBelow
  have fitsAll : Fits cols ((below.zipIdx (cursor.line + 1)).foldl (Joining.join cols cursor)
      (joined.addRow cols row (some cursor.col))).line.toList :=
    Joining.fits_foldl_addRow fits' (fun e => if e.2 = cursor.line then some cursor.col else none)
      fun e he =>
      hold _ (List.mem_append_right _ (List.mem_cons_of_mem _ (List.fst_mem_of_mem_zipIdx he)))
  have finished := follows.finish hcols fitsAll
  have placed : Joining.join cols cursor joined (row, cursor.line) =
      joined.addRow cols row (some cursor.col) := by
    rw [Joining.join, if_pos rfl]
  have whole : rows (above ++ row :: below) cols cursor =
      let s := (((above ++ row :: below).zipIdx).foldl (Joining.join cols cursor) {}).finish cols
      (s.rows.toList, s.cursor) := rfl
  rw [whole, entries, List.foldl_append, List.foldl_cons, placed]
  rw [hlength] at finished
  exact finished

end Teletype.Reflow
