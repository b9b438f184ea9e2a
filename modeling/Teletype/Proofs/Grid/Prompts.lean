import Teletype.Proofs.Grid.Leading
import Teletype.Proofs.Grid.RoundTrip

/-!
# Prompts on lines that are cut anew

At another width the rows of a line are joined and cut anew, and where a prompt starts has to be
carried over. It is looked for on the first row of a line only, and not carried over to a last line
that lacks its end.
-/

namespace Teletype

namespace Reflow

/-! ## Lines as rows -/

/-- The rows of each line of text. The last row ends its line in any case. -/
def logicalRows : List Row → List (List Row)
  | [] => []
  | row :: rows =>
    if row.wrapped then
      match logicalRows rows with
      | [] => [[row]]
      | line :: lines => (row :: line) :: lines
    else [row] :: logicalRows rows

/-- A prompt starts on one of the rows. -/
def Prompted (line : List Row) : Prop := ∃ r ∈ line, r.prompt = true

/-- A prompt starts on the first row. -/
def PromptedFirst (line : List Row) : Prop := ∃ r ∈ line.head?, r.prompt = true

/-- Whether a prompt starts on one of the rows of each line. -/
def prompts (rows : List Row) : List Bool := (logicalRows rows).map (·.any Row.prompt)

/-- Whether a line has an end and a prompt on its first row. -/
def carriesOver (line : List Row) : Bool :=
  line.head?.any Row.prompt && line.getLast?.all (!·.wrapped)

section

variable {rows more line : List Row} {row : Row}

theorem ne_nil_of_mem_logicalRows (h : line ∈ logicalRows rows) : line ≠ [] := by
  induction rows generalizing line with
  | nil => exact (List.not_mem_nil h).elim
  | cons row rows ih =>
    rw [logicalRows] at h
    split at h
    · split at h
      · exact List.mem_singleton.1 h ▸ List.cons_ne_nil _ _
      · rename_i lines heq
        rcases List.mem_cons.1 h with rfl | h
        · exact List.cons_ne_nil _ _
        · exact ih (heq ▸ List.mem_cons_of_mem _ h)
    · rcases List.mem_cons.1 h with rfl | h
      · exact List.cons_ne_nil _ _
      · exact ih h

theorem prompted_iff : Prompted line ↔ line.any Row.prompt = true := by
  rw [Prompted, List.any_eq_true]

theorem getElem?_prompts_eq_true_iff {k : Nat} :
    (prompts rows)[k]? = some true ↔ ∃ line, (logicalRows rows)[k]? = some line ∧
      Prompted line := by
  simp only [prompts, List.getElem?_map, Option.map_eq_some_iff, prompted_iff]

theorem promptedFirst_and_ended_iff :
    PromptedFirst line ∧ Ended line ↔ carriesOver line = true := by
  rw [PromptedFirst, Ended, carriesOver]
  cases line.head? <;> cases line.getLast? <;> simp

/-- A row that goes on is part of the line of the next one. -/
theorem prompts_cons_wrapped (h : row.wrapped = true) : prompts (row :: rows) =
    match prompts rows with
    | [] => [row.prompt]
    | b :: bs => (row.prompt || b) :: bs := by
  rw [prompts, prompts, logicalRows, if_pos h]
  cases logicalRows rows <;> simp

theorem prompts_cons_ended (h : row.wrapped = false) :
    prompts (row :: rows) = row.prompt :: prompts rows := by
  rw [prompts, prompts, logicalRows, h, if_neg Bool.false_ne_true]
  simp

/-- Only where text goes on and prompts start matters. -/
theorem prompts_congr {rows' : List Row}
    (h : rows'.map (fun r => (r.wrapped, r.prompt)) = rows.map fun r => (r.wrapped, r.prompt)) :
    prompts rows' = prompts rows := by
  induction rows generalizing rows' with
  | nil => rw [List.map_eq_nil_iff.1 h]
  | cons row rows ih =>
    obtain ⟨row', rest, rfl, hrow, hrest⟩ := List.map_eq_cons_iff.1 h
    obtain ⟨hwrapped, hprompt⟩ := Prod.mk.inj hrow
    cases hw : row.wrapped with
    | true =>
      rw [prompts_cons_wrapped hw, prompts_cons_wrapped (hwrapped.trans hw), ih hrest, hprompt]
    | false => rw [prompts_cons_ended hw, prompts_cons_ended (hwrapped.trans hw), ih hrest, hprompt]

theorem prompts_ne_nil (row : Row) (rows : List Row) : prompts (row :: rows) ≠ [] := by
  cases hw : row.wrapped with
  | true =>
    rw [prompts_cons_wrapped hw]
    split <;> exact List.cons_ne_nil _ _
  | false =>
    rw [prompts_cons_ended hw]
    exact List.cons_ne_nil _ _

theorem Ended.of_cons (h : Ended (row :: rows)) : Ended rows := by
  cases rows with
  | nil => exact nofun
  | cons next rows => exact fun r hr => h r (by rwa [List.getLast?_cons_cons])

/-- What follows the end of a line is another one. -/
theorem prompts_append (h : Ended rows) (more : List Row) :
    prompts (rows ++ more) = prompts rows ++ prompts more := by
  induction rows with
  | nil => rfl
  | cons row rows ih =>
    have rest := ih h.of_cons
    cases hw : row.wrapped with
    | false =>
      rw [List.cons_append, prompts_cons_ended hw, prompts_cons_ended hw, rest, List.cons_append]
    | true =>
      cases rows with
      | nil => exact absurd ((h row rfl).symm.trans hw) (by decide)
      | cons next rows =>
        obtain ⟨b, bs, hnext⟩ := List.exists_cons_of_ne_nil (prompts_ne_nil next rows)
        rw [List.cons_append, prompts_cons_wrapped hw, prompts_cons_wrapped hw, rest, hnext]
        rfl

theorem prompts_unmarked (h : ∀ r ∈ rows, r.prompt = false) : ∀ b ∈ prompts rows, b = false := by
  induction rows with
  | nil => exact List.forall_mem_nil _
  | cons row rows ih =>
    rw [List.forall_mem_cons] at h
    have rest := ih h.2
    cases hw : row.wrapped with
    | false =>
      rw [prompts_cons_ended hw]
      exact List.forall_mem_cons.2 ⟨h.1, rest⟩
    | true =>
      rw [prompts_cons_wrapped hw]
      cases hrows : prompts rows with
      | nil => exact List.forall_mem_singleton.2 h.1
      | cons b bs =>
        rw [hrows, List.forall_mem_cons] at rest
        exact List.forall_mem_cons.2 ⟨by rw [h.1, rest.1]; rfl, rest.2⟩

/-- Rows on which no prompt starts add none. -/
theorem prompts_append_unmarked (rows : List Row) (h : ∀ r ∈ more, r.prompt = false) :
    ∃ n, prompts (rows ++ more) = prompts rows ++ List.replicate n false := by
  induction rows with
  | nil =>
    exact ⟨(prompts more).length, List.eq_replicate_iff.2 ⟨rfl, prompts_unmarked h⟩⟩
  | cons row rows ih =>
    obtain ⟨n, hn⟩ := ih
    cases hw : row.wrapped with
    | false =>
      exact ⟨n, by rw [List.cons_append, prompts_cons_ended hw, prompts_cons_ended hw, hn,
        List.cons_append]⟩
    | true =>
      rw [List.cons_append, prompts_cons_wrapped hw, prompts_cons_wrapped hw, hn]
      cases hrows : prompts rows with
      | cons b bs => exact ⟨n, rfl⟩
      | nil =>
        cases n with
        | zero => exact ⟨0, rfl⟩
        | succ n => exact ⟨n, by simp [List.replicate_succ]⟩

/-- The rows of one line have its prompt. -/
theorem prompts_line (h : ∀ r ∈ rows, r.wrapped = true) (row : Row) :
    prompts (rows ++ [row]) = [(rows ++ [row]).any Row.prompt] := by
  induction rows with
  | nil => simp [prompts, logicalRows]
  | cons first rows ih =>
    rw [List.forall_mem_cons] at h
    rw [List.cons_append, prompts_cons_wrapped h.1, ih h.2]
    rfl

/-! ## What is carried over -/

/-- What joining rows makes of the prompts: `opened` is whether the line being joined has one, if it
has rows. -/
def carried (opened : Option Bool) : List Row → List Bool
  | [] => opened.toList.map fun _ => false
  | row :: rows =>
    let prompt := opened.getD row.prompt
    if row.wrapped then carried (some prompt) rows else prompt :: carried none rows

/-- What is carried over from an opened line and those after it. -/
def opening (prompt : Bool) : List (List Row) → List Bool
  | [] => [false]
  | line :: lines => (prompt && line.getLast?.all (!·.wrapped)) :: lines.map carriesOver

theorem logicalRows_cons (row : Row) (rows : List Row) :
    ∃ line lines, logicalRows (row :: rows) = (row :: line) :: lines := by
  rw [logicalRows]
  split
  · split <;> exact ⟨_, _, rfl⟩
  · exact ⟨_, _, rfl⟩

theorem carried_none_of_some
    (h : ∀ prompt, carried (some prompt) rows = opening prompt (logicalRows rows)) :
    carried none rows = (logicalRows rows).map carriesOver := by
  cases rows with
  | nil => rfl
  | cons row rows =>
    obtain ⟨line, lines, hlines⟩ := logicalRows_cons row rows
    have first : carried none (row :: rows) = carried (some row.prompt) (row :: rows) := rfl
    rw [first, h, hlines]
    rfl

theorem carried_some (prompt : Bool) (rows : List Row) :
    carried (some prompt) rows = opening prompt (logicalRows rows) := by
  induction rows generalizing prompt with
  | nil => rfl
  | cons row rows ih =>
    rw [carried, logicalRows]
    dsimp only [Option.getD_some]
    cases hw : row.wrapped with
    | false =>
      rw [if_neg Bool.false_ne_true, if_neg Bool.false_ne_true, carried_none_of_some ih]
      simp [opening, hw]
    | true =>
      rw [if_pos rfl, if_pos rfl, ih]
      cases hlines : logicalRows rows with
      | nil => simp [opening, hw]
      | cons line lines =>
        have some : line ≠ [] := ne_nil_of_mem_logicalRows (hlines ▸ List.mem_cons_self)
        obtain ⟨next, line, rfl⟩ := List.exists_cons_of_ne_nil some
        rw [opening, opening, List.getLast?_cons_cons]

/-- The prompts of lines are carried over from their first rows, but for a last line without an
end. -/
theorem carried_none (rows : List Row) : carried none rows = (logicalRows rows).map carriesOver :=
  carried_none_of_some fun prompt => carried_some prompt rows

end

/-! ## Cutting -/

namespace Cutting

/-- The rows after `before` go on, and no prompt starts on them. -/
def Unmarked (before : Array Row) (s : Cutting) : Prop :=
  ∃ full, s.rows.toList = before.toList ++ full ∧ ∀ r ∈ full, r.wrapped = true ∧ r.prompt = false

variable {cols : Nat} {before : Array Row} {s : Cutting}

theorem rows_finishRow (s : Cutting) (cols : Nat) (wrapped : Bool) : ∃ row,
    (s.finishRow cols wrapped).rows.toList = s.rows.toList ++ [row] ∧ row.wrapped = wrapped ∧
      row.prompt = false :=
  ⟨_, Array.toList_push, rfl, rfl⟩

theorem Unmarked.finishRow (h : Unmarked before s) : Unmarked before (s.finishRow cols true) := by
  obtain ⟨full, hrows, hfull⟩ := h
  obtain ⟨row, hrow, plain⟩ := s.rows_finishRow cols true
  refine ⟨full ++ [row], ?_, List.forall_mem_append.2 ⟨hfull, List.forall_mem_singleton.2 plain⟩⟩
  rw [hrow, hrows, List.append_assoc]

theorem Unmarked.makeRoom (h : Unmarked before s) (width : Nat) :
    Unmarked before (s.makeRoom cols width) := by
  unfold Cutting.makeRoom
  split
  · exact h.finishRow
  · exact h

theorem Unmarked.place_if (h : Unmarked before s) (p : Prop) [Decidable p] (back : Nat) :
    Unmarked before (if _ : p then s.placeCursor back else s) := by
  split <;> exact h

theorem Unmarked.cells (h : Unmarked before s) (target : Option Nat) (i : Nat) (l : List Cell) :
    Unmarked before (cells cols target i s l) := by
  fun_induction Cutting.cells cols target i s l with
  | case1 => exact h
  | case2 _ _ _ _ _ _ ih => exact ih (h.place_if _ 1)
  | case3 _ _ _ _ _ _ _ _ added _ ih =>
    have placed : Unmarked before added := (h.makeRoom 2).place_if _ 0
    exact ih (placed.place_if _ 1)
  | case4 _ _ _ _ _ _ _ _ _ ih => exact ih ((h.makeRoom 1).place_if _ 0)
  | case5 _ _ _ _ _ _ _ _ _ ih => exact ih ((h.makeRoom 1).place_if _ 0)

theorem Unmarked.placeBeyond (h : Unmarked before s) (col : Nat) :
    Unmarked before (s.placeBeyond cols col) := by
  fun_induction Cutting.placeBeyond s cols col with
  | case1 s col _ ih => exact ih h.finishRow
  | case2 s col _ => exact h

end Cutting

/-- A line is cut into rows of one line, on which no prompt starts. -/
theorem cutLine_unmarked (cols : Nat) (line : List Cell) (target : Option Nat) (rows : Array Row) :
    ∃ full last, (cutLine cols line target rows).1.toList = rows.toList ++ (full ++ [last]) ∧
      (∀ r ∈ full, r.wrapped = true ∧ r.prompt = false) ∧ last.wrapped = false ∧
        last.prompt = false := by
  have cut : Cutting.Unmarked rows (Cutting.cells cols target 0 { rows := rows } line) :=
    Cutting.Unmarked.cells ⟨[], (List.append_nil _).symm, List.forall_mem_nil _⟩ target 0 line
  have finished {s : Cutting} (h : s.Unmarked rows) : ∃ full last,
      (s.finishRow cols false).rows.toList = rows.toList ++ (full ++ [last]) ∧
        (∀ r ∈ full, r.wrapped = true ∧ r.prompt = false) ∧ last.wrapped = false ∧
        last.prompt = false := by
    obtain ⟨full, hrows, hfull⟩ := h
    obtain ⟨last, hlast, plain⟩ := s.rows_finishRow cols false
    exact ⟨full, last, by rw [hlast, hrows, List.append_assoc], hfull, plain⟩
  unfold cutLine
  dsimp only
  split
  · exact finished (cut.placeBeyond _)
  · exact finished cut

namespace Joining

variable {cols : Nat} {s : Joining} {done : List Bool}

/-- The rows made so far end their lines and have the prompts `done`, and the line being joined, if
it has rows, has the prompt `opened`. -/
structure Tracks (s : Joining) (done : List Bool) (opened : Option Bool) : Prop where
  ended : Ended s.rows.toList
  made : prompts s.rows.toList = done
  opened : opened = if s.line.isEmpty then none else some s.prompt
  target : s.line.isEmpty → s.target = none

variable {opened : Option Bool}

theorem tracks_start : Tracks {} [] none := ⟨nofun, rfl, rfl, fun _ => rfl⟩

/-- Cutting the line adds one without a prompt. -/
theorem prompts_cut (h : Ended s.rows.toList) (cols : Nat) (line : List Cell) :
    prompts (s.cut cols line).rows.toList = prompts s.rows.toList ++ [false] := by
  obtain ⟨full, last, hrows, hfull, -, hlast⟩ := cutLine_unmarked cols line s.target s.rows
  have cut : (s.cut cols line).rows.toList = s.rows.toList ++ (full ++ [last]) := hrows
  have none : ∀ r ∈ full ++ [last], ¬r.prompt = true := by
    simp only [List.forall_mem_append, List.forall_mem_singleton, Bool.not_eq_true]
    exact ⟨fun r hr => (hfull r hr).2, hlast⟩
  rw [cut, prompts_append h, prompts_line fun r hr => (hfull r hr).1, List.any_eq_false.2 none]

/-- Cutting the line and marking its first row adds one with the prompt that was carried over. -/
theorem prompts_markPrompt (h : Ended s.rows.toList) (cols : Nat) (line : List Cell) :
    prompts ((s.cut cols line).markPrompt s.rows.size).rows.toList =
      prompts s.rows.toList ++ [s.prompt] := by
  obtain ⟨full, last, hrows, hfull, -, hlast⟩ := cutLine_unmarked cols line s.target s.rows
  have marked : ((s.cut cols line).markPrompt s.rows.size).rows.toList =
      s.rows.toList ++ (full ++ [last]).modifyHead ({ · with prompt := s.prompt }) := by
    show ((cutLine cols line s.target s.rows).1.modify s.rows.size
      ({ · with prompt := s.prompt })).toList = _
    rw [Array.toList_modify, hrows, ← Array.length_toList]
    exact List.modifyTailIdx_add _ 0 _ _
  rw [marked, prompts_append h]
  congr 1
  cases full with
  | nil => exact (prompts_line (List.forall_mem_nil _) _).trans (by simp)
  | cons first full =>
    rw [List.forall_mem_cons] at hfull
    have none : ∀ r ∈ full ++ [last], ¬r.prompt = true := by
      simp only [List.forall_mem_append, List.forall_mem_singleton, Bool.not_eq_true]
      exact ⟨fun r hr => (hfull.2 r hr).2, hlast⟩
    have wrapped : ∀ r ∈ { first with prompt := s.prompt } :: full, r.wrapped = true :=
      List.forall_mem_cons.2 ⟨hfull.1.1, fun r hr => (hfull.2 r hr).1⟩
    have line := prompts_line wrapped last
    rw [List.cons_append, List.any_cons, List.any_eq_false.2 none, Bool.or_false] at line
    exact line

theorem Tracks.extend (h : s.Tracks done opened) {row : Row} (hpos : 0 < row.cells.size)
    (cursor : Option Nat) : (s.extend row cursor).Tracks done (some (opened.getD row.prompt)) := by
  have filled : (s.line ++ row.cells).isEmpty = false := by
    simp only [Array.isEmpty, Array.size_append, decide_eq_false_iff_not]
    omega
  refine ⟨h.ended, h.made, ?_, fun he => absurd (filled ▸ he) Bool.false_ne_true⟩
  show some (opened.getD row.prompt) = if (s.line ++ row.cells).isEmpty then none else
    some (if s.line.isEmpty && s.target.isNone then row.prompt else s.prompt)
  rw [filled, if_neg Bool.false_ne_true, h.opened]
  cases hempty : s.line.isEmpty with
  | true => simp [h.target hempty]
  | false => simp

/-- A row that goes on is joined, and one that does not ends the line. -/
theorem Tracks.addRow (h : s.Tracks done opened) {row : Row} (hpos : 0 < row.cells.size)
    (cursor : Option Nat) :
    (s.addRow cols row cursor).Tracks
      (if row.wrapped then done else done ++ [opened.getD row.prompt])
      (if row.wrapped then some (opened.getD row.prompt) else none) := by
  have extended := h.extend hpos cursor
  rw [addRow_ended]
  cases row.wrapped with
  | true => exact extended
  | false =>
    refine ⟨ended_ended _ _, ?_, rfl, fun _ => rfl⟩
    have prompt := extended.opened
    split at prompt
    · cases prompt
    · show prompts ((s.extend row cursor).ended cols).rows.toList = done ++ [opened.getD row.prompt]
      rw [Option.some.inj prompt, ← extended.made]
      exact prompts_markPrompt extended.ended cols _

theorem Tracks.finish (h : s.Tracks done opened) :
    prompts (s.finish cols).rows.toList = done ++ carried opened [] := by
  unfold Joining.finish
  rw [h.opened]
  cases hempty : s.line.isEmpty with
  | true =>
    rw [h.target hempty, Option.isNone_none, Bool.and_self, if_pos rfl, h.made]
    exact (List.append_nil done).symm
  | false =>
    rw [Bool.false_and, if_neg Bool.false_ne_true, if_neg Bool.false_ne_true,
      prompts_cut h.ended, h.made]
    rfl

/-- Rows are joined one after the other. -/
theorem Tracks.foldl_join (h : s.Tracks done opened) {cursor : Place} {rows : List Row} {i : Nat}
    (hpos : ∀ r ∈ rows, 0 < r.cells.size) :
    prompts (((rows.zipIdx i).foldl (join cols cursor) s).finish cols).rows.toList =
      done ++ carried opened rows := by
  induction rows generalizing s done opened i with
  | nil => exact h.finish
  | cons row rows ih =>
    rw [List.forall_mem_cons] at hpos
    have joined :
        (s.addRow cols row (if i = cursor.line then some cursor.col else none)).Tracks _ _ :=
      h.addRow hpos.1 _
    rw [List.zipIdx_cons, List.foldl_cons, join, ih joined hpos.2, carried]
    cases row.wrapped with
    | true => rfl
    | false => exact List.append_assoc done _ _

end Joining

/-- Of the rows that are cut anew, each line has a prompt just if it had an end and a prompt on its
first row. -/
theorem prompts_rows {old : List Row} (hpos : ∀ r ∈ old, 0 < r.cells.size) (cols : Nat)
    (cursor : Place) : prompts (rows old cols cursor).1 = (logicalRows old).map carriesOver := by
  rw [← carried_none]
  exact Joining.tracks_start.foldl_join hpos

end Reflow

/-! ## Changing the size -/

namespace Grid

open Reflow

variable {kind : ScreenKind} {cols rows : Nat} {g : Grid}

/-- At another size no line is dropped but blank ones below the cursor on which no prompt starts: no
other row is taken away for the cursor to stay on the screen, or for lack of room. -/
structure KeepsLines (g : Grid) (rows cols : Nat) : Prop where
  blank :
    ∀ r ∈ ((g.refit cols true).1.drop ((g.refit cols true).2.line + 1)).rtakeWhile Row.isBlank,
      r.prompt = false
  below : (dropBlankEnd ((g.refit cols true).2.line + 1) (g.refit cols true).1).length ≤
    (g.refit cols true).2.line + rows
  room : (g.resplit rows cols).length ≤ capacityFor g.kind rows g.scrollback

theorem Valid.prompts_refit (h : g.Valid kind cols rows) (cols' : Nat) :
    prompts (g.refit cols' true).1 = if cols' = cols then prompts g.lines
        else (logicalRows g.lines).map carriesOver := by
  have width := h.cols_eq
  unfold Grid.refit
  dsimp only
  by_cases hsame : cols' = cols
  · rw [if_pos hsame, if_neg (by simp [hsame, width])]
    refine prompts_congr ?_
    rw [List.map_map]
    refine List.map_congr_left fun r _ => ?_
    show ((r.fit cols').wrapped, (r.fit cols').prompt) = (r.wrapped, r.prompt)
    unfold Row.fit
    split <;> rfl
  · rw [if_neg hsame, if_pos (by simp [hsame, width])]
    refine prompts_rows (fun r hr => ?_) cols' _
    rw [(h.lines r hr).size]
    exact h.cols_pos

theorem getElem?_prompts_append {lines more : List Row} (h : ∀ r ∈ more, r.prompt = false)
    (k : Nat) : (prompts (lines ++ more))[k]? = some true ↔ (prompts lines)[k]? = some true := by
  obtain ⟨n, hn⟩ := prompts_append_unmarked lines h
  rw [hn]
  by_cases hk : k < (prompts lines).length
  · rw [List.getElem?_append_left hk]
  · rw [List.getElem?_append_right (Nat.le_of_not_lt hk),
      List.getElem?_eq_none (Nat.le_of_not_lt hk)]
    refine iff_of_false (fun hmem => ?_) nofun
    exact Bool.false_ne_true (List.eq_of_mem_replicate (List.mem_of_getElem? hmem)).symm

/-- A line has a prompt after its rows were settled just if it had one before. -/
theorem KeepsLines.prompts_resplit (h : g.KeepsLines rows cols) (k : Nat) :
    (prompts (g.resplit rows cols))[k]? = some true ↔
      (prompts (g.refit cols true).1)[k]? = some true := by
  have below := h.below
  have parts := dropBlankEnd_append ((g.refit cols true).2.line + 1) (g.refit cols true).1
  rw [resplit_eq, settle, List.take_of_length_le, getElem?_prompts_append,
    ← getElem?_prompts_append h.blank, parts]
  · intro r hr
    rw [List.eq_of_mem_replicate hr]
    rfl
  · rw [List.length_append, List.length_replicate]
    omega

/-- A line has a prompt at the new size just if it was carried over to the new width. -/
theorem Valid.prompts_resize (h : g.Valid kind cols rows) {rows' cols' : Nat}
    (hkeeps : g.KeepsLines (max rows' 1) (max cols' 1)) (k : Nat) :
    (prompts (g.resize rows' cols' true).lines)[k]? = some true ↔
      (if max cols' 1 = cols then prompts g.lines else (logicalRows g.lines).map carriesOver)[k]? =
        some true := by
  have hrows : 0 < max rows' 1 := by omega
  have hcols : 0 < max cols' 1 := by omega
  rw [← resize_max]
  generalize max rows' 1 = rows' at hkeeps hrows ⊢
  generalize max cols' 1 = cols' at hkeeps hcols ⊢
  by_cases hsize : rows' = g.rows ∧ cols' = g.cols
  · have same : g.resize rows' cols' true = g := by
      rw [Grid.resize, Nat.max_eq_left hrows, Nat.max_eq_left hcols]
      simp [hsize]
    rw [same, if_pos (hsize.2.trans h.cols_eq)]
  · have room := hkeeps.room
    rw [h.kind_eq] at room
    have flags :=
      (h.map_lines_resize (f := fun r => (r.wrapped, r.prompt)) (fun _ _ _ => rfl) hrows hcols
        hsize room).1
    rw [prompts_congr flags, hkeeps.prompts_resplit, h.prompts_refit]

/-- Changing the size with reflow keeps the prompt of a line if the width stays the same. Otherwise
it keeps it just if the line has an end and the prompt is on its first row. So all prompts are kept
just if the width stays the same or all of them are such. -/
theorem prompts_resize_iff (h : g.Valid kind cols rows) {rows' cols' : Nat}
    (hkeeps : g.KeepsLines (max rows' 1) (max cols' 1)) :
    let after := logicalRows (g.resize rows' cols' true).lines
    (∀ (k : Nat) line, (logicalRows g.lines)[k]? = some line →
      ((∃ line', after[k]? = some line' ∧ Prompted line') ↔
        if max cols' 1 = cols then Prompted line else PromptedFirst line ∧ Ended line)) ∧
    ((∀ (k : Nat) line, (logicalRows g.lines)[k]? = some line → Prompted line →
        ∃ line', after[k]? = some line' ∧ Prompted line') ↔
      max cols' 1 = cols ∨ ∀ line ∈ logicalRows g.lines, Prompted line → PromptedFirst line ∧
        Ended line) := by
  intro after
  have survives_iff : ∀ (k : Nat) line, (logicalRows g.lines)[k]? = some line →
      ((∃ line', after[k]? = some line' ∧ Prompted line') ↔
        if max cols' 1 = cols then Prompted line else PromptedFirst line ∧ Ended line) := by
    intro k line hline
    rw [← getElem?_prompts_eq_true_iff, h.prompts_resize hkeeps]
    split
    · rw [getElem?_prompts_eq_true_iff, hline]
      simp
    · rw [promptedFirst_and_ended_iff, List.getElem?_map, hline]
      simp
  refine ⟨survives_iff, ?_⟩
  by_cases hsame : max cols' 1 = cols
  · refine iff_of_true (fun k line hline hprompted => ?_) (.inl hsame)
    rw [survives_iff k line hline, if_pos hsame]
    exact hprompted
  · simp only [hsame, false_or]
    constructor
    · intro kept line hline hprompted
      obtain ⟨k, hk⟩ := List.mem_iff_getElem?.1 hline
      have survives := kept k line hk hprompted
      rwa [survives_iff k line hk, if_neg hsame] at survives
    · intro good k line hline hprompted
      rw [survives_iff k line hline, if_neg hsame]
      exact good line (List.mem_of_getElem? hline) hprompted

/-- A prompt on the first of the two rows of a line. -/
def promptFirst : Grid := fourOnThree.modifyRow 0 ({ · with prompt := true })

/-- The prompt on the first row is kept on two columns, where the line has two rows again. -/
theorem prompts_resize_iff_first :
    prompts promptFirst.lines = [true] ∧ prompts (promptFirst.resize 2 2 true).lines = [true] ∧
      ∀ (k : Nat) line, (logicalRows promptFirst.lines)[k]? = some line → Prompted line →
        ∃ line', (logicalRows (promptFirst.resize 2 2 true).lines)[k]? = some line' ∧
          Prompted line' := by
  have valid : promptFirst.Valid .primary 3 2 :=
    valid_fourOnThree.modifyRow 0 fun _ hr => hr.of_cells rfl
  have keeps : promptFirst.KeepsLines 2 2 :=
    ⟨by decide +kernel, by decide +kernel, by decide +kernel⟩
  have first : ∀ line ∈ logicalRows promptFirst.lines, carriesOver line = true := by decide +kernel
  refine ⟨by decide +kernel, by decide +kernel, ?_⟩
  exact (prompts_resize_iff valid keeps).2.2
    (.inr fun line hline _ => promptedFirst_and_ended_iff.2 (first line hline))

/-- A prompt on the second row of a line, as after a program asked for it there. -/
def promptSecond : Grid := fourOnThree.modifyRow 1 ({ · with prompt := true })

/-- A prompt on a line that lacks its end. -/
def promptOpen : Grid := promptFirst.modifyRow 1 ({ · with wrapped := true })

/-- On six columns, where the line is one row, neither is there any more, though no line is
dropped. -/
theorem prompts_lost :
    (promptSecond.Valid .primary 3 2 ∧ promptSecond.KeepsLines 2 6 ∧
      prompts promptSecond.lines = [true] ∧
        prompts (promptSecond.resize 2 6 true).lines = [false, false]) ∧
      promptOpen.Valid .primary 3 2 ∧ promptOpen.KeepsLines 2 6 ∧
        prompts promptOpen.lines = [true] ∧ prompts (promptOpen.resize 2 6 true).lines =
        [false, false] := by
  have second : promptSecond.Valid .primary 3 2 :=
    valid_fourOnThree.modifyRow 1 fun _ hr => hr.of_cells rfl
  have first : promptFirst.Valid .primary 3 2 :=
    valid_fourOnThree.modifyRow 0 fun _ hr => hr.of_cells rfl
  refine ⟨⟨second, ⟨by decide +kernel, by decide +kernel, by decide +kernel⟩, by decide +kernel, by
    decide +kernel⟩, first.modifyRow 1 fun _ hr => hr.of_cells rfl,
      ⟨by decide +kernel, by decide +kernel, by decide +kernel⟩,
    by decide +kernel, by decide +kernel⟩

end Grid

end Teletype
