import Teletype.Proofs.Grid.ReflowText

/-!
# After the cursor

What reflow puts after the cursor, in its row or in rows below it, was after the cursor before. If
nothing showed there, nothing does now, and the rows below can be dropped.
-/

namespace Teletype.Reflow

/-- The first column of a row that comes after a place in this row or above it. -/
def Place.next (p : Place) (line : Nat) : Nat := if line = p.line then p.col + 1 else 0

/-- Nothing shows after a place: neither in the rest of its row nor in the rows below it. -/
def Clear (p : Place) (rows : List Row) : Prop :=
  ∀ i r, rows[i]? = some r → p.line ≤ i → ∀ c ∈ r.cells.toList.drop (p.next i), c.isEmpty

section

variable {p : Place} {rows : List Row}

theorem clear_of_le (h : rows.length ≤ p.line) : Clear p rows := by
  intro i r hr hi
  have := (List.getElem?_eq_some_iff.1 hr).1
  omega

theorem Clear.concat (h : Clear p rows) {row : Row}
    (hrow : ∀ c ∈ row.cells.toList.drop (p.next rows.length), c.isEmpty) :
    Clear p (rows ++ [row]) := by
  intro i r hr hi
  by_cases hlt : i < rows.length
  · rw [List.getElem?_append_left hlt] at hr
    exact h i r hr hi
  · have last : i = rows.length := by
      have := (List.getElem?_eq_some_iff.1 hr).1
      rw [List.length_append, List.length_singleton] at this
      omega
    rw [last, List.getElem?_append_right (Nat.le_refl _), Nat.sub_self] at hr
    obtain rfl : row = r := Option.some.inj hr
    exact last ▸ hrow

theorem Clear.append_vacant (h : Clear p rows) {more : List Row}
    (hmore : ∀ r ∈ more, r.Vacant) : Clear p (rows ++ more) := by
  intro i r hr hi
  by_cases hlt : i < rows.length
  · rw [List.getElem?_append_left hlt] at hr
    exact h i r hr hi
  · rw [List.getElem?_append_right (by omega)] at hr
    intro c hc
    exact hmore r (List.mem_of_getElem? hr) c (Array.mem_def.2 (List.mem_of_mem_drop hc))

theorem Clear.mono (h : Clear p rows) {start : List Row} (hstart : start <+: rows) :
    Clear p start := by
  intro i r hr hi
  refine h i r ?_ hi
  obtain ⟨rest, rfl⟩ := hstart
  rw [List.getElem?_append_left (List.getElem?_eq_some_iff.1 hr).1, hr]

theorem Clear.below (h : Clear p rows) : ∀ r ∈ rows.drop (p.line + 1), r.Vacant := by
  intro r hr c hc
  obtain ⟨i, hi⟩ := List.mem_iff_getElem?.1 hr
  rw [List.getElem?_drop] at hi
  have cells := h _ r hi (by omega)
  rw [Place.next, if_neg (by omega), List.drop_zero] at cells
  exact cells c (Array.mem_def.1 hc)

/-- What decides how rows are read decides what shows. -/
theorem Clear.of_shape (h : Clear p rows) {rows' : List Row}
    (hshape : rows'.map Row.shape = rows.map Row.shape) : Clear p rows' := by
  intro i r hr hi
  have same := congrArg (·[i]?) hshape
  simp only [List.getElem?_map, hr, Option.map_some] at same
  obtain ⟨r', hr', hcells⟩ := Option.map_eq_some_iff.1 same.symm
  rw [← show r'.cells = r.cells from congrArg Prod.fst hcells]
  exact h i r' hr' hi

end

namespace Cutting

/-- Nothing shows after a place among the rows made so far, and nothing comes to show there. -/
structure Below (s : Cutting) (p : Place) : Prop where
  le : p.line ≤ s.rows.size
  rows : Clear p s.rows.toList
  current : ∀ c ∈ s.current.toList.drop (p.next s.rows.size), c.isEmpty

variable {cols : Nat} {s : Cutting} {p : Place}

theorem Below.finishRow (h : s.Below p) (wrapped : Bool) :
    (s.finishRow cols wrapped).Below p where
  le := by
    have := h.le
    simp only [Cutting.finishRow, Array.size_push]
    omega
  rows := by
    rw [Cutting.finishRow, Array.toList_push]
    refine h.rows.concat fun c hc => ?_
    rw [Array.toList_append, Array.length_toList, List.drop_append] at hc
    rcases List.mem_append.1 hc with hc | hc
    · exact h.current c hc
    · have mem := List.mem_of_mem_drop hc
      rw [Array.toList_replicate] at mem
      exact padding_isEmpty _ c mem
  current := by
    intro c hc
    exact absurd (List.mem_of_mem_drop hc) (by simp [Cutting.finishRow])

theorem Below.makeRoom (h : s.Below p) (width : Nat) : (s.makeRoom cols width).Below p := by
  unfold Cutting.makeRoom
  split
  · exact h.finishRow true
  · exact h

theorem Below.add (h : s.Below p) {c : Cell}
    (hc : p.next s.rows.size ≤ s.current.size → c.isEmpty) : (s.add c).Below p where
  le := h.le
  rows := h.rows
  current := by
    intro d hd
    rw [Cutting.add, Array.toList_push, List.drop_append, Array.length_toList] at hd
    rcases List.mem_append.1 hd with hd | hd
    · exact h.current d hd
    · have behind : p.next s.rows.size ≤ s.current.size := by
        have length := List.length_pos_of_mem hd
        rw [List.length_drop, List.length_singleton] at length
        exact Nat.le_of_sub_eq_zero (Nat.lt_one_iff.1 (Nat.lt_of_sub_pos length))
      exact List.mem_singleton.1 (List.mem_of_mem_drop hd) ▸ hc behind

/-- Nothing shows after the last cell of the row being filled. -/
theorem below_last (s : Cutting) (hline : p.line = s.rows.size)
    (hcol : s.current.size ≤ p.col + 1) : s.Below p where
  le := Nat.le_of_eq hline
  rows := clear_of_le (by rw [hline, Array.length_toList])
  current := by
    rw [Place.next, if_pos hline.symm, List.drop_of_length_le (by rw [Array.length_toList]; omega)]
    simp

theorem cursor_makeRoom (s : Cutting) (cols width : Nat) :
    (s.makeRoom cols width).cursor = s.cursor := by
  unfold Cutting.makeRoom
  split <;> rfl

/-- What is empty after the cursor's cell stays so once the cells before it were cut. -/
theorem empty_past_append (cut : List Cell) {l : List Cell} {target : Option Nat} {i : Nat}
    (h : ∀ t ∈ target, i ≤ t → ∀ c ∈ (cut ++ l).drop (t + 1 - i), c.isEmpty) :
    ∀ t ∈ target, i + cut.length ≤ t → ∀ c ∈ l.drop (t + 1 - (i + cut.length)), c.isEmpty := by
  intro t ht hle c hc
  refine h t ht (by omega) c ?_
  rw [show t + 1 - i = cut.length + (t + 1 - (i + cut.length)) by omega,
    List.drop_length_add_append]
  exact hc

/-- What is cut after the cursor was placed is empty, so nothing comes to show after it. -/
theorem below_cells (h : ∀ p ∈ s.cursor, s.Below p) {l : List Cell} (hl : Fits cols l)
    {target : Option Nat} {i : Nat}
    (hplaced : s.cursor.isSome → ∀ c ∈ l, c.isEmpty)
    (htarget : ∀ t ∈ target, i ≤ t → ∀ c ∈ l.drop (t + 1 - i), c.isEmpty) :
    ∀ p ∈ (cells cols target i s l).cursor, (cells cols target i s l).Below p := by
  obtain ⟨⟨hglyphs, hkey⟩, hroom⟩ := hl
  induction hglyphs generalizing i s with
  | nil =>
    rw [Cutting.cells]
    exact h
  | @narrow c l hc _ ih =>
    have hkey' : ∀ c ∈ l, c.extent = .tail → c.key = 0 := fun c hc =>
      hkey c (List.mem_cons_of_mem _ hc)
    have hroom' : ∀ c ∈ l, c.isHead → 2 ≤ cols := fun c hc => hroom c (List.mem_cons_of_mem _ hc)
    have later := empty_past_append [c] htarget
    rw [cells_narrow hc]
    dsimp only
    -- The cursor's own cell may show something: it is the last one so far.
    by_cases here : target = some i
    · rw [if_pos here]
      refine ih ?_ (fun _ => ?_) later hroom' hkey'
      · intro p hp
        obtain rfl := Option.mem_some.1 hp
        exact below_last _ rfl (by simp [Cutting.add, Cutting.placeCursor])
      · have rest := htarget i (Option.mem_def.2 here) (Nat.le_refl i)
        rw [Nat.add_sub_cancel_left] at rest
        exact rest
    · rw [if_neg here]
      refine ih ?_ (fun hsome => ?_) later hroom' hkey'
      · intro p hp
        have hp' : p ∈ s.cursor := by
          rw [← cursor_makeRoom s cols 1]
          exact hp
        refine ((h p hp').makeRoom 1).add fun _ => ?_
        exact hplaced (Option.isSome_of_mem hp') c List.mem_cons_self
      · have hsome' : s.cursor.isSome := by
          rw [← cursor_makeRoom s cols 1]
          exact hsome
        exact fun c hc => hplaced hsome' c (List.mem_cons_of_mem _ hc)
  | @wide c d l hc hd hg ih =>
    have hkey' : ∀ c ∈ l, c.extent = .tail → c.key = 0 := fun c hc =>
      hkey c (List.mem_cons_of_mem _ (List.mem_cons_of_mem _ hc))
    have hroom' : ∀ c ∈ l, c.isHead → 2 ≤ cols := fun c hc =>
      hroom c (List.mem_cons_of_mem _ (List.mem_cons_of_mem _ hc))
    have later := empty_past_append [c, d] htarget
    -- The right half is not empty, so the cursor was not before it.
    have shows : ¬d.isEmpty := fun he =>
      (Sound.mk (.wide hc hd hg) hkey).not_tail (by simp) he hd
    have unplaced : s.cursor = none := by
      cases hcursor : s.cursor with
      | none => rfl
      | some p => exact absurd (hplaced (by rw [hcursor]; rfl) d (by simp)) shows
    have notHere : target ≠ some i := by
      intro here
      have rest := htarget i (Option.mem_def.2 here) (Nat.le_refl i)
      rw [Nat.add_sub_cancel_left] at rest
      exact shows (rest d (by simp))
    rw [cells_wide hc (hroom c List.mem_cons_self (by simp [Cell.isHead, hc]))]
    dsimp only
    rw [if_neg notHere]
    by_cases here : target = some (i + 1)
    · rw [if_pos here]
      refine ih ?_ (fun _ => ?_) later hroom' hkey'
      · intro p hp
        obtain rfl := Option.mem_some.1 hp
        refine below_last _ rfl ?_
        simp only [Cutting.placeCursor]
        omega
      · have rest := htarget (i + 1) (Option.mem_def.2 here) (Nat.le_succ i)
        rw [show i + 1 + 1 - i = 2 by omega] at rest
        exact rest
    · rw [if_neg here]
      have none : (((s.makeRoom cols 2).add c).add d).cursor = none :=
        (cursor_makeRoom s cols 2).trans unplaced
      refine ih ?_ ?_ later hroom' hkey'
      · simp [none]
      · simp [none]

theorem below_placeBeyond (cols : Nat) (s : Cutting) (col : Nat) (hcol : s.current.size ≤ col + 1) :
    (s.placeBeyond cols col).cursor.isSome ∧
      ∀ p ∈ (s.placeBeyond cols col).cursor, (s.placeBeyond cols col).Below p := by
  fun_induction Cutting.placeBeyond s cols col with
  | case1 s col hc ih => exact ih (by simp [Cutting.finishRow])
  | case2 s col hc =>
    refine ⟨rfl, fun p hp => ?_⟩
    obtain rfl := Option.mem_some.1 hp
    exact below_last _ rfl hcol

end Cutting

/-- Nothing shows after the cursor when nothing of the line is behind it. -/
theorem cutLine_clear {cols : Nat} {line : List Cell} (hline : Fits cols line)
    {target : Option Nat} (htarget : ∀ t ∈ target, ∀ c ∈ line.drop (t + 1), c.isEmpty)
    (rows : Array Row) :
    (target.isSome → (cutLine cols line target rows).2.isSome) ∧
      ∀ p ∈ (cutLine cols line target rows).2, p.line < (cutLine cols line target rows).1.size ∧
        Clear p (cutLine cols line target rows).1.toList := by
  have cut : ∀ p ∈ (Cutting.cells cols target 0 { rows := rows } line).cursor,
      (Cutting.cells cols target 0 { rows := rows } line).Below p :=
    Cutting.below_cells (by simp) hline (by simp) fun t ht _ => htarget t ht
  have finished (s : Cutting) (h : ∀ p ∈ s.cursor, s.Below p) :
      ∀ p ∈ (s.finishRow cols false).cursor, p.line < (s.finishRow cols false).rows.size ∧
        Clear p (s.finishRow cols false).rows.toList := by
    intro p hp
    have below := h p hp
    refine ⟨?_, (below.finishRow false).rows⟩
    have := below.le
    simp only [Cutting.finishRow, Array.size_push]
    omega
  unfold cutLine
  dsimp only
  split
  · obtain ⟨hsome, hbelow⟩ := Cutting.below_placeBeyond cols _ _
      (Nat.le_succ_of_le (Nat.le_add_right _ _))
    exact ⟨fun _ => hsome, finished _ hbelow⟩
  · rename_i hnone
    refine ⟨fun hsome => ?_, finished _ cut⟩
    obtain ⟨t, rfl⟩ := Option.isSome_iff_exists.1 hsome
    cases hcursor : (Cutting.cells cols (some t) 0 { rows := rows } line).cursor with
    | none => exact absurd rfl (hnone t hcursor)
    | some p => simp [Cutting.finishRow, hcursor]

namespace Joining

/-- Nothing shows behind the cursor: neither in the line being joined nor, once its line was cut, in
the rows after it. -/
inductive Past (s : Joining) : Prop
  | here (t : Nat) (target : s.target = some t) (line : ∀ c ∈ s.line.toList.drop (t + 1), c.isEmpty)
  | above (target : s.target = none) (lt : s.cursor.line < s.rows.size)
      (rows : Clear s.cursor s.rows.toList) (line : ∀ c ∈ s.line, c.isEmpty)

variable {cols : Nat} {s : Joining}

theorem Past.extend (h : s.Past) {row : Row} (hrow : row.Vacant) : (s.extend row none).Past := by
  cases h with
  | here t target line =>
    refine .here t target fun c hc => ?_
    rw [Joining.extend, Array.toList_append, List.drop_append] at hc
    rcases List.mem_append.1 hc with hc | hc
    · exact line c hc
    · exact hrow c (Array.mem_def.2 (List.mem_of_mem_drop hc))
  | above target lt rows line =>
    refine .above target lt rows fun c hc => ?_
    rcases Array.mem_append.1 hc with hc | hc
    · exact line c hc
    · exact hrow c hc

/-- Nothing shows behind the cursor once its row is joined. -/
theorem past_extend {row : Row} {col : Nat}
    (hafter : ∀ c ∈ row.cells.toList.drop (col + 1), c.isEmpty) :
    (s.extend row (some col)).Past := by
  refine .here (s.line.size + col) rfl fun c hc => ?_
  rw [Joining.extend, Array.toList_append, List.drop_append, Array.length_toList] at hc
  rcases List.mem_append.1 hc with hc | hc
  · rw [List.drop_of_length_le (by rw [Array.length_toList]; omega)] at hc
    exact absurd hc (by simp)
  · rw [show s.line.size + col + 1 - s.line.size = col + 1 by omega] at hc
    exact hafter c hc

/-- A part of the line being joined that is cut leaves nothing after the cursor. -/
theorem Past.cut (h : s.Past) (hcols : 0 < cols) {line : List Cell} (hline : Fits cols line)
    (hpart : line <+: s.line.toList) :
    (s.cut cols line).cursor.line < (s.cut cols line).rows.size ∧
      Clear (s.cut cols line).cursor (s.cut cols line).rows.toList := by
  have behind : ∀ t ∈ s.target, ∀ c ∈ line.drop (t + 1), c.isEmpty := by
    intro t ht c hc
    cases h with
    | here t' target empty =>
      obtain rfl : t' = t := Option.some.inj (target.symm.trans ht)
      exact empty c ((hpart.drop _).subset hc)
    | above target _ _ _ =>
      rw [target] at ht
      exact absurd ht (by simp)
  obtain ⟨hsome, hclear⟩ := cutLine_clear hline behind s.rows
  have cursor : (s.cut cols line).cursor = (cutLine cols line s.target s.rows).2.getD s.cursor :=
    rfl
  have rows : (s.cut cols line).rows = (cutLine cols line s.target s.rows).1 := rfl
  rw [cursor, rows]
  cases hplace : (cutLine cols line s.target s.rows).2 with
  | some p => exact hclear p hplace
  | none =>
    cases h with
    | here t target _ =>
      rw [hplace, target] at hsome
      exact absurd (hsome rfl) (by simp)
    | above target lt clear empty =>
      obtain ⟨piece, n, happend, -, hmem⟩ := cutLine_chains hcols hline s.target s.rows
      have len := congrArg List.length happend
      rw [List.length_append, Array.length_toList, Array.length_toList] at len
      refine ⟨by rw [Option.getD_none]; omega, ?_⟩
      rw [happend, Option.getD_none]
      refine clear.append_vacant fun r hr c hc => ?_
      rcases hmem r hr c hc with hc | rfl
      · exact empty c (Array.mem_def.2 (hpart.subset hc))
      · rfl

theorem fits_addRow (h : Fits cols s.line.toList) {row : Row} (hrow : Fits cols row.cells.toList)
    (cursor : Option Nat) : Fits cols (s.addRow cols row cursor).line.toList := by
  rw [addRow_eq]
  dsimp only
  split
  · exact fits_extend h hrow cursor
  · exact fits_nil

/-- Adding a row from the cursor's on shows nothing behind the cursor. -/
theorem Past.addRow {row : Row} {cursor : Option Nat} (h : (s.extend row cursor).Past)
    (hcols : 0 < cols) (hline : Fits cols (s.extend row cursor).line.toList) :
    (s.addRow cols row cursor).Past := by
  rw [addRow_eq]
  dsimp only
  split
  · exact h
  · obtain ⟨lt, clear⟩ := h.cut hcols (fits_trimmed hline) (prefix_trimmed _)
    refine .above rfl ?_ ?_ (by simp)
    · rw [markPrompt, Array.size_modify]
      exact lt
    · exact clear.of_shape (map_shape_markPrompt _ _)

/-- Joining rows keeps the line one of whole glyphs that have room on a row. -/
theorem fits_foldl_addRow (hs : Fits cols s.line.toList) (cursor : Row × Nat → Option Nat)
    {l : List (Row × Nat)} (hl : ∀ e ∈ l, Fits cols e.1.cells.toList) :
    Fits cols (l.foldl (fun s e => s.addRow cols e.1 (cursor e)) s).line.toList := by
  induction l generalizing s with
  | nil => exact hs
  | cons e l ih =>
    rw [List.foldl_cons]
    exact ih (fits_addRow hs (hl e List.mem_cons_self) _)
      fun e he => hl e (List.mem_cons_of_mem _ he)

/-- Joining the rows below the cursor's shows nothing behind the cursor. -/
theorem Past.foldl_addRow (h : s.Past) (hcols : 0 < cols) (hs : Fits cols s.line.toList)
    (cursor : Row × Nat → Option Nat) {l : List (Row × Nat)}
    (hl : ∀ e ∈ l, Fits cols e.1.cells.toList ∧ e.1.Vacant ∧ cursor e = none) :
    (l.foldl (fun s e => s.addRow cols e.1 (cursor e)) s).Past := by
  induction l generalizing s with
  | nil => exact h
  | cons e l ih =>
    obtain ⟨hfits, hvacant, hnone⟩ := hl e List.mem_cons_self
    rw [List.foldl_cons, hnone]
    exact ih ((h.extend hvacant).addRow hcols (fits_extend hs hfits none))
      (fits_addRow hs hfits none) fun e he => hl e (List.mem_cons_of_mem _ he)

/-- The last line is cut as well, if it lacks its end. -/
theorem Past.finish (h : s.Past) (hcols : 0 < cols) (hline : Fits cols s.line.toList) :
    Clear (s.finish cols).cursor (s.finish cols).rows.toList := by
  unfold Joining.finish
  split
  · rename_i hempty
    cases h with
    | here t target _ => simp [target] at hempty
    | above _ _ clear _ => exact clear
  · exact (h.cut hcols hline (List.prefix_refl _)).2

end Joining

/-- Reflow leaves nothing after the cursor if nothing was there before. -/
theorem rows_clear {cols : Nat} (hcols : 0 < cols) {old : List Row}
    (hold : ∀ r ∈ old, Fits cols r.cells.toList) {cursor : Place} (hlt : cursor.line < old.length)
    (hclear : Clear cursor old) :
    Clear (rows old cols cursor).2 (rows old cols cursor).1 := by
  -- The rows above the cursor's are not looked at, its own starts `Past`, those below keep it.
  obtain ⟨above, row, below, rfl, hlength⟩ : ∃ above row below, old = above ++ row :: below ∧
      above.length = cursor.line := by
    refine ⟨old.take cursor.line, old[cursor.line], old.drop (cursor.line + 1), ?_, ?_⟩
    · rw [← List.drop_eq_getElem_cons hlt, List.take_append_drop]
    · rw [List.length_take]
      omega
  have hbelow : ∀ r ∈ below, r.Vacant := by
    have vacant := hclear.below
    rw [← hlength, List.drop_length_add_append] at vacant
    exact vacant
  have hafter : ∀ c ∈ row.cells.toList.drop (cursor.col + 1), c.isEmpty := by
    have after := hclear cursor.line row
    rw [← hlength, List.getElem?_append_right (Nat.le_refl _), Nat.sub_self, hlength, Place.next,
      if_pos rfl] at after
    exact after rfl (Nat.le_refl _)
  let place (e : Row × Nat) := if e.2 = cursor.line then some cursor.col else none
  have entries : (above ++ row :: below).zipIdx =
      above.zipIdx ++ (row, cursor.line) :: below.zipIdx (cursor.line + 1) := by
    rw [List.zipIdx_append, List.zipIdx_cons, hlength, Nat.zero_add]
  have hrow := hold row (List.mem_append_right _ List.mem_cons_self)
  have joined := Joining.fits_foldl_addRow (s := {}) fits_nil place (l := above.zipIdx) fun e he =>
    hold _ (List.mem_append_left _ (List.fst_mem_of_mem_zipIdx he))
  have here := (Joining.past_extend hafter).addRow hcols (Joining.fits_extend joined hrow _)
  have later : ∀ e ∈ below.zipIdx (cursor.line + 1),
      Fits cols e.1.cells.toList ∧ e.1.Vacant ∧ place e = none := by
    intro e he
    have le := List.le_snd_of_mem_zipIdx he
    have mem := List.fst_mem_of_mem_zipIdx he
    exact ⟨hold _ (List.mem_append_right _ (List.mem_cons_of_mem _ mem)), hbelow _ mem,
      if_neg (by omega)⟩
  have past := here.foldl_addRow hcols (Joining.fits_addRow joined hrow _) place later
  have fits := Joining.fits_foldl_addRow (Joining.fits_addRow joined hrow (some cursor.col)) place
    fun e he => (later e he).1
  have finished := past.finish hcols fits
  have placed : place (row, cursor.line) = some cursor.col := if_pos rfl
  rw [← placed] at finished
  unfold rows
  rw [entries, List.foldl_append, List.foldl_cons]
  exact finished

end Teletype.Reflow
