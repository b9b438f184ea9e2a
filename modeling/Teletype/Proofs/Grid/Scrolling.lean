import Teletype.Proofs.Grid.Editing
import Teletype.Proofs.Grid.Sheet

/-!
# Scrolling

Scrolling a grid is scrolling its sheet, whatever is scrolled and in whatever order. Rows that are
moved keep their numbers and new ones get new numbers, so no two rows ever have the same one.
-/

namespace Teletype.Grid

/-- Scrolls a grid. -/
def scroll (g : Grid) : Scrolling → Grid
  | .up n background => g.scrollUp n background
  | .down n background => g.scrollDown n background
  | .insertLines n background => g.insertLines n background
  | .deleteLines n background => g.deleteLines n background
  | .eraseScrollback => g.eraseScrollback

/-- What scrolling rests on: the ring holds the screen and the scrollback, its rows have the width
of the screen and numbers of their own, and the region lies on the screen. -/
structure Scrollable (g : Grid) : Prop where
  room : g.history + g.rows ≤ g.capacity
  width : ∀ r ∈ g.slots, r.cells.size = g.cols
  numbered : Numbered g.slots.toList g.nextSeq
  region_lt : g.region.top < g.region.bottom
  region_le : g.region.bottom ≤ g.rows

variable {g : Grid}

/-- A grid that can be scrolled, and what it shows. -/
structure Shows (g : Grid) (s : Sheet) : Prop where
  scrollable : g.Scrollable
  sheet_eq : g.sheet = s

theorem Scrollable.shows (h : g.Scrollable) : g.Shows g.sheet := ⟨h, rfl⟩

/-- A valid grid whose rows have numbers of their own can be scrolled. -/
theorem Valid.scrollable {kind : ScreenKind} {cols rows : Nat} (h : g.Valid kind cols rows)
    (hnumbered : Numbered g.slots.toList g.nextSeq) : g.Scrollable where
  room := by rw [h.rows_eq]; exact h.room
  width r hr := by rw [h.cols_eq]; exact (h.row r hr).size
  numbered := hnumbered
  region_lt := h.region_lt
  region_le := by rw [h.rows_eq]; exact h.region_le

theorem Scrollable.numbered_ring (h : g.Scrollable) : Numbered g.ring g.nextSeq :=
  h.numbered.perm g.ring_perm

/-- Some of the rows between `top` and `bottom` stay, and new ones take the place of the others. -/
theorem Scrollable.putRows (h : g.Scrollable) {top n : Nat} {rows kept fresh : List Row}
    (hfits : top + rows.length ≤ g.rows) (hrows : rows.Perm (kept ++ fresh))
    (hkept : kept.Sublist ((g.ring.take (top + rows.length)).drop top))
    (hfresh : fresh.map Row.seq = List.range' g.nextSeq n)
    (hwidth : ∀ r ∈ fresh, r.cells.size = g.cols) :
    Shows { g.putRows top rows with nextSeq := g.nextSeq + n }
      (g.sheet.replace top (top + rows.length) (rows.map Row.line)) := by
  have hroom := h.room
  have fits : top + rows.length ≤ g.capacity := by omega
  let others := g.ring.take top ++ kept ++ g.ring.drop (top + rows.length)
  have sub : others.Sublist g.ring := by
    have between := List.take_append_drop top (g.ring.take (top + rows.length))
    rw [List.take_take, Nat.min_eq_left (Nat.le_add_right ..)] at between
    have whole := List.take_append_drop (top + rows.length) g.ring
    rw [← between] at whole
    exact whole ▸ (hkept.append_left _).append_right _
  have perm : (g.ring.take top ++ rows ++ g.ring.drop (top + rows.length)).Perm
      (others ++ fresh) := by
    refine ((hrows.append_left _).append_right _).trans ?_
    rw [← List.append_assoc, List.append_assoc (_ ++ kept), List.append_assoc (_ ++ kept)]
    exact List.perm_append_comm.append_left _
  -- The marks on the new rows do not matter.
  have marked {α : Type} (f : Row → α) (hf : ∀ r, f { r with dirty := true } = f r) :
      (g.putRows top rows).ring.map f =
        (g.ring.take top ++ rows ++ g.ring.drop (top + rows.length)).map f := by
    rw [ring_putRows fits]
    simp only [List.map_append, List.map_map]
    rw [show f ∘ (fun r : Row => { r with dirty := true }) = f from funext hf]
  refine ⟨⟨?_, ?_, ?_, h.region_lt, h.region_le⟩, sheet_putRows hroom hfits _⟩
  · show g.history + g.rows ≤ (g.putRows top rows).capacity
    rw [capacity_putRows fits]
    exact hroom
  · have width : ∀ r ∈ g.ring.take top ++ rows ++ g.ring.drop (top + rows.length),
        r.cells.size = g.cols := by
      intro r hr
      rcases List.mem_append.1 (perm.subset hr) with hr | hr
      · exact h.width r (g.mem_ring.1 (sub.subset hr))
      · exact hwidth r hr
    have same := marked (fun r => r.cells.size) fun _ => rfl
    exact fun r hr => forall_mem_of_map_eq (P := (· = g.cols)) same width r ((mem_ring _).2 hr)
  · have numbered := ((h.numbered_ring.append sub hfresh).perm perm).of_map_seq
      (marked Row.seq fun _ => rfl)
    exact numbered.perm (ring_perm _).symm

/-! ## Each way of scrolling -/

theorem Scrollable.length_between (h : g.Scrollable) (top : Nat) {bottom : Nat}
    (hbottom : bottom ≤ g.rows) :
    ((g.ring.take bottom).drop top).length = bottom - top := by
  have := h.room
  rw [List.length_drop, List.length_take, length_ring]
  omega

theorem Scrollable.map_between (h : g.Scrollable) {bottom : Nat} (hbottom : bottom ≤ g.rows)
    (top : Nat) :
    ((g.ring.take bottom).drop top).map Row.line = (g.sheet.screen.take bottom).drop top := by
  have := h.room
  rw [sheet_screen (by omega), List.map_drop, List.map_take, ← List.map_take, ← List.map_take,
    List.take_take, Nat.min_eq_left hbottom]

theorem Scrollable.shiftUp (h : g.Scrollable) {top bottom : Nat} (htop : top < bottom)
    (hbottom : bottom ≤ g.rows) (n : Nat) (background : Color) :
    (g.shiftUp top bottom n background).Shows (g.sheet.shiftUp top bottom n background) := by
  have hroom := h.room
  have between := rowsBetween_eq (g := g) (by omega) top hbottom
  have hlen := h.length_between top hbottom
  unfold Sheet.shiftUp
  rcases Nat.eq_zero_or_pos n with rfl | hn
  · dsimp only
    rw [shiftUp_zero, Nat.zero_min, Nat.add_zero, Sheet.blanks, List.replicate_zero,
      List.append_nil, Sheet.replace_self (Nat.le_of_lt htop)]
    exact h.shows
  · rw [shiftUp_eq_liftRows (by omega) h.width htop hbottom hn, liftRows, between]
    dsimp only
    generalize hmoved : min n (bottom - top) = moved
    have fits : top + (((g.ring.take bottom).drop top).drop moved ++
        g.freshRows moved background).length = bottom := by
      rw [List.length_append, List.length_drop, length_freshRows, hlen]
      omega
    have shows := h.putRows (fits ▸ hbottom) (List.Perm.refl _)
      (by rw [fits]; exact List.drop_sublist ..) (map_seq_freshRows moved background)
      (width_freshRows moved background)
    rw [fits, List.map_append, map_line_freshRows, List.drop_drop, h.map_between hbottom] at shows
    rw [List.drop_drop]
    exact shows

theorem Scrollable.shiftDown (h : g.Scrollable) {top bottom : Nat} (htop : top < bottom)
    (hbottom : bottom ≤ g.rows) (n : Nat) (background : Color) :
    (g.shiftDown top bottom n background).Shows (g.sheet.shiftDown top bottom n background) := by
  have hroom := h.room
  have between := rowsBetween_eq (g := g) (by omega) top hbottom
  have hlen := h.length_between top hbottom
  unfold Sheet.shiftDown
  rcases Nat.eq_zero_or_pos n with rfl | hn
  · dsimp only
    rw [shiftDown_zero, Nat.zero_min, Nat.sub_zero, Sheet.blanks, List.replicate_zero,
      List.nil_append, Sheet.replace_self (Nat.le_of_lt htop)]
    exact h.shows
  · rw [shiftDown_eq_lowerRows (by omega) h.width htop hbottom hn, lowerRows, between]
    dsimp only
    generalize hmoved : min n (bottom - top) = moved
    have kept : ((g.ring.take bottom).drop top).take (bottom - top - moved) =
        (g.ring.take (bottom - moved)).drop top := by
      have first : top + (bottom - top - moved) = bottom - moved := by omega
      rw [List.take_drop, List.take_take, first, Nat.min_eq_left (Nat.sub_le ..)]
    have fits : top + (g.freshRows moved background ++
        ((g.ring.take bottom).drop top).take (bottom - top - moved)).length = bottom := by
      rw [List.length_append, List.length_take, length_freshRows, hlen]
      omega
    have shows := h.putRows (fits ▸ hbottom) List.perm_append_comm
      (by rw [fits]; exact List.take_sublist ..) (map_seq_freshRows moved background)
      (width_freshRows moved background)
    rw [fits, List.map_append, map_line_freshRows, kept, h.map_between (by omega)] at shows
    rw [kept]
    exact shows

/-- The bottom row is the only one of the screen that changes when the ring is turned. -/
theorem take_turned (x : Row) (rest : List Row) {rows : Nat} (hrows : 0 < rows)
    (hroom : rows ≤ rest.length + 1) (f : Row → Row) :
    ∃ r ∈ rest ++ [x], ((rest ++ [x]).modify (rows - 1) f).take rows =
      ((x :: rest).take rows).drop 1 ++ [f r] := by
  obtain ⟨n, rfl⟩ := Nat.exists_eq_add_of_le' hrows
  have lt : n < (rest ++ [x]).length := by
    rw [List.length_append, List.length_singleton]
    omega
  have len : ((rest ++ [x]).take n).length = n := by
    rw [List.length_take]
    omega
  refine ⟨(rest ++ [x])[n], List.getElem_mem lt, ?_⟩
  rw [Nat.add_sub_cancel, List.modify_eq_take_cons_drop lt, List.take_append, len,
    List.take_of_length_le (by omega), Nat.add_sub_cancel_left,
    List.take_append_of_le_length (by omega)]
  rfl

theorem Scrollable.rows_pos (h : g.Scrollable) : 0 < g.rows :=
  Nat.lt_of_le_of_lt (Nat.zero_le _) (Nat.lt_of_lt_of_le h.region_lt h.region_le)

/-- Turning puts the top row at the end of the ring and blanks the new bottom row. -/
theorem Scrollable.ring_turned (h : g.Scrollable) (background : Color) :
    ∃ x rest, g.ring = x :: rest ∧ rest.length + 1 = g.capacity ∧
      (Grid.turn background g).ring =
        (rest ++ [x]).modify (g.rows - 1) (·.reset background g.nextSeq) := by
  have hroom := h.room
  have hrows := h.rows_pos
  have hturned := ring_turn (g := g) hrows (by omega) background
  have len := g.length_ring
  cases hring : g.ring with
  | nil =>
    rw [hring, List.length_nil] at len
    omega
  | cons x rest =>
    rw [hring, List.length_cons] at len
    rw [hring, List.rotate_cons_succ, List.rotate_zero] at hturned
    exact ⟨x, rest, rfl, len, hturned⟩

/-- The top line goes to the scrollback. -/
theorem Scrollable.history_turn (h : g.Scrollable) (background : Color) :
    (Grid.turn background g).sheet.history =
      Sheet.newest (g.capacity - g.rows) (g.sheet.history ++ g.sheet.screen.take 1) := by
  have hroom := h.room
  have hrows := h.rows_pos
  have hcapacity := capacity_turn background g
  have hhistory : (Grid.turn background g).history = min (g.history + 1) (g.capacity - g.rows) :=
    rfl
  have screen := sheet_screen (g := g) (by omega)
  have history := sheet_history (g := g) (by omega)
  obtain ⟨x, rest, hring, len, hturned⟩ := h.ring_turned background
  rw [hring] at screen history
  obtain ⟨start, hstart⟩ := Nat.exists_eq_add_of_le' (show 1 ≤ g.capacity - g.history by omega)
  have top : (x :: rest).take g.rows = x :: rest.take (g.rows - 1) := by
    obtain ⟨n, hn⟩ := Nat.exists_eq_add_of_le' hrows
    rw [hn, List.take_succ_cons, Nat.add_sub_cancel]
  have moved : g.sheet.history ++ g.sheet.screen.take 1 =
      ((rest ++ [x]).drop start).map Row.line := by
    rw [history, screen, top, hstart, List.drop_succ_cons,
      List.drop_append_of_le_length (by omega), List.map_append]
    rfl
  rw [sheet_history (by rw [hhistory, hcapacity]; omega), hturned, hcapacity, hhistory,
    List.drop_modify_of_lt _ _ _ _ (by omega), moved, Sheet.newest, ← List.map_drop,
    List.drop_drop, List.length_map, List.length_drop, List.length_append, List.length_singleton]
  congr 2
  omega

/-- The other lines move up, and a blank one comes last. -/
theorem Scrollable.screen_turn (h : g.Scrollable) (background : Color) :
    (Grid.turn background g).sheet.screen =
      g.sheet.screen.drop 1 ++ g.sheet.blanks 1 background := by
  have hroom := h.room
  have hcapacity := capacity_turn background g
  have screen := sheet_screen (g := g) (by omega)
  obtain ⟨x, rest, hring, len, hturned⟩ := h.ring_turned background
  rw [hring] at screen
  obtain ⟨r, hr, bottom⟩ := take_turned x rest h.rows_pos (by omega) (·.reset background g.nextSeq)
  have blank : (r.reset background g.nextSeq).line =
      ⟨Array.replicate g.cols (.blank background), false, false⟩ := by
    have mem : r ∈ g.ring := by
      rw [hring]
      simpa [or_comm] using hr
    rw [← h.width r (g.mem_ring.1 mem)]
    rfl
  have room : (Grid.turn background g).rows ≤ (Grid.turn background g).capacity := by
    rw [hcapacity]
    show g.rows ≤ g.capacity
    omega
  rw [sheet_screen room, hturned]
  show List.map Row.line (List.take g.rows _) = _
  rw [bottom, List.map_append, List.map_drop, ← screen, List.map_singleton, blank]
  rfl

theorem Scrollable.sheet_turn (h : g.Scrollable) (background : Color) :
    (turn background g).sheet = g.sheet.turn 1 background := by
  apply Sheet.ext
  · rfl
  · show (Grid.turn background g).capacity - g.rows = g.capacity - g.rows
    rw [capacity_turn]
  · exact h.history_turn background
  · exact h.screen_turn background
  · rfl
  · rfl

theorem Scrollable.turn (h : g.Scrollable) (background : Color) :
    (turn background g).Shows (g.sheet.turn 1 background) := by
  have hroom := h.room
  refine ⟨⟨?_, ?_, ?_, h.region_lt, h.region_le⟩, h.sheet_turn background⟩
  · rw [capacity_turn]
    show min (g.history + 1) (g.capacity - g.rows) + g.rows ≤ g.capacity
    omega
  · exact forall_mem_modify h.width (f := fun r => r.reset background g.nextSeq) fun r hr =>
      Array.size_replicate.trans (h.width r (Array.mem_of_getElem? hr))
  · show Numbered (g.slots.modify _ _).toList (g.nextSeq + 1)
    rw [Array.toList_modify]
    exact h.numbered.modify _ fun _ => rfl

theorem Scrollable.repeat_turn (h : g.Scrollable) {n : Nat} (hn : n ≤ g.rows)
    (background : Color) :
    (Nat.repeat (Grid.turn background) n g).Shows (g.sheet.turn n background) := by
  have hroom := h.room
  induction n with
  | zero =>
    rw [Sheet.turn_zero]
    · exact h.shows
    · rw [length_history (by omega)]
      show g.history ≤ g.capacity - g.rows
      omega
  | succ n ih =>
    have before := ih (by omega)
    have step := before.scrollable.turn background
    rw [before.sheet_eq, Sheet.turn_turn] at step
    · exact step
    · rw [length_screen (by omega)]
      exact hn

/-- Changes of rows that leave their widths and give no number twice. -/
theorem Scrollable.of_slots (h : g.Scrollable) {slots : Array Row} {nextSeq : Nat}
    (hwidth : slots.toList.map (fun r => r.cells.size) =
      g.slots.toList.map fun r => r.cells.size)
    (hnumbered : Numbered slots.toList nextSeq) :
    Scrollable { g with slots := slots, nextSeq := nextSeq } := by
  have size : slots.size = g.slots.size := by
    simpa using congrArg List.length hwidth
  refine ⟨?_, fun r hr => ?_, hnumbered, h.region_lt, h.region_le⟩
  · show g.history + g.rows ≤ slots.size
    rw [size]
    exact h.room
  · exact forall_mem_of_map_eq (P := (· = g.cols)) hwidth
      (fun r hr => h.width r (Array.mem_toList_iff.1 hr)) r (Array.mem_toList_iff.2 hr)

theorem Shows.markScreenDirty {s : Sheet} (h : g.Shows s) : g.markScreenDirty.Shows s := by
  obtain ⟨hg, rfl⟩ := h
  have slots {α : Type} (f : Row → α) (hf : ∀ r, f { r with dirty := true } = f r) :
      g.markScreenDirty.slots.toList.map f = g.slots.toList.map f :=
    map_foldl_slots (fun _ => hf) _ g.slots
  refine ⟨hg.of_slots (slots _ fun _ => rfl) ?_, ?_⟩
  · exact hg.numbered.of_map_seq (slots _ fun _ => rfl)
  · exact sheet_congr hg.room (map_markScreenDirty fun _ => rfl) rfl rfl rfl rfl rfl

/-- What a grid shows as a sheet does not depend on where the view is. -/
theorem Shows.followView {s : Sheet} (h : g.Shows s) (atBottom : Bool) :
    (g.followView atBottom).Shows s := by
  obtain ⟨hg, rfl⟩ := h
  have viewed (view : Nat) : Shows { g with view := view } g.sheet :=
    ⟨⟨hg.room, hg.width, hg.numbered, hg.region_lt, hg.region_le⟩, rfl⟩
  unfold Grid.followView
  split
  · exact viewed _
  · split
    · exact viewed _
    · exact hg.shows

/-- What a grid shows does not depend on the column of the cursor. -/
theorem Shows.toFirstColumn {s : Sheet} (h : g.Shows s) : g.toFirstColumn.Shows s :=
  ⟨⟨h.scrollable.room, h.scrollable.width, h.scrollable.numbered, h.scrollable.region_lt,
    h.scrollable.region_le⟩, h.sheet_eq⟩

theorem Scrollable.rotateUp (h : g.Scrollable) (n : Nat) (background : Color) :
    (g.rotateUp n background).Shows (g.sheet.turn (min n g.rows) background) := by
  have hroom := h.room
  have turned := h.repeat_turn (Nat.min_le_right n g.rows) background
  unfold Grid.rotateUp
  dsimp only
  split
  · rename_i hzero
    rw [hzero] at turned ⊢
    exact turned
  · exact (turned.followView _).markScreenDirty

theorem Scrollable.eraseScrollback (h : g.Scrollable) :
    g.eraseScrollback.Shows { g.sheet with history := [] } := by
  have hroom := h.room
  have width : g.eraseScrollback.slots.toList.map (fun r => r.cells.size) =
      g.slots.toList.map fun r => r.cells.size :=
    map_foldl_slots (fun _ _ => Array.size_replicate) _ g.slots
  have hcapacity : g.eraseScrollback.capacity = g.capacity := by
    simpa [capacity] using congrArg List.length width
  have erased := h.of_slots width (numbered_eraseScrollback h.numbered)
  have room : g.rows ≤ g.eraseScrollback.capacity := by
    rw [hcapacity]
    omega
  refine ⟨⟨?_, erased.width, erased.numbered, h.region_lt, h.region_le⟩, ?_⟩
  · show 0 + g.rows ≤ g.eraseScrollback.capacity
    omega
  · have kept := take_eraseScrollback (g := g) (by omega)
    have screen : g.eraseScrollback.ring.take g.rows = g.ring.take g.rows := by
      have := congrArg (List.take g.rows) kept
      rwa [List.take_take, List.take_take, Nat.min_eq_left (by omega)] at this
    apply Sheet.ext
    · rfl
    · show g.eraseScrollback.capacity - g.rows = g.capacity - g.rows
      rw [hcapacity]
    · rfl
    · show g.eraseScrollback.sheet.screen = g.sheet.screen
      rw [sheet_screen room, sheet_screen (by omega)]
      exact congrArg _ screen
    · rfl
    · rfl

/-- Scrolling a grid is scrolling its sheet. -/
theorem Shows.scroll {s : Sheet} (h : g.Shows s) (what : Scrolling) :
    (g.scroll what).Shows (s.scroll what) := by
  obtain ⟨hg, rfl⟩ := h
  have hroom := hg.room
  have screen := length_screen (g := g) (by omega)
  cases what with
  | up n background =>
    show (g.scrollUp n background).Shows (g.sheet.scrollUp n background)
    unfold Grid.scrollUp Sheet.scrollUp
    rw [screen, show g.sheet.region = g.region from rfl]
    by_cases hfull : g.region.isFull g.rows
    · rw [if_pos hfull, if_pos hfull]
      exact hg.rotateUp n background
    · rw [if_neg hfull, if_neg hfull]
      exact hg.shiftUp hg.region_lt hg.region_le n background
  | down n background => exact hg.shiftDown hg.region_lt hg.region_le n background
  | insertLines n background =>
    show (g.insertLines n background).Shows (if g.region.contains g.cursor.row then
      g.sheet.shiftDown g.cursor.row g.region.bottom n background else g.sheet)
    unfold Grid.insertLines
    split
    · rename_i hrow
      simp only [Region.contains, Bool.and_eq_true, decide_eq_true_eq] at hrow
      exact (hg.shiftDown hrow.2 hg.region_le n background).toFirstColumn
    · exact hg.shows
  | deleteLines n background =>
    show (g.deleteLines n background).Shows (if g.region.contains g.cursor.row then
      g.sheet.shiftUp g.cursor.row g.region.bottom n background else g.sheet)
    unfold Grid.deleteLines
    split
    · rename_i hrow
      simp only [Region.contains, Bool.and_eq_true, decide_eq_true_eq] at hrow
      exact (hg.shiftUp hrow.2 hg.region_le n background).toFirstColumn
    · exact hg.shows
  | eraseScrollback => exact hg.eraseScrollback

/-- Scrolling a grid again and again is scrolling its sheet again and again. -/
theorem Shows.foldl_scroll {s : Sheet} (h : g.Shows s) (l : List Scrolling) :
    (l.foldl Grid.scroll g).Shows (l.foldl Sheet.scroll s) := by
  induction l generalizing g s with
  | nil => exact h
  | cons what l ih => exact ih (h.scroll what)

theorem rows_shiftUp (g : Grid) (top bottom n : Nat) (background : Color) :
    (g.shiftUp top bottom n background).rows = g.rows :=
  (g.refills_shiftUp top bottom n background).congr Grid.rows fun _ _ => rfl

theorem rows_shiftDown (g : Grid) (top bottom n : Nat) (background : Color) :
    (g.shiftDown top bottom n background).rows = g.rows :=
  (g.refills_shiftDown top bottom n background).congr Grid.rows fun _ _ => rfl

theorem rows_repeat_turn (n : Nat) (background : Color) (g : Grid) :
    (Nat.repeat (Grid.turn background) n g).rows = g.rows := by
  induction n with
  | zero => rfl
  | succ n ih => exact ih

theorem rows_rotateUp (g : Grid) (n : Nat) (background : Color) :
    (g.rotateUp n background).rows = g.rows := by
  unfold Grid.rotateUp Grid.followView
  dsimp only
  split
  · rfl
  · refine Eq.trans ?_ (rows_repeat_turn (min n g.rows) background g)
    split
    · rfl
    · split <;> rfl

theorem rows_scroll (what : Scrolling) : (g.scroll what).rows = g.rows := by
  cases what with
  | up n background =>
    show (g.scrollUp n background).rows = g.rows
    unfold Grid.scrollUp
    split
    · exact rows_rotateUp ..
    · exact rows_shiftUp ..
  | down n background => exact rows_shiftDown ..
  | insertLines n background =>
    show (g.insertLines n background).rows = g.rows
    unfold Grid.insertLines
    split
    · exact rows_shiftDown ..
    · rfl
  | deleteLines n background =>
    show (g.deleteLines n background).rows = g.rows
    unfold Grid.deleteLines
    split
    · exact rows_shiftUp ..
    · rfl
  | eraseScrollback => rfl

theorem rows_foldl_scroll (l : List Scrolling) : (l.foldl Grid.scroll g).rows = g.rows := by
  induction l generalizing g with
  | nil => rfl
  | cons what l ih => exact ih.trans (rows_scroll what)

/-- After any scrolling the lines are those of the plain lists, and no two rows have the same
number. -/
theorem foldl_scroll_lines (h : g.Scrollable) (l : List Scrolling) :
    let scrolled := l.foldl Grid.scroll g
    let s := l.foldl Sheet.scroll g.sheet
    s.screen.length = g.rows ∧ scrolled.lineCount = s.lines.length ∧
      (∀ line, (scrolled.line? line).map Row.line = s.lines[line]?) ∧
      (scrolled.slots.toList.map Row.seq).Nodup := by
  intro scrolled s
  obtain ⟨kept, heq⟩ := h.shows.foldl_scroll l
  have hroom : scrolled.history + scrolled.rows ≤ scrolled.capacity := kept.room
  have hrows : scrolled.rows = g.rows := rows_foldl_scroll l
  have heq : scrolled.sheet = s := heq
  have screen := length_screen (g := scrolled) (by omega)
  have history := length_history (g := scrolled) (by omega)
  have lines := line?_eq_lines hroom
  rw [heq] at screen history lines
  refine ⟨screen.trans hrows, ?_, lines, kept.numbered.nodup⟩
  rw [Sheet.lines, List.length_append, screen, history]
  rfl

/-- A new grid can be scrolled. -/
theorem scrollable_new (kind : ScreenKind) (cols rows scrollback : Nat) :
    (new kind cols rows scrollback).Scrollable := by
  have size : (new kind cols rows scrollback).capacity =
      capacityFor kind (max rows 1) scrollback := by
    simp [new, capacity]
  have le := le_capacityFor kind (max rows 1) scrollback
  have seqs : (new kind cols rows scrollback).slots.toList.map Row.seq =
      List.range (capacityFor kind (max rows 1) scrollback) := by
    simp [new, Row.blank, Function.comp_def]
  refine ⟨?_, ?_, ⟨?_, ?_⟩, ?_, ?_⟩
  · rw [size]
    show 0 + max rows 1 ≤ _
    omega
  · intro r hr
    simp only [new, Array.mem_map] at hr
    obtain ⟨seq, -, rfl⟩ := hr
    exact Array.size_replicate
  · intro r hr
    have hmem := List.mem_map_of_mem (f := Row.seq) hr
    rw [seqs] at hmem
    exact List.mem_range.1 hmem
  · rw [seqs]
    exact List.nodup_range
  · show 0 < max rows 1
    omega
  · exact Nat.le_refl _

/-- Of six lines that scroll off a screen of three rows, a scrollback with room for five keeps
five. -/
theorem foldl_scroll_lines_new :
    (new .primary 4 3 2).Scrollable ∧
      ([.up 2 .default, .insertLines 1 .default, .up 3 .default, .up 1 .default].foldl scroll
        (new .primary 4 3 2)).lineCount = 8 :=
  ⟨scrollable_new .primary 4 3 2,
    (foldl_scroll_lines (scrollable_new .primary 4 3 2) _).2.1.trans (by decide +kernel)⟩

end Teletype.Grid
