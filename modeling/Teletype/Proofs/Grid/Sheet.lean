import Teletype.Proofs.Grid.Shift

/-!
# Screen and scrollback as plain lists

A sheet is a screen and its scrollback without a ring: two lists of lines. Every grid has one, and
scrolling a sheet needs no arithmetic on a ring.
-/

namespace Teletype

/-- What is seen of a row. -/
structure Line where
  cells : Array Cell
  wrapped : Bool
  prompt : Bool
  deriving DecidableEq

def Row.line (r : Row) : Line := ⟨r.cells, r.wrapped, r.prompt⟩

/-- A screen and the lines that scrolled off it. -/
@[ext]
structure Sheet where
  cols : Nat
  /-- How many lines of the scrollback are kept. -/
  limit : Nat
  /-- The scrollback, the oldest line first. -/
  history : List Line
  /-- The screen, from the top. -/
  screen : List Line
  region : Region
  /-- The row of the cursor. -/
  cursor : Nat

/-- What scrolls. -/
inductive Scrolling where
  | up (n : Nat) (background : Color)
  | down (n : Nat) (background : Color)
  | insertLines (n : Nat) (background : Color)
  | deleteLines (n : Nat) (background : Color)
  | eraseScrollback

namespace Sheet

/-- The last `limit` lines. -/
def newest (limit : Nat) (lines : List Line) : List Line := lines.drop (lines.length - limit)

variable (s : Sheet)

/-- All lines, the oldest first. -/
def lines : List Line := s.history ++ s.screen

/-- `n` blank lines. -/
def blanks (n : Nat) (background : Color) : List Line :=
  List.replicate n ⟨Array.replicate s.cols (.blank background), false, false⟩

/-- Puts other lines in the place of those from `top` up to but not including `bottom`. -/
def replace (top bottom : Nat) (lines : List Line) : Sheet :=
  { s with screen := s.screen.take top ++ lines ++ s.screen.drop bottom }

/-- Takes `n` lines out at `top`; blank lines fill up the end, before `bottom`. -/
def shiftUp (top bottom n : Nat) (background : Color) : Sheet :=
  let n := min n (bottom - top)
  s.replace top bottom ((s.screen.take bottom).drop (top + n) ++ s.blanks n background)

/-- Inserts `n` blank lines at `top`; the lines pushed to `bottom` are lost. -/
def shiftDown (top bottom n : Nat) (background : Color) : Sheet :=
  let n := min n (bottom - top)
  s.replace top bottom (s.blanks n background ++ (s.screen.take (bottom - n)).drop top)

/-- Moves `n` lines from the screen to the scrollback, which keeps the newest ones. -/
def turn (n : Nat) (background : Color) : Sheet :=
  { s with
    history := newest s.limit (s.history ++ s.screen.take n)
    screen := s.screen.drop n ++ s.blanks n background }

def scrollUp (n : Nat) (background : Color) : Sheet :=
  if s.region.isFull s.screen.length then s.turn (min n s.screen.length) background
  else s.shiftUp s.region.top s.region.bottom n background

def scroll : Scrolling → Sheet
  | .up n background => s.scrollUp n background
  | .down n background => s.shiftDown s.region.top s.region.bottom n background
  | .insertLines n background =>
    if s.region.contains s.cursor then s.shiftDown s.cursor s.region.bottom n background else s
  | .deleteLines n background =>
    if s.region.contains s.cursor then s.shiftUp s.cursor s.region.bottom n background else s
  | .eraseScrollback => { s with history := [] }

/-! ## Changing lines -/

theorem newest_of_le {limit : Nat} {lines : List Line} (h : lines.length ≤ limit) :
    newest limit lines = lines := by
  rw [newest, Nat.sub_eq_zero_of_le h, List.drop_zero]

/-- Lines that were dropped are not missed when more come. -/
theorem newest_append (limit : Nat) (old new : List Line) :
    newest limit (newest limit old ++ new) = newest limit (old ++ new) := by
  have dropped : old.drop (old.length - limit) ++ new = (old ++ new).drop (old.length - limit) := by
    rw [List.drop_append_of_le_length (Nat.sub_le _ _)]
  rw [newest, newest, newest, dropped, List.drop_drop, List.length_drop, List.length_append]
  congr 1
  omega

variable {s}

/-- Nothing is replaced by itself. -/
theorem replace_self {top bottom : Nat} (h : top ≤ bottom) :
    s.replace top bottom ((s.screen.take bottom).drop top) = s := by
  have between := List.take_append_drop top (s.screen.take bottom)
  rw [List.take_take, Nat.min_eq_left h] at between
  rw [replace, between, List.take_append_drop]

theorem turn_zero (h : s.history.length ≤ s.limit) (background : Color) :
    s.turn 0 background = s := by
  unfold turn
  rw [List.take_zero, List.append_nil, newest_of_le h, List.drop_zero]
  simp [blanks]

/-- Turning by one line more. -/
theorem turn_turn {n : Nat} (h : n < s.screen.length) (background : Color) :
    (s.turn n background).turn 1 background = s.turn (n + 1) background := by
  have rest : (s.screen.drop n).length = s.screen.length - n := List.length_drop
  have pos : 1 ≤ (s.screen.drop n).length := by omega
  have moved : s.screen.take n ++ (s.screen.drop n).take 1 = s.screen.take (n + 1) :=
    (List.take_add ..).symm
  have blank : s.blanks n background ++ s.blanks 1 background = s.blanks (n + 1) background :=
    List.replicate_append_replicate
  unfold turn
  congr 1
  · show newest s.limit (newest s.limit (s.history ++ s.screen.take n) ++
      (s.screen.drop n ++ s.blanks n background).take 1) = _
    rw [newest_append, List.take_append_of_le_length pos, List.append_assoc, moved]
  · show (s.screen.drop n ++ s.blanks n background).drop 1 ++ s.blanks 1 background = _
    rw [List.drop_append_of_le_length pos, List.drop_drop, List.append_assoc, blank]

end Sheet

namespace Grid

/-- The grid as plain lists. -/
def sheet (g : Grid) : Sheet where
  cols := g.cols
  limit := g.capacity - g.rows
  history := ((List.range g.history).filterMap g.line?).map Row.line
  screen := ((List.range g.rows).filterMap g.row?).map Row.line
  region := g.region
  cursor := g.cursor.row

variable {g : Grid}

/-! ## The sheet of a grid -/

theorem sheet_screen (hroom : g.rows ≤ g.capacity) :
    g.sheet.screen = (g.ring.take g.rows).map Row.line := by
  have inside : ∀ row ∈ List.range g.rows, g.row? row = g.ring[0 + row]? := by
    intro row hrow
    rw [Nat.zero_add]
    exact row?_eq hroom (List.mem_range.1 hrow)
  rw [sheet, List.filterMap_congr inside, filterMap_getElem?, List.drop_zero]

theorem sheet_history (hroom : g.history ≤ g.capacity) :
    g.sheet.history = (g.ring.drop (g.capacity - g.history)).map Row.line := by
  have inside : ∀ line ∈ List.range g.history,
      g.line? line = g.ring[g.capacity - g.history + line]? := fun line hline =>
    line?_eq_of_lt hroom (List.mem_range.1 hline)
  rw [sheet, List.filterMap_congr inside, filterMap_getElem?, List.take_of_length_le]
  rw [List.length_drop, length_ring]
  omega

theorem length_screen (hroom : g.rows ≤ g.capacity) : g.sheet.screen.length = g.rows := by
  rw [sheet_screen hroom, List.length_map, List.length_take, length_ring]
  omega

theorem length_history (hroom : g.history ≤ g.capacity) :
    g.sheet.history.length = g.history := by
  rw [sheet_history hroom, List.length_map, List.length_drop, length_ring]
  omega

/-- The lines of a grid are the lines of its sheet. -/
theorem line?_eq_lines (hroom : g.history + g.rows ≤ g.capacity) (line : Nat) :
    (g.line? line).map Row.line = g.sheet.lines[line]? := by
  have len := length_history (g := g) (by omega)
  rw [Sheet.lines, List.getElem?_append, len]
  split
  · rename_i h
    rw [line?_eq_of_lt (by omega) h, sheet_history (by omega), List.getElem?_map,
      List.getElem?_drop]
  · rename_i h
    obtain ⟨row, rfl⟩ := Nat.exists_eq_add_of_le (Nat.le_of_not_lt h)
    rw [line?_eq_row? (by omega), Nat.add_sub_cancel_left, sheet_screen (by omega),
      List.getElem?_map, List.getElem?_take]
    split
    · rename_i hrow
      rw [row?_eq (by omega) hrow]
    · rename_i hrow
      rw [row?, if_neg hrow]

/-- Two grids with the same ring, read the same way, have the same sheet. -/
theorem sheet_congr {g' : Grid} (hroom : g.history + g.rows ≤ g.capacity)
    (hring : g'.ring.map Row.line = g.ring.map Row.line) (hcols : g'.cols = g.cols)
    (hrows : g'.rows = g.rows) (hhistory : g'.history = g.history) (hregion : g'.region = g.region)
    (hcursor : g'.cursor.row = g.cursor.row) : g'.sheet = g.sheet := by
  have hcapacity : g'.capacity = g.capacity := by
    rw [← length_ring, ← length_ring, ← List.length_map (f := Row.line), hring, List.length_map]
  apply Sheet.ext
  · exact hcols
  · show g'.capacity - g'.rows = g.capacity - g.rows
    rw [hcapacity, hrows]
  · rw [sheet_history (by omega), sheet_history (by omega), List.map_drop, List.map_drop, hring,
      hcapacity, hhistory]
  · rw [sheet_screen (by omega), sheet_screen (by omega), List.map_take, List.map_take,
      hring, hrows]
  · exact hregion
  · exact hcursor

/-! ## Moving rows -/

theorem capacity_putRows {top : Nat} {rows : List Row} (h : top + rows.length ≤ g.capacity) :
    (g.putRows top rows).capacity = g.capacity := by
  rw [← length_ring, ring_putRows h]
  simp only [List.length_append, List.length_take, List.length_map, List.length_drop, length_ring]
  omega

/-- Putting rows on the screen replaces lines. -/
theorem sheet_putRows (hroom : g.history + g.rows ≤ g.capacity) {top : Nat} {rows : List Row}
    (h : top + rows.length ≤ g.rows) (nextSeq : Nat) :
    ({ g.putRows top rows with nextSeq := nextSeq } : Grid).sheet =
      g.sheet.replace top (top + rows.length) (rows.map Row.line) := by
  have fits : top + rows.length ≤ g.capacity := by omega
  have hcapacity := capacity_putRows fits
  have hring := ring_putRows fits
  have marked : (rows.map fun r => { r with dirty := true }).map Row.line = rows.map Row.line := by
    rw [List.map_map]
    rfl
  have len : (rows.map fun r => { r with dirty := true }).length = rows.length := List.length_map _
  show (g.putRows top rows).sheet = _
  apply Sheet.ext
  · rfl
  · show (g.putRows top rows).capacity - g.rows = g.capacity - g.rows
    rw [hcapacity]
  · show (g.putRows top rows).sheet.history = g.sheet.history
    have room : (g.putRows top rows).history ≤ (g.putRows top rows).capacity := by
      rw [hcapacity]
      show g.history ≤ g.capacity
      omega
    rw [sheet_history room, sheet_history (by omega), hring, hcapacity, ← len, drop_replace]
    · rfl
    · rw [len]
      show top + rows.length ≤ g.capacity - g.history
      omega
    · rw [length_ring]
      exact Nat.sub_le ..
  · have room : (g.putRows top rows).rows ≤ (g.putRows top rows).capacity := by
      rw [hcapacity]
      show g.rows ≤ g.capacity
      omega
    rw [sheet_screen room, hring, ← len, take_replace]
    · simp only [List.map_append, List.map_take, List.map_drop, marked, Sheet.replace,
        sheet_screen (show g.rows ≤ g.capacity by omega)]
      rfl
    · rw [len]
      exact h
    · rw [length_ring]
      show g.rows ≤ g.capacity
      omega
  · rfl
  · rfl

theorem map_line_freshRows (n : Nat) (background : Color) :
    (g.freshRows n background).map Row.line = g.sheet.blanks n background := by
  have blank : (g.freshRows n background).map Row.line =
      (List.range n).map fun _ => ⟨Array.replicate g.cols (.blank background), false, false⟩ :=
    List.map_map
  rw [blank, List.map_const', List.length_range]
  rfl

theorem map_seq_freshRows (n : Nat) (background : Color) :
    (g.freshRows n background).map Row.seq = List.range' g.nextSeq n := by
  rw [List.range'_eq_map_range]
  exact List.map_map

theorem width_freshRows (n : Nat) (background : Color) :
    ∀ r ∈ g.freshRows n background, r.cells.size = g.cols := by
  intro r hr
  obtain ⟨i, -, rfl⟩ := List.mem_map.1 hr
  exact Array.size_replicate

end Grid

end Teletype
