import Teletype.Proofs.Grid.Resize
import Teletype.Proofs.Terminal.Reachable
import Teletype.Selection

/-!
# The words of a line

The search to the left steps over a glyph of two columns from its right half, the one to the right
from its left half. On a line that holds no half glyph both stop between glyphs, so the selections
around the columns of a line are its runs of glyphs of one class, each as long as can be, and cut
the line into pieces.
-/

namespace Teletype.Selection

open Row (Paired)

variable {screen : ScreenKind} {cols rows line col : Nat} {g : Grid} {kind kind' : WordClass}
    {s s' : Selection}

/-- How much of a glyph a column of a line shows. -/
def extentAt (g : Grid) (line col : Nat) : Extent :=
  ((cell? g line col).map Cell.extent).getD .narrow

/-- The selection has the column of the line. -/
def Covers (s : Selection) (line col : Nat) : Prop :=
  s.first.line = line ∧ s.last.line = line ∧ s.first.col ≤ col ∧ col ≤ s.last.col

/-- A run of whole glyphs of one class in a line that no glyph of the class goes before or after. -/
structure IsWord (g : Grid) (line : Nat) (kind : WordClass) (s : Selection) : Prop where
  first_line : s.first.line = line
  last_line : s.last.line = line
  last_lt : s.last.col < g.cols
  /-- The run does not start within a glyph. -/
  whole_first : extentAt g line s.first.col ≠ .tail
  /-- The run does not end within a glyph. -/
  whole_last : extentAt g line s.last.col ≠ .head
  /-- A column with the right half of a glyph has no class of its own. -/
  class_eq : ∀ col, s.first.col ≤ col → col ≤ s.last.col → extentAt g line col ≠ .tail →
    classAt g line col = kind
  /-- A glyph that ends where the run starts is of another class. -/
  before : ∀ col, col + (extentAt g line col).width = s.first.col → classAt g line col ≠ kind
  /-- The glyph after the run is of another class. -/
  after : s.last.col + 1 < g.cols → classAt g line (s.last.col + 1) ≠ kind

/-! ## Glyphs -/

/-- A line of a grid holds no half glyph. -/
theorem paired_extentAt (h : g.Valid screen cols rows) (hline : line < g.lineCount) :
    Paired (extentAt g line) ∧ ∀ col, g.cols ≤ col → extentAt g line col = .narrow := by
  obtain ⟨r, hr⟩ := Option.isSome_iff_exists.1 (Grid.line?_isSome h.capacity_pos hline)
  have mem : r ∈ g.lines := List.mem_filterMap.2 ⟨line, List.mem_range.2 hline, hr⟩
  have valid := h.lines r mem
  have same (col : Nat) : extentAt g line col = Row.extentAt r.cells col := by
    rw [extentAt, Row.extentAt, cell?, hr]
    rfl
  refine ⟨valid.paired.of_eq same, fun col hcol => ?_⟩
  rw [same, Row.extentAt_of_le]
  rw [valid.size, ← h.cols_eq]
  exact hcol

theorem glyphStart_eq (g : Grid) (line col : Nat) :
    glyphStart g line col = if extentAt g line col = .tail then col - 1 else col := by
  unfold glyphStart extentAt
  cases cell? g line col with
  | none => rfl
  | some c => simp [Cell.isTail]

theorem glyphEnd_eq (g : Grid) (line col : Nat) :
    glyphEnd g line col = if extentAt g line col = .head then min (col + 1) (g.cols - 1)
      else col := by
  unfold glyphEnd extentAt
  cases cell? g line col with
  | none => rfl
  | some c => simp [Cell.isHead]

section

variable (hp : Paired (extentAt g line))
    (hbeyond : ∀ col, g.cols ≤ col → extentAt g line col = .narrow)

include hp

/-- The right half of a glyph comes after its left half. -/
theorem exists_head_of_tail (h : extentAt g line col = .tail) :
    ∃ left, col = left + 1 ∧ extentAt g line left = .head := by
  cases col with
  | zero => exact absurd h hp.zero
  | succ left => exact ⟨left, rfl, (hp.pair left).2 h⟩

/-- A glyph starts where it is said to, and it is the only one from there to the column. -/
theorem glyphStart_spec (col : Nat) : extentAt g line (glyphStart g line col) ≠ .tail ∧
    ∀ i, glyphStart g line col < i → i ≤ col → extentAt g line i = .tail := by
  rw [glyphStart_eq]
  split
  · rename_i htail
    obtain ⟨left, rfl, hhead⟩ := exists_head_of_tail hp htail
    rw [Nat.add_sub_cancel]
    refine ⟨by simp [hhead], fun i lt le => ?_⟩
    obtain rfl : i = left + 1 := by omega
    exact htail
  · exact ⟨‹_›, fun i lt le => by omega⟩

/-- The glyph that ends before a column at which a glyph starts. -/
theorem add_width_eq_iff {i : Nat} (hcol : extentAt g line col ≠ .tail) :
    i + (extentAt g line i).width = col ↔ 0 < col ∧ i = glyphStart g line (col - 1) := by
  rw [glyphStart_eq]
  constructor
  · rintro rfl
    cases hi : extentAt g line i with
    | tail =>
      rw [hi] at hcol
      exact absurd hi hcol
    | narrow => simp [Extent.width, hi]
    | head =>
      have htail : extentAt g line (i + 1) = .tail := (hp.pair i).1 hi
      simp [Extent.width, htail]
  · rintro ⟨pos, rfl⟩
    obtain ⟨before, rfl⟩ := Nat.exists_eq_add_one_of_ne_zero (Nat.ne_of_gt pos)
    rw [Nat.add_sub_cancel]
    cases hbefore : extentAt g line before with
    | tail =>
      obtain ⟨left, rfl, hhead⟩ := exists_head_of_tail hp hbefore
      simp [hhead, Extent.width]
    | narrow => simp [hbefore, Extent.width]
    | head => exact absurd ((hp.pair before).1 hbefore) hcol

include hbeyond

/-- A glyph of two columns is within the line. -/
theorem head_lt (h : extentAt g line col = .head) : col + 1 < g.cols := by
  by_contra beyond
  have narrow := hbeyond (col + 1) (Nat.le_of_not_lt beyond)
  rw [(hp.pair col).1 h] at narrow
  exact absurd narrow (by decide)

/-- From where a glyph starts it goes on to its end, where no other one is. -/
theorem glyphEnd_spec (hcol : col < g.cols) :
    glyphEnd g line col < g.cols ∧ extentAt g line (glyphEnd g line col) ≠ .head ∧
      ∀ i, col < i → i ≤ glyphEnd g line col → extentAt g line i = .tail := by
  rw [glyphEnd_eq]
  split
  · rename_i hhead
    have inside := head_lt hp hbeyond hhead
    have htail : extentAt g line (col + 1) = .tail := (hp.pair col).1 hhead
    rw [Nat.min_eq_left (by omega)]
    refine ⟨inside, by simp [htail], fun i lt le => ?_⟩
    obtain rfl : i = col + 1 := by omega
    exact htail
  · exact ⟨hcol, ‹_›, fun i lt le => by omega⟩

omit hbeyond

/-- A column is in the glyph that is said to have it. -/
theorem le_glyphEnd_glyphStart (hcol : col < g.cols) :
    col ≤ glyphEnd g line (glyphStart g line col) := by
  rw [glyphStart_eq]
  split
  · rename_i htail
    obtain ⟨left, rfl, hhead⟩ := exists_head_of_tail hp htail
    rw [Nat.add_sub_cancel, glyphEnd_eq, if_pos hhead]
    omega
  · exact le_glyphEnd g line hcol

/-! ## The ends of a run -/

/-- From the start of the run up to the column all glyphs are of the class, and the one before the
run is not. -/
theorem runStart_spec (kind : WordClass) (hcol : extentAt g line col ≠ .tail) :
    runStart g line kind col ≤ col ∧ extentAt g line (runStart g line kind col) ≠ .tail ∧
      (∀ i, runStart g line kind col ≤ i → i < col → extentAt g line i ≠ .tail →
        classAt g line i = kind) ∧
      ∀ i, i + (extentAt g line i).width = runStart g line kind col → classAt g line i ≠ kind := by
  fun_induction runStart g line kind col with
  | case1 col hpos before hlt hclass ih =>
    obtain ⟨starts, only⟩ := glyphStart_spec hp (col - 1)
    obtain ⟨le, whole, all, other⟩ := ih starts
    refine ⟨Nat.le_of_lt (Nat.lt_of_le_of_lt le hlt), whole, fun i hi hicol hstart => ?_, other⟩
    rcases Nat.lt_trichotomy i before with lt | rfl | gt
    · exact all i hi lt hstart
    · exact hclass
    · exact absurd (only i gt (by omega)) hstart
  | case2 col hpos before hlt hclass =>
    refine ⟨Nat.le_refl _, hcol, fun i hi hicol => absurd hicol (Nat.not_lt.2 hi), fun i hi => ?_⟩
    obtain ⟨-, rfl⟩ := (add_width_eq_iff hp hcol).1 hi
    exact hclass
  | case3 col hzero =>
    refine ⟨Nat.le_refl _, hcol, fun i hi hicol => absurd hicol (Nat.not_lt.2 hi), fun i hi => ?_⟩
    exact absurd ((add_width_eq_iff hp hcol).1 hi).1 hzero

include hbeyond

/-- From the column up to the end of the run all glyphs are of the class, and the one after the run
is not. -/
theorem runEnd_spec (kind : WordClass) (hlt : col < g.cols) (hcol : extentAt g line col ≠ .head) :
    col ≤ runEnd g line kind col ∧ runEnd g line kind col < g.cols ∧
      extentAt g line (runEnd g line kind col) ≠ .head ∧
      (∀ i, col < i → i ≤ runEnd g line kind col → extentAt g line i ≠ .tail →
        classAt g line i = kind) ∧
      (runEnd g line kind col + 1 < g.cols →
        classAt g line (runEnd g line kind col + 1) ≠ kind) := by
  fun_induction runEnd g line kind col with
  | case1 col hnext hle hclass ih =>
    have starts : extentAt g line (col + 1) ≠ .tail := fun htail => hcol ((hp.pair col).2 htail)
    obtain ⟨inside, ends, only⟩ := glyphEnd_spec hp hbeyond hnext
    obtain ⟨le, lt, whole, all, other⟩ := ih inside ends
    refine ⟨by omega, lt, whole, fun i hi hilast hstart => ?_, other⟩
    by_cases hbeyond : glyphEnd g line (col + 1) < i
    · exact all i hbeyond hilast hstart
    · rcases Nat.lt_or_eq_of_le (show col + 1 ≤ i from hi) with after | rfl
      · exact absurd (only i after (Nat.le_of_not_lt hbeyond)) hstart
      · exact hclass
  | case2 col hnext hle hclass =>
    exact ⟨Nat.le_refl _, hlt, hcol, fun i hi hilast => absurd hi (Nat.not_lt.2 hilast),
      fun _ => hclass⟩
  | case3 col hend =>
    exact ⟨Nat.le_refl _, hlt, hcol, fun i hi hilast => absurd hi (Nat.not_lt.2 hilast),
      fun h => absurd h hend⟩

/-! ## Words -/

omit hp hbeyond

/-- Places beyond the lines and the columns are taken for the last ones. -/
theorem wordAt_clamped (g : Grid) (place : LinePlace) :
    wordAt g ⟨min place.line (g.lineCount - 1), min place.col (g.cols - 1)⟩ = wordAt g place := by
  simp only [wordAt, Nat.min_assoc, Nat.min_self]

theorem wordAt_of_lt (hline : line < g.lineCount) (hcol : col < g.cols) :
    let start := glyphStart g line col
    let kind := classAt g line start
    wordAt g ⟨line, col⟩ =
      ⟨⟨line, runStart g line kind start⟩, ⟨line, runEnd g line kind (glyphEnd g line start)⟩⟩ := by
  simp only [wordAt, Nat.min_eq_left (Nat.le_sub_one_of_lt hline),
    Nat.min_eq_left (Nat.le_sub_one_of_lt hcol)]

include hp hbeyond

/-- What is selected around a column is a word with the column in it. -/
theorem isWord_wordAt (hline : line < g.lineCount) (hcol : col < g.cols) :
    IsWord g line (classAt g line (glyphStart g line col)) (wordAt g ⟨line, col⟩) ∧
      Covers (wordAt g ⟨line, col⟩) line col := by
  have start_le := glyphStart_le g line col
  have col_le := le_glyphEnd_glyphStart hp hcol
  obtain ⟨starts, -⟩ := glyphStart_spec hp col
  obtain ⟨lt, ends, only⟩ := glyphEnd_spec hp hbeyond (Nat.lt_of_le_of_lt start_le hcol)
  rw [wordAt_of_lt hline hcol]
  generalize hkind : classAt g line (glyphStart g line col) = kind
  obtain ⟨first_le, whole_first, left, before⟩ := runStart_spec hp kind starts
  obtain ⟨le_last, last_lt, whole_last, right, after⟩ := runEnd_spec hp hbeyond kind lt ends
  refine ⟨⟨rfl, rfl, last_lt, whole_first, whole_last, fun i hfirst hlast hwhole => ?_, before,
    after⟩, rfl, rfl, Nat.le_trans first_le start_le, Nat.le_trans col_le le_last⟩
  rcases Nat.lt_trichotomy i (glyphStart g line col) with lt | rfl | gt
  · exact left i hfirst lt hwhole
  · exact hkind
  · by_cases hbeyond : glyphEnd g line (glyphStart g line col) < i
    · exact right i hbeyond hlast hwhole
    · exact absurd (only i gt (Nat.le_of_not_lt hbeyond)) hwhole

omit hbeyond

/-- The glyph of a column in a word is in the word. -/
theorem IsWord.first_le_glyphStart (hs : IsWord g line kind s) (hcol : s.first.col ≤ col) :
    s.first.col ≤ glyphStart g line col := by
  obtain ⟨-, only⟩ := glyphStart_spec hp col
  by_contra lt
  exact hs.whole_first (only s.first.col (Nat.lt_of_not_le lt) hcol)

/-- A word is as long to the left as any word of its class that shares a column with it. -/
theorem IsWord.first_le (hs : IsWord g line kind s) (hs' : IsWord g line kind s')
    (hcol : s.first.col ≤ col) (hcol' : col ≤ s'.last.col) : s.first.col ≤ s'.first.col := by
  by_contra lt
  have lt := Nat.lt_of_not_le lt
  have pos : 0 < s.first.col := Nat.zero_lt_of_lt lt
  obtain ⟨starts, -⟩ := glyphStart_spec hp (s.first.col - 1)
  have start_le := glyphStart_le g line (s.first.col - 1)
  -- The glyph before the first word is in the second one.
  refine hs.before _ ((add_width_eq_iff hp hs.whole_first).2 ⟨pos, rfl⟩) ?_
  exact hs'.class_eq _ (hs'.first_le_glyphStart hp (Nat.le_sub_one_of_lt lt)) (by omega) starts

/-- A word is as long to the right as any word of its class that shares a column with it. -/
theorem IsWord.last_le (hs : IsWord g line kind s) (hs' : IsWord g line kind s')
    (hcol : col ≤ s.last.col) (hcol' : s'.first.col ≤ col) : s'.last.col ≤ s.last.col := by
  by_contra lt
  have lt := Nat.lt_of_not_le lt
  have starts : extentAt g line (s.last.col + 1) ≠ .tail :=
    fun htail => hs.whole_last ((hp.pair _).2 htail)
  refine hs.after (Nat.lt_of_le_of_lt lt hs'.last_lt) ?_
  exact hs'.class_eq _ (by omega) lt starts

/-- Two words of a line that share a column are the same. -/
theorem IsWord.eq_of_covers (hs : IsWord g line kind s) (hs' : IsWord g line kind' s')
    (hcov : Covers s line col) (hcov' : Covers s' line col) : s = s' := by
  obtain ⟨line_first, line_last, first_le, le_last⟩ := hcov
  obtain ⟨line_first', line_last', first_le', le_last'⟩ := hcov'
  obtain ⟨starts, -⟩ := glyphStart_spec hp col
  have start_le := glyphStart_le g line col
  -- The glyph they share gives both their class.
  have hkind :=
    hs.class_eq _ (hs.first_le_glyphStart hp first_le) (Nat.le_trans start_le le_last) starts
  have hkind' :=
    hs'.class_eq _ (hs'.first_le_glyphStart hp first_le') (Nat.le_trans start_le le_last') starts
  obtain rfl : kind = kind' := hkind.symm.trans hkind'
  have first_eq : s.first.col = s'.first.col :=
    Nat.le_antisymm (hs.first_le hp hs' first_le le_last') (hs'.first_le hp hs first_le' le_last)
  have last_eq : s.last.col = s'.last.col :=
    Nat.le_antisymm (hs'.last_le hp hs le_last' first_le) (hs.last_le hp hs' le_last first_le')
  obtain ⟨⟨l, c⟩, ⟨l', c'⟩⟩ := s
  obtain ⟨⟨m, d⟩, ⟨m', d'⟩⟩ := s'
  simp_all

end

/-- The selections around the columns of a line cut it into words: each has the column, two of them
are the same or share no column, and around each column of one of them it is selected again. A place
beyond the lines or the columns is taken for the last one. -/
theorem wordAt_partition (h : g.Valid screen cols rows) (hline : line < g.lineCount) :
    (∀ col, col < g.cols →
      (∃ kind, IsWord g line kind (wordAt g ⟨line, col⟩)) ∧
        Covers (wordAt g ⟨line, col⟩) line col) ∧
    (∀ col col', wordAt g ⟨line, col⟩ = wordAt g ⟨line, col'⟩ ∨
      ∀ i, ¬(Covers (wordAt g ⟨line, col⟩) line i ∧ Covers (wordAt g ⟨line, col'⟩) line i)) ∧
    (∀ col col', Covers (wordAt g ⟨line, col⟩) line col' →
      wordAt g ⟨line, col'⟩ = wordAt g ⟨line, col⟩) ∧
    ∀ place, wordAt g ⟨min place.line (g.lineCount - 1), min place.col (g.cols - 1)⟩ =
      wordAt g place := by
  obtain ⟨hp, hbeyond⟩ := paired_extentAt h hline
  have inside (col : Nat) (hcol : col < g.cols) := isWord_wordAt hp hbeyond hline hcol
  have pos : 0 < g.cols := h.cols_eq ▸ h.cols_pos
  have word (col : Nat) : ∃ kind, IsWord g line kind (wordAt g ⟨line, col⟩) := by
    rw [← wordAt_clamped, Nat.min_eq_left (Nat.le_sub_one_of_lt hline)]
    exact ⟨_, (inside _ (by omega)).1⟩
  refine ⟨fun col hcol => ⟨word col, (inside col hcol).2⟩, fun col col' => ?_,
    fun col col' hcov => ?_, wordAt_clamped g⟩
  · obtain ⟨kind, hs⟩ := word col
    obtain ⟨kind', hs'⟩ := word col'
    by_cases same : wordAt g ⟨line, col⟩ = wordAt g ⟨line, col'⟩
    · exact .inl same
    · exact .inr fun i ⟨hcov, hcov'⟩ => same (hs.eq_of_covers hp hs' hcov hcov')
  · obtain ⟨kind, hs⟩ := word col
    obtain ⟨hs', hcov'⟩ := inside col' (Nat.lt_of_le_of_lt hcov.2.2.2 hs.last_lt)
    exact hs'.eq_of_covers hp hs hcov' hcov

/-- A line with two words, the second one with glyphs of two columns, and blanks after each. -/
def twoWords : List HostAction := [.feed (Text.Utf8.encode "ab 世界-c") 0]

theorem wordAt_partition_twoWords :
    let g := (Terminal.drive { size := ⟨10, 2⟩, scrollback := 2 } twoWords).grid
    0 < g.lineCount ∧ wordAt g ⟨0, 4⟩ = ⟨⟨0, 3⟩, ⟨0, 8⟩⟩ ∧ wordAt g ⟨0, 8⟩ = wordAt g ⟨0, 4⟩ ∧
      ∃ kind, IsWord g 0 kind (wordAt g ⟨0, 4⟩) := by
  intro g
  have line : 0 < g.lineCount := by decide +kernel
  have word : wordAt g ⟨0, 4⟩ = ⟨⟨0, 3⟩, ⟨0, 8⟩⟩ := by decide +kernel
  obtain ⟨covered, -, again, -⟩ :=
    wordAt_partition (Terminal.drive_valid { size := ⟨10, 2⟩, scrollback := 2 } twoWords).grid line
  exact ⟨line, word, again 4 8 (word ▸ ⟨rfl, rfl, by decide, by decide⟩),
    (covered 4 (by decide +kernel)).1⟩

end Teletype.Selection
