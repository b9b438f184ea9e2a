import Teletype.Proofs.Grid.Editing
import Teletype.Proofs.Grid.Sheet

/-!
# Grids that show the same

Two grids may differ in where their rings start, in the numbers of their rows and in the marks on
them, and still show the same. Every operation that output can ask for shows the same on both.
-/

namespace Teletype

/-! ## Rows -/

namespace Row

/-- Functions of rows that show the same for rows that show the same. -/
def Congruent (f f' : Row → Row) : Prop :=
  ∀ r r' : Row, r.line = r'.line → (f r).line = (f' r').line

/-- A function that reads neither the number nor the mark. -/
theorem congruent_of_blind {f : Row → Row}
    (hf : ∀ (r : Row) seq dirty, (f { r with seq := seq, dirty := dirty }).line = (f r).line) :
    Congruent f f := by
  intro r r' h
  obtain ⟨cells, seq, dirty, prompt, wrapped⟩ := r
  obtain ⟨cells', seq', dirty', prompt', wrapped'⟩ := r'
  obtain ⟨rfl, rfl, rfl⟩ := Line.mk.inj h
  exact (hf ⟨cells, seq, dirty, prompt, wrapped⟩ seq' dirty').symm

theorem Congruent.comp {f f' k k' : Row → Row} (hf : Congruent f f') (hk : Congruent k k') :
    Congruent (fun r => f (k r)) fun r => f' (k' r) := fun _ _ h => hf _ _ (hk _ _ h)

theorem congruent_mark (dirty : Bool) :
    Congruent ({ · with dirty := dirty }) ({ · with dirty := dirty }) :=
  congruent_of_blind fun _ _ _ => rfl

theorem congruent_reset (background : Color) (seq seq' : Row → Nat) :
    Congruent (fun r => r.reset background (seq r)) fun r => r.reset background (seq' r) := by
  intro r r' h
  have cells : r.cells = r'.cells := congrArg Line.cells h
  simp only [reset, blank, line, cells]

theorem congruent_eraseRange (first last : Nat) (background : Color) :
    Congruent (·.eraseRange first last background) (·.eraseRange first last background) := by
  refine congruent_of_blind fun r seq dirty => ?_
  unfold eraseRange
  dsimp only
  split <;> rfl

theorem congruent_insertBlanks (col n : Nat) (background : Color) :
    Congruent (·.insertBlanks col n background) (·.insertBlanks col n background) := by
  refine congruent_of_blind fun r seq dirty => ?_
  unfold insertBlanks
  dsimp only
  split <;> rfl

theorem congruent_deleteCells (col n : Nat) (background : Color) :
    Congruent (·.deleteCells col n background) (·.deleteCells col n background) := by
  refine congruent_of_blind fun r seq dirty => ?_
  unfold deleteCells
  dsimp only
  split <;> rfl

theorem congruent_write (col key width : Nat) (rendition : Rendition) (link : Nat) :
    Congruent (·.write col key width rendition link) (·.write col key width rendition link) := by
  refine congruent_of_blind fun r seq dirty => ?_
  unfold write
  dsimp only
  split <;> rfl

theorem congruent_compose (col key width : Nat) :
    Congruent (fun r => (r.compose col key width).1) fun r => (r.compose col key width).1 := by
  refine congruent_of_blind fun r seq dirty => ?_
  unfold compose
  dsimp only
  split <;> rfl

theorem compose_width {r r' : Row} (h : r.line = r'.line) (col key width : Nat) :
    (r.compose col key width).2 = (r'.compose col key width).2 := by
  have cells : r.cells = r'.cells := congrArg Line.cells h
  unfold compose
  rw [cells]
  split <;> rfl

end Row

/-- Either both rows are there and show the same, or neither is there. -/
theorem row_of_map_line {r? r'? : Option Row} (h : r?.map Row.line = r'?.map Row.line) :
    (r? = none ∧ r'? = none) ∨ ∃ r r' : Row, r? = some r ∧ r'? = some r' ∧ r.line = r'.line := by
  cases r? with
  | none => exact .inl ⟨rfl, Option.map_eq_none_iff.1 h.symm⟩
  | some r =>
    obtain ⟨r', hr', hline⟩ := Option.map_eq_some_iff.1 h.symm
    exact .inr ⟨r, r', rfl, hr', hline.symm⟩

/-! ## Rings -/

/-- Rings of `n` rows that show the same when one is read around from `start` and the other from
`start'`. -/
structure SameAround (n start start' : Nat) (slots slots' : Array Row) : Prop where
  size : slots.size = n
  size' : slots'.size = n
  line : ∀ i, (slots[(start + i) % n]?).map Row.line = (slots'[(start' + i) % n]?).map Row.line

namespace SameAround

variable {n start start' : Nat} {slots slots' : Array Row}

/-- Places that are as far from the starts are the same or different in both rings. -/
theorem mod_eq_iff (i k : Nat) :
    (start + k) % n = (start + i) % n ↔ (start' + k) % n = (start' + i) % n := by
  have cancel (s : Nat) : (s + k) % n = (s + i) % n ↔ k ≡ i [MOD n] :=
    ⟨fun h => Nat.ModEq.add_left_cancel' s h, fun h => Nat.ModEq.add_left s h⟩
  rw [cancel, cancel]

theorem modify (h : SameAround n start start' slots slots') (k : Nat) {f f' : Row → Row}
    (hf : Row.Congruent f f') : SameAround n start start' (slots.modify ((start + k) % n) f)
      (slots'.modify ((start' + k) % n) f') where
  size := (Array.size_modify ..).trans h.size
  size' := (Array.size_modify ..).trans h.size'
  line := by
    intro i
    have before := h.line i
    rw [Array.getElem?_modify, Array.getElem?_modify]
    by_cases hk : (start + k) % n = (start + i) % n
    · rw [if_pos hk, if_pos ((mod_eq_iff i k).1 hk)]
      rcases row_of_map_line before with ⟨hr, hr'⟩ | ⟨r, r', hr, hr', hline⟩
      · rw [hr, hr']
        rfl
      · rw [hr, hr']
        exact congrArg some (hf r r' hline)
    · rw [if_neg hk, if_neg (mt (mod_eq_iff i k).2 hk)]
      exact before

/-- Rings that are the same in the rows that count stay so when two places are swapped in both. -/
theorem swap (h : SameAround n start start' slots slots') (a b : Nat) :
    SameAround n start start' (slots.swapIfInBounds ((start + a) % n) ((start + b) % n))
      (slots'.swapIfInBounds ((start' + a) % n) ((start' + b) % n)) where
  size := Array.size_swapIfInBounds.trans h.size
  size' := Array.size_swapIfInBounds.trans h.size'
  line := by
    intro i
    rcases Nat.eq_zero_or_pos n with rfl | hn
    · have empty := Array.eq_empty_of_size_eq_zero h.size
      have empty' := Array.eq_empty_of_size_eq_zero h.size'
      rw [empty, empty']
      rfl
    · have lt (s k : Nat) : (s + k) % n < n := Nat.mod_lt _ hn
      rw [getElem?_swapIfInBounds (h.size ▸ lt start a) (h.size ▸ lt start b),
        getElem?_swapIfInBounds (h.size' ▸ lt start' a) (h.size' ▸ lt start' b)]
      simp only [apply_ite (Option.map Row.line), h.line]
      rw [if_congr (mod_eq_iff ..) rfl (if_congr (mod_eq_iff ..) rfl rfl)]

/-- Rings that are the same in the rows that count stay so when every row is changed in the same
way. -/
theorem mapIdx (h : SameAround n start start' slots slots') {f f' : Nat → Row → Row}
    (hf : ∀ i i', Row.Congruent (f i) (f' i')) :
    SameAround n start start' (slots.mapIdx f) (slots'.mapIdx f') where
  size := (Array.size_mapIdx ..).trans h.size
  size' := (Array.size_mapIdx ..).trans h.size'
  line := by
    intro i
    rw [Array.getElem?_mapIdx, Array.getElem?_mapIdx]
    rcases row_of_map_line (h.line i) with ⟨hr, hr'⟩ | ⟨r, r', hr, hr', hline⟩
    · rw [hr, hr']
      rfl
    · rw [hr, hr']
      exact congrArg some (hf _ _ r r' hline)

theorem map (h : SameAround n start start' slots slots') {f f' : Row → Row}
    (hf : Row.Congruent f f') : SameAround n start start' (slots.map f) (slots'.map f') := by
  have as_mapIdx (slots : Array Row) (f : Row → Row) : slots.map f = slots.mapIdx fun _ => f := by
    apply Array.ext <;> simp
  rw [as_mapIdx, as_mapIdx]
  exact h.mapIdx fun _ _ => hf

/-- A loop with a step for each pair of elements that belong together. -/
theorem foldl {α : Type} {R : α → α → Prop} {f k : Array Row → α → Array Row}
    (h : SameAround n start start' slots slots') {l l' : List α} (hl : List.Forall₂ R l l')
    (hf : ∀ {slots slots' a a'}, SameAround n start start' slots slots' → R a a' →
      SameAround n start start' (f slots a) (k slots' a')) :
    SameAround n start start' (l.foldl f slots) (l'.foldl k slots') := by
  induction hl generalizing slots slots' with
  | nil => exact h
  | cons hab _ ih => exact ih (hf h hab)

/-- Rings that are the same in the rows that count stay so when both are read from one row further
on. -/
theorem turn (h : SameAround n start start' slots slots') :
    SameAround n ((start + 1) % n) ((start' + 1) % n) slots slots' where
  size := h.size
  size' := h.size'
  line := by
    intro i
    rw [Nat.mod_add_mod, Nat.mod_add_mod, Nat.add_assoc, Nat.add_assoc]
    exact h.line (1 + i)

end SameAround

namespace Grid

/-- What output never changes of a grid. -/
structure Format where
  kind : ScreenKind
  cols : Nat
  rows : Nat
  scrollback : Nat
  capacity : Nat

def format (g : Grid) : Format := ⟨g.kind, g.cols, g.rows, g.scrollback, g.capacity⟩

/-- The screen and the view start at slots of the ring, which has room for the scrollback. -/
def InRing (g : Grid) : Prop :=
  g.offset < g.capacity ∧ g.view < g.capacity ∧ g.history ≤ g.capacity

/-- Grids of one format that show the same, however far one looks back. -/
structure Alike (format : Format) (g g' : Grid) : Prop where
  left : g.format = format
  right : g'.format = format
  inRing : g.InRing
  inRing' : g'.InRing
  around : SameAround g.capacity g.offset g'.offset g.slots g'.slots
  history : g.history = g'.history
  view : (g.view + g'.offset) % g.capacity = (g'.view + g.offset) % g.capacity
  region : g.region = g'.region
  cursor : g.cursor = g'.cursor
  saved : g.saved = g'.saved

variable {format : Format} {g g' : Grid}

theorem Valid.inRing {kind : ScreenKind} {cols rows : Nat} (h : g.Valid kind cols rows) :
    g.InRing :=
  ⟨h.offset_lt, h.view_lt, Nat.le_trans (Nat.le_add_right _ _) h.room⟩

/-- A grid shows the same as itself. -/
theorem InRing.alike (h : g.InRing) : Alike g.format g g where
  left := rfl
  right := rfl
  inRing := h
  inRing' := h
  around := ⟨rfl, rfl, fun _ => rfl⟩
  history := rfl
  view := rfl
  region := rfl
  cursor := rfl
  saved := rfl

namespace Alike

/-! ## Reading -/

theorem capacity (h : Alike format g g') : g'.capacity = g.capacity := h.around.size'

theorem cols (h : Alike format g g') : g.cols = g'.cols :=
  congrArg Format.cols (h.left.trans h.right.symm)

theorem rows (h : Alike format g g') : g.rows = g'.rows :=
  congrArg Format.rows (h.left.trans h.right.symm)

/-- Rows of the screens of grids that are alike show the same. -/
theorem row? (h : Alike format g g') (row : Nat) :
    (g.row? row).map Row.line = (g'.row? row).map Row.line := by
  rw [Grid.row?, Grid.row?, ← h.rows, slotOf, slotOf, h.capacity]
  split
  · exact h.around.line row
  · rfl

theorem cell? (h : Alike format g g') (row col : Nat) : g.cell? row col = g'.cell? row col := by
  have shown := h.row? row
  rw [Grid.cell?, Grid.cell?]
  rcases row_of_map_line shown with ⟨hr, hr'⟩ | ⟨r, r', hr, hr', hline⟩
  · rw [hr, hr']
  · rw [hr, hr']
    exact congrArg (fun line : Line => line.cells[col]?) hline

/-- Lines of the scrollback and of the screen show the same. -/
theorem line? (h : Alike format g g') (line : Nat) :
    (g.line? line).map Row.line = (g'.line? line).map Row.line := by
  have back := h.inRing.2.2
  have start (g : Grid) (hg : g.history ≤ g.capacity) :
      g.offset + g.capacity - g.history + line = g.offset + (g.capacity - g.history + line) := by
    omega
  rw [Grid.line?, Grid.line?, lineCount, lineCount, ← h.history, ← h.rows, slotOfLine, slotOfLine,
    start g back, start g' h.inRing'.2.2, h.capacity, ← h.history]
  split
  · exact h.around.line _
  · rfl

theorem lines (h : Alike format g g') : g.lines.map Row.line = g'.lines.map Row.line := by
  have count : g'.lineCount = g.lineCount := by
    rw [lineCount, lineCount, h.history, h.rows]
  rw [Grid.lines, Grid.lines, count, List.map_filterMap, List.map_filterMap]
  exact List.filterMap_congr fun line _ => h.line? line

/-- Going from the view to the screen is as far in both. -/
theorem distance (h : Alike format g g') :
    (g.offset + g.capacity - g.view) % g.capacity =
      (g'.offset + g.capacity - g'.view) % g.capacity := by
  have view := h.inRing.2.1
  have view' := h.inRing'.2.1
  rw [h.capacity] at view'
  have both : g.offset + g.capacity - g.view + (g.view + g'.view) ≡
      g'.offset + g.capacity - g'.view + (g.view + g'.view) [MOD g.capacity] := by
    have left : g.offset + g.capacity - g.view + (g.view + g'.view) =
        g'.view + g.offset + g.capacity := by
      omega
    have right : g'.offset + g.capacity - g'.view + (g.view + g'.view) =
        g.view + g'.offset + g.capacity := by
      omega
    rw [left, right]
    exact Nat.ModEq.add_right _ h.view.symm
  exact Nat.ModEq.add_right_cancel' _ both

theorem viewDistance (h : Alike format g g') : g.viewDistance = g'.viewDistance := by
  rw [Grid.viewDistance, Grid.viewDistance, h.capacity]
  exact h.distance

/-- Either view is that of the screen, or neither. -/
theorem view_eq_iff (h : Alike format g g') : g.view = g.offset ↔ g'.view = g'.offset := by
  have view := h.inRing.2.1
  have view' := h.inRing'.2.1
  have offset := h.inRing.1
  have offset' := h.inRing'.1
  have apart := h.view
  rw [h.capacity] at view' offset'
  rw [mod_of_lt_add (by omega), mod_of_lt_add (by omega)] at apart
  constructor <;> intro same <;> split at apart <;> split at apart <;> omega

/-! ## Changing what is shown -/

/-- Grids stay alike when their slots come to show the same. -/
theorem of_slots (h : Alike format g g') {slots slots' : Array Row} (nextSeq nextSeq' : Nat)
    (haround : SameAround g.capacity g.offset g'.offset slots slots') :
    Alike format { g with slots := slots, nextSeq := nextSeq }
      { g' with slots := slots', nextSeq := nextSeq' } := by
  have size : ({ g with slots := slots, nextSeq := nextSeq } : Grid).capacity = g.capacity :=
    haround.size
  have size' : ({ g' with slots := slots', nextSeq := nextSeq' } : Grid).capacity = g'.capacity :=
    haround.size'.trans h.capacity.symm
  have left := h.left
  have right := h.right
  unfold Grid.format at left right
  exact { h with
    left := by
      rw [Grid.format, size]
      exact left
    right := by
      rw [Grid.format, size']
      exact right
    inRing := ⟨size ▸ h.inRing.1, size ▸ h.inRing.2.1, size ▸ h.inRing.2.2⟩
    inRing' := ⟨size' ▸ h.inRing'.1, size' ▸ h.inRing'.2.1, size' ▸ h.inRing'.2.2⟩
    around := size ▸ haround
    view := by
      rw [size]
      exact h.view }

theorem ite {p p' : Prop} [Decidable p] [Decidable p'] {k k' : Grid} (hp : p ↔ p')
    (hg : Alike format g g') (hk : Alike format k k') :
    Alike format (if p then g else k) (if p' then g' else k') := by
  by_cases h : p
  · rw [if_pos h, if_pos (hp.1 h)]
    exact hg
  · rw [if_neg h, if_neg (mt hp.2 h)]
    exact hk

theorem modifyRow (h : Alike format g g') (row : Nat) {f k : Row → Row}
    (hf : Row.Congruent f k) : Alike format (g.modifyRow row f) (g'.modifyRow row k) := by
  refine .ite (by rw [h.rows]) ?_ h
  rw [slotOf, slotOf, h.capacity]
  exact h.of_slots _ _ (h.around.modify row (hf.comp (Row.congruent_mark true)))

theorem markAllDirty (h : Alike format g g') : Alike format g.markAllDirty g'.markAllDirty :=
  h.of_slots g.nextSeq g'.nextSeq (h.around.map (Row.congruent_mark true))

theorem foldl {α : Type} {f f' : Grid → α → Grid} (h : Alike format g g')
    (hf : ∀ {g g'} a, Alike format g g' → Alike format (f g a) (f' g' a)) (l : List α) :
    Alike format (l.foldl f g) (l.foldl f' g') := by
  induction l generalizing g g' with
  | nil => exact h
  | cons a l ih => exact ih (hf a h)

theorem putCursor (h : Alike format g g') {c d : Cursor} (hc : c = d) :
    Alike format { g with cursor := c } { g' with cursor := d } := { h with cursor := hc }

theorem setCursor (h : Alike format g g') (row col : Nat) :
    Alike format (g.setCursor row col) (g'.setCursor row col) :=
  h.putCursor (by rw [h.rows, h.cols])

theorem clearPending (h : Alike format g g') : Alike format g.clearPending g'.clearPending :=
  h.putCursor (by rw [h.cursor])

theorem setRegion (h : Alike format g g') (top bottom : Nat) :
    Alike format (g.setRegion top bottom) (g'.setRegion top bottom) := by
  refine .ite (by rw [h.rows]) { h with region := ?_ } h
  dsimp only
  rw [h.rows]

theorem save (h : Alike format g g') (saved : SavedCursor) :
    Alike format { g with saved := saved } { g' with saved := saved } := { h with saved := rfl }

/-! ## Erasing and writing -/

theorem eraseInRow (h : Alike format g g') (row first last : Nat) (background : Color) :
    Alike format (g.eraseInRow row first last background)
      (g'.eraseInRow row first last background) :=
  h.modifyRow row (Row.congruent_eraseRange first last background)

theorem eraseRow (h : Alike format g g') (background : Color) (row : Nat) :
    Alike format (eraseRow background g row) (eraseRow background g' row) :=
  h.modifyRow row (Row.congruent_reset background Row.seq Row.seq)

theorem eraseRows (h : Alike format g g') (first last : Nat) (background : Color) :
    Alike format (g.eraseRows first last background) (g'.eraseRows first last background) :=
  h.foldl (fun row hg => hg.eraseRow background row) _

theorem clearWrap (h : Alike format g g') (row : Nat) :
    Alike format (g.clearWrap row) (g'.clearWrap row) :=
  h.modifyRow row (Row.congruent_of_blind fun _ _ _ => rfl)

theorem eraseRight (h : Alike format g g') (background : Color) :
    Alike format (g.eraseRight background) (g'.eraseRight background) := by
  unfold Grid.eraseRight
  rw [h.cursor, h.cols]
  exact (h.eraseInRow _ _ _ background).clearWrap _

theorem eraseLeft (h : Alike format g g') (background : Color) :
    Alike format (g.eraseLeft background) (g'.eraseLeft background) := by
  unfold Grid.eraseLeft
  rw [h.cursor]
  exact h.eraseInRow _ _ _ background

/-- Without scrollback the view is that of the screen. -/
theorem drop_history (h : Alike format g g') :
    Alike format { g with history := 0, view := g.offset }
      { g' with history := 0, view := g'.offset } :=
  { h with
    inRing := ⟨h.inRing.1, h.inRing.1, Nat.zero_le _⟩
    inRing' := ⟨h.inRing'.1, h.inRing'.1, Nat.zero_le _⟩
    history := rfl
    view := congrArg (· % g.capacity) (Nat.add_comm g.offset g'.offset) }

theorem eraseScrollback (h : Alike format g g') :
    Alike format g.eraseScrollback g'.eraseScrollback := by
  have start {g : Grid} (hg : g.history ≤ g.capacity) (i : Nat) :
      g.offset + g.capacity - g.history + i = g.offset + (g.capacity - g.history + i) := by
    omega
  have erased := h.around.foldl (List.forall₂_same.2 fun i (_ : i ∈ List.range g.history) => rfl)
    (f := fun slots i => slots.modify ((g.offset + g.capacity - g.history + i) % g.capacity)
      (·.reset .default (g.nextSeq + i)))
    (k := fun slots i => slots.modify ((g'.offset + g'.capacity - g'.history + i) % g'.capacity)
      (·.reset .default (g'.nextSeq + i)))
    (fun {_ _ i _} around hi => by
      subst hi
      rw [start h.inRing.2.2, start h.inRing'.2.2, ← h.history, h.capacity]
      exact around.modify _
        (Row.congruent_reset .default (fun _ => g.nextSeq + i) fun _ => g'.nextSeq + i))
  have change := (h.of_slots (g.nextSeq + g.history) (g'.nextSeq + g'.history) erased).drop_history
  unfold Grid.eraseScrollback
  dsimp only
  rw [show List.range g'.history = List.range g.history by rw [h.history]]
  exact change

theorem eraseDisplay (h : Alike format g g') (mode : Nat) (background : Color) :
    Alike format (g.eraseDisplay mode background).value
      (g'.eraseDisplay mode background).value := by
  unfold Grid.eraseDisplay
  split
  · dsimp only
    rw [h.cursor, h.rows]
    exact (h.eraseRight background).eraseRows _ _ background
  · dsimp only
    rw [h.cursor]
    exact (h.eraseRows _ _ background).eraseLeft background
  · dsimp only
    rw [h.rows]
    exact h.eraseRows _ _ background
  · exact h.eraseScrollback
  · exact h

theorem eraseLine (h : Alike format g g') (mode : Nat) (background : Color) :
    Alike format (g.eraseLine mode background).value (g'.eraseLine mode background).value := by
  unfold Grid.eraseLine
  split
  · exact h.eraseRight background
  · exact h.eraseLeft background
  · dsimp only
    rw [h.cursor]
    exact h.eraseRow background _
  · exact h

theorem eraseChars (h : Alike format g g') (n : Nat) (background : Color) :
    Alike format (g.eraseChars n background) (g'.eraseChars n background) := by
  unfold Grid.eraseChars
  rw [h.cursor, h.cols]
  exact h.eraseInRow _ _ _ background

theorem clearAll (h : Alike format g g') : Alike format g.clearAll g'.clearAll := by
  have cleared := (h.of_slots (g.nextSeq + g.capacity) (g'.nextSeq + g'.capacity)
    (h.around.mapIdx fun i i' =>
      Row.congruent_reset .default (fun _ => g.nextSeq + i) fun _ => g'.nextSeq + i')).drop_history
  exact { cleared with
    region := congrArg Region.full h.rows
    cursor := rfl
    saved := rfl }

theorem fill (h : Alike format g g') (c : Char) : Alike format (g.fill c) (g'.fill c) := by
  unfold Grid.fill
  rw [← h.rows]
  exact h.foldl (fun row hg => hg.modifyRow row (Row.congruent_of_blind fun _ _ _ => rfl)) _

theorem insertChars (h : Alike format g g') (n : Nat) (background : Color) :
    Alike format (g.insertChars n background) (g'.insertChars n background) := by
  unfold Grid.insertChars
  rw [h.cursor]
  exact h.modifyRow _ (Row.congruent_insertBlanks _ n background)

theorem deleteChars (h : Alike format g g') (n : Nat) (background : Color) :
    Alike format (g.deleteChars n background) (g'.deleteChars n background) := by
  unfold Grid.deleteChars
  rw [h.cursor]
  exact h.modifyRow _ (Row.congruent_deleteCells _ n background)

theorem write (h : Alike format g g') (row col key width : Nat) (rendition : Rendition)
    (link : Nat) : Alike format (g.write row col key width rendition link)
      (g'.write row col key width rendition link) := by
  unfold Grid.write
  dsimp only
  generalize (if width ≤ 1 then 1 else 2) = width
  rw [fits, fits, h.rows, h.cols]
  split
  · exact h.modifyRow row (Row.congruent_write col key width rendition link)
  · exact h

theorem compose (h : Alike format g g') (row col key width : Nat) :
    Alike format (g.compose row col key width).1 (g'.compose row col key width).1 :=
  h.modifyRow row (Row.congruent_compose col key width)

theorem compose_width (h : Alike format g g') (row col key width : Nat) :
    (g.compose row col key width).2 = (g'.compose row col key width).2 := by
  have shown := h.row? row
  unfold Grid.compose
  dsimp only
  rcases row_of_map_line shown with ⟨hr, hr'⟩ | ⟨r, r', hr, hr', hline⟩
  · rw [hr, hr']
  · rw [hr, hr']
    exact Row.compose_width hline col key width

/-! ## Scrolling -/

theorem swapRows (h : Alike format g g') (a b : Nat) :
    Alike format (g.swapRows a b) (g'.swapRows a b) := by
  unfold Grid.swapRows
  rw [slotOf, slotOf, slotOf, slotOf, h.capacity]
  exact h.of_slots _ _ (h.around.swap a b)

theorem resetRow (h : Alike format g g') (background : Color) (row : Nat) :
    Alike format (g.resetRow background row) (g'.resetRow background row) := by
  unfold Grid.resetRow
  rw [slotOf, slotOf, h.capacity]
  exact h.of_slots _ _ (h.around.modify row
    (Row.congruent_reset background (fun _ => g.nextSeq) fun _ => g'.nextSeq))

theorem markRow (h : Alike format g g') (row : Nat) :
    Alike format (g.markRow row) (g'.markRow row) := by
  unfold Grid.markRow
  rw [slotOf, slotOf, h.capacity]
  exact h.of_slots _ _ (h.around.modify row (Row.congruent_mark true))

theorem resetRows (h : Alike format g g') (first n : Nat) (background : Color) :
    Alike format (g.resetRows first n background) (g'.resetRows first n background) :=
  h.foldl (fun row hg => hg.resetRow background row) _

theorem markRows (h : Alike format g g') (top bottom : Nat) :
    Alike format (g.markRows top bottom) (g'.markRows top bottom) :=
  h.foldl (fun row hg => hg.markRow row) _

theorem shiftUp (h : Alike format g g') (top bottom n : Nat) (background : Color) :
    Alike format (g.shiftUp top bottom n background) (g'.shiftUp top bottom n background) := by
  unfold Grid.shiftUp
  dsimp only
  rw [← h.rows]
  have swapped (bottom n : Nat) : Alike format (g.swapUp top bottom n) (g'.swapUp top bottom n) :=
    h.foldl (f := fun g row => g.swapRows row (row + n)) (fun row hg => hg.swapRows row _) _
  exact .ite Iff.rfl h (((swapped _ _).resetRows _ _ background).markRows _ _)

theorem shiftDown (h : Alike format g g') (top bottom n : Nat) (background : Color) :
    Alike format (g.shiftDown top bottom n background) (g'.shiftDown top bottom n background) := by
  unfold Grid.shiftDown
  dsimp only
  rw [← h.rows]
  have swapped (bottom n : Nat) :
      Alike format (g.swapDown top bottom n) (g'.swapDown top bottom n) :=
    h.foldl (f := fun g row => g.swapRows row (row - n)) (fun row hg => hg.swapRows row _) _
  exact .ite Iff.rfl h (((swapped _ _).resetRows _ _ background).markRows _ _)

/-- The screen moves on by one row, and the view stays in both rings. -/
theorem turn (h : Alike format g g') (background : Color) :
    Alike format (Grid.turn background g) (Grid.turn background g') := by
  have pos : 0 < g.capacity := Nat.lt_of_le_of_lt (Nat.zero_le _) h.inRing.1
  have turned := h.around.turn.modify (g.rows - 1)
    (Row.congruent_reset background (fun _ => g.nextSeq) fun _ => g'.nextSeq)
  have size : (Grid.turn background g).capacity = g.capacity := turned.size
  have size' : (Grid.turn background g').capacity = g.capacity := by
    rw [capacity_turn, h.capacity]
  have history {g : Grid} : min (g.history + 1) (g.capacity - g.rows) ≤ g.capacity :=
    Nat.le_trans (Nat.min_le_right ..) (Nat.sub_le ..)
  exact {
    left := by
      rw [← h.left, Grid.format, size]
      rfl
    right := by
      rw [← h.right, Grid.format, size', ← h.capacity]
      rfl
    inRing := by
      rw [InRing, size]
      exact ⟨Nat.mod_lt _ pos, h.inRing.2.1, history⟩
    inRing' := by
      rw [InRing, size', ← h.capacity]
      exact ⟨Nat.mod_lt _ (h.capacity ▸ pos), h.inRing'.2.1, history⟩
    around := by
      rw [size]
      unfold Grid.turn
      dsimp only
      rw [← h.rows, h.capacity]
      exact turned
    history := by
      unfold Grid.turn
      dsimp only
      rw [h.history, h.capacity, h.rows]
    view := by
      rw [size]
      unfold Grid.turn
      dsimp only
      rw [h.capacity, Nat.add_mod_mod, Nat.add_mod_mod, ← Nat.add_assoc, ← Nat.add_assoc]
      exact Nat.ModEq.add_right 1 h.view
    region := h.region
    cursor := h.cursor
    saved := h.saved }

theorem repeat_turn (h : Alike format g g') (n : Nat) (background : Color) :
    Alike format (Nat.repeat (Grid.turn background) n g)
      (Nat.repeat (Grid.turn background) n g') := by
  induction n with
  | zero => exact h
  | succ n ih => exact ih.turn background

theorem followView (h : Alike format g g') (atBottom : Bool) :
    Alike format (g.followView atBottom) (g'.followView atBottom) := by
  have pos : 0 < g.capacity := Nat.lt_of_le_of_lt (Nat.zero_le _) h.inRing.1
  unfold Grid.followView
  split
  · exact { h with
      inRing := ⟨h.inRing.1, h.inRing.1, h.inRing.2.2⟩
      inRing' := ⟨h.inRing'.1, h.inRing'.1, h.inRing'.2.2⟩
      view := congrArg (· % g.capacity) (Nat.add_comm g.offset g'.offset) }
  · have clamped : Alike format { g with view := (g.offset + g.capacity - g.history) % g.capacity }
        { g' with view := (g'.offset + g'.capacity - g'.history) % g'.capacity } :=
      { h with
        inRing := ⟨h.inRing.1, Nat.mod_lt _ pos, h.inRing.2.2⟩
        inRing' := ⟨h.inRing'.1, Nat.mod_lt _ (h.capacity ▸ pos), h.inRing'.2.2⟩
        view := by
          have back := h.inRing.2.2
          dsimp only
          rw [show ({ g with view := (g.offset + g.capacity - g.history) % g.capacity } :
              Grid).capacity = g.capacity from rfl,
            ← h.history, h.capacity, Nat.mod_add_mod, Nat.mod_add_mod]
          congr 1
          omega }
    exact .ite (by rw [h.capacity, h.history, h.distance]) clamped h

theorem markScreenDirty (h : Alike format g g') :
    Alike format g.markScreenDirty g'.markScreenDirty := by
  have marked := h.around.foldl (List.forall₂_same.2 fun i (_ : i ∈ List.range g.rows) => rfl)
    (f := fun slots row => slots.modify ((g.offset + row) % slots.size) ({ · with dirty := true }))
    (k := fun slots row => slots.modify ((g'.offset + row) % slots.size) ({ · with dirty := true }))
    (fun around hrow => by
      subst hrow
      rw [around.size, around.size']
      exact around.modify _ (Row.congruent_mark true))
  have change := h.of_slots g.nextSeq g'.nextSeq marked
  unfold Grid.markScreenDirty
  dsimp only
  rw [show List.range g'.rows = List.range g.rows by rw [h.rows]]
  exact change

theorem rotateUp (h : Alike format g g') (n : Nat) (background : Color) :
    Alike format (g.rotateUp n background) (g'.rotateUp n background) := by
  have bottom : decide (g.view = g.offset) = decide (g'.view = g'.offset) :=
    decide_eq_decide.2 h.view_eq_iff
  unfold Grid.rotateUp
  dsimp only
  rw [← h.rows, bottom]
  split
  · exact h
  · exact ((h.repeat_turn _ background).followView _).markScreenDirty

theorem scrollUp (h : Alike format g g') (n : Nat) (background : Color) :
    Alike format (g.scrollUp n background) (g'.scrollUp n background) := by
  unfold Grid.scrollUp
  rw [← h.region, ← h.rows]
  split
  · exact h.rotateUp n background
  · exact h.shiftUp _ _ n background

theorem scrollDown (h : Alike format g g') (n : Nat) (background : Color) :
    Alike format (g.scrollDown n background) (g'.scrollDown n background) := by
  unfold Grid.scrollDown
  rw [← h.region]
  exact h.shiftDown _ _ n background

theorem toFirstColumn (h : Alike format g g') : Alike format g.toFirstColumn g'.toFirstColumn :=
  h.putCursor (by rw [h.cursor])

theorem insertLines (h : Alike format g g') (n : Nat) (background : Color) :
    Alike format (g.insertLines n background) (g'.insertLines n background) := by
  unfold Grid.insertLines
  rw [← h.region, ← h.cursor]
  split
  · exact (h.shiftDown _ _ n background).toFirstColumn
  · exact h

theorem deleteLines (h : Alike format g g') (n : Nat) (background : Color) :
    Alike format (g.deleteLines n background) (g'.deleteLines n background) := by
  unfold Grid.deleteLines
  rw [← h.region, ← h.cursor]
  split
  · exact (h.shiftUp _ _ n background).toFirstColumn
  · exact h

end Alike

end Grid

end Teletype
