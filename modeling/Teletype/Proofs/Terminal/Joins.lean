import Teletype.Proofs.Terminal.Confined

/-!
# Where the next mark goes

A mark joins the character that was printed last, if nothing else happened since. That character is
in the row of the cursor, in every terminal that a host can hold: whatever is not printing forgets
it, and a change of the size does.
-/

namespace Teletype.Terminal

/-- The character that the next mark joins, if any, is in the cursor's row. -/
def Joins (t : Terminal) : Prop := ∀ place ∈ t.composeAt, place.1 = t.cursor.row

variable {t t' : Terminal}

@[simp] theorem composeAt_modifyGrid (t : Terminal) (f : Grid → Grid) :
    (t.modifyGrid f).composeAt = t.composeAt :=
  (t.alters_grid f).kept .composeAt rfl

theorem joins_of_none (h : t.composeAt = none) : t.Joins := fun place hplace =>
  absurd (h ▸ hplace) (Option.not_mem_none place)

theorem Joins.of_level (h : t.Joins) (hlevel : t'.grid.level = t.grid.level)
    (hplace : t'.composeAt = t.composeAt) : t'.Joins := fun place hat =>
  (h place (hplace ▸ hat)).trans (congrArg Prod.snd hlevel).symm

theorem Joins.of_alters {aspects : List Aspect} (h : t.Joins) (ha : t.Alters aspects t')
    (hapart : Aspect.apart [.grid .region, .grid .cursor, .composeAt] aspects = true) : t'.Joins :=
  h.of_level (level_of_alters ha (Aspect.apart_mono hapart (by decide)))
    (ha.of_apart hapart (a := .composeAt) (by decide))

/-! ## Printing -/

/-- A glyph goes into the cursor's row. -/
theorem level_placeGlyph (t : Terminal) (c : Char) (width col : Nat) :
    (t.placeGlyph c width col).grid.level = t.grid.level := by
  unfold placeGlyph
  rw [grid_modifyGrid]
  have pushed (g : Grid) : (if t.modes.insert then
      ({ g with cursor := { g.cursor with col := col } } : Grid).insertChars width
        t.rendition.background
      else g).region = g.region := by
    split
    · exact congrArg Grid.Bearings.region (Grid.bearings_insertChars ..)
    · rfl
  exact Prod.ext ((congrArg Grid.Bearings.region (Grid.bearings_write ..)).trans (pushed t.grid))
    (cursorAfter_row ..)

theorem Joins.printGlyph (h : t.Joins) (c : Char) (width : Nat) : (t.printGlyph c width).Joins := by
  unfold Terminal.printGlyph
  split
  · exact h
  · generalize t.makeRoom width = made
    obtain ⟨u, col⟩ := made
    intro place hplace
    obtain rfl := Option.some.inj hplace
    exact (congrArg Prod.snd (level_placeGlyph u c width col)).symm

/-- A character that joins one in the cursor's row leaves the cursor there. -/
theorem level_composeGrid (g : Grid) {row : Nat} (hrow : row = g.cursor.row) (col oldWidth : Nat)
    (glyph : Glyph) : (composeGrid g row col oldWidth glyph).level = g.level := by
  have composed : (g.compose row col glyph.key glyph.width).1.level = g.level :=
    Grid.level_of_bearings (g.bearings_compose row col glyph.key glyph.width)
  unfold composeGrid
  generalize g.compose row col glyph.key glyph.width = r at composed ⊢
  have region : r.1.region = g.region := congrArg Prod.fst composed
  exact g.level_ite (g.level_ite (Prod.ext region ((cursorAfter_row ..).trans hrow)) composed)
    composed

theorem compose_spec (t : Terminal) {row : Nat} (hrow : row = t.cursor.row) (col : Nat) (c : Char) :
    (t.compose row col c).grid.level = t.grid.level ∧ (t.compose row col c).modes = t.modes ∧
      (t.compose row col c).composeAt = t.composeAt := by
  unfold compose
  split
  · exact ⟨rfl, rfl, rfl⟩
  · dsimp only
    split
    · exact ⟨rfl, rfl, rfl⟩
    · rw [grid_modifyGrid, modes_modifyGrid, composeAt_modifyGrid]
      exact ⟨level_composeGrid _ hrow .., rfl, rfl⟩

theorem Joins.compose (h : t.Joins) {row col : Nat} (hat : t.composeAt = some (row, col))
    (c : Char) : (t.compose row col c).Joins :=
  have ⟨level, _, place⟩ := t.compose_spec (h _ hat) col c
  h.of_level level place

theorem Joins.print (h : t.Joins) (c : Char) : (t.print c).Joins := by
  have shifted : ({ t with charsets := (t.charsets.translate c).1 } : Terminal).Joins := h
  rcases t.print_cases c with ⟨row, col, c', hat, -, printed⟩ | printed | ⟨c', -, printed⟩
  · exact printed ▸ shifted.compose hat c'
  · exact printed ▸ shifted
  · exact printed ▸ shifted.printGlyph c' _

theorem Joins.repeatLast (h : t.Joins) (n : Nat) : (t.repeatLast n).Joins :=
  repeatLast_induction (p := Joins) (fun _ c _ hu => hu.printGlyph c _) h n

/-! ## Commands -/

/-- No command but to print changes which character the next mark joins. -/
theorem joins_run (h : t.composeAt = none) (now : Instant) (command : Command) :
    (t.run now command).Joins := by
  cases command with
  | repeatLast n => exact (joins_of_none h).repeatLast n
  | _ => exact joins_of_none (((t.alters_run now _).kept .composeAt rfl).trans h)

/-! ## Output and hosts -/

theorem Joins.perform (h : t.Joins) (now : Instant) (action : Control.Action) :
    (perform now t action).Joins := by
  have apart : ({ t with composeAt := none } : Terminal).Joins := joins_of_none rfl
  cases action with
  | print c => exact h.print c
  | execute | escape | control => exact joins_run rfl now _
  | command data bell => exact joins_of_none ((alters_operate _ data bell).kept .composeAt rfl)
  | imageStart | imageData | imageEnd => exact apart
  | request r => exact joins_of_none ((alters_serve _ now r).kept .composeAt rfl)

theorem Joins.feed (h : t.Joins) (bytes : List UInt8) (now : Instant) :
    (t.feed bytes now).Joins := by
  have read : (t.reading bytes).Joins := h
  exact feed_induction read (fun _ hu action _ => hu.perform now action) fun _ _ hu => hu

/-- With another size nothing is joined. -/
theorem Joins.resize (h : t.Joins) (cols rows : Nat) : (t.resize cols rows).Joins := by
  unfold Terminal.resize
  dsimp only
  split
  · exact h
  · exact joins_of_none (composeAt_modifyGrid ..)

theorem Joins.apply (h : t.Joins) (action : HostAction) : (action.apply t).Joins := by
  cases action with
  | feed bytes now => exact h.feed bytes now
  | resize cols rows => exact h.resize cols rows
  | _ => exact h.of_alters (t.alters_apply _) rfl

theorem joins_drive (config : Config) (actions : List HostAction) : (drive config actions).Joins :=
  List.foldlRecOn actions HostAction.apply (joins_of_none rfl) fun _ hu action _ => hu.apply action

end Teletype.Terminal
