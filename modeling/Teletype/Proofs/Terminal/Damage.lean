import Teletype.Proofs.Grid.Damage
import Teletype.Proofs.Terminal.ValidRun

/-!
# Output marks what it changes

Whatever output asks for, changed rows are marked, and where other rows come into view all of them
are, the view that is scrolled back apart.
-/

namespace Teletype.Terminal

/-- Between two states of a terminal either all that is displayed came to be marked, or the screen
in use is the same and its changed rows are marked. -/
def Damages (t t' : Terminal) : Prop :=
  t'.grid.Fresh ∨ (t'.screen = t.screen ∧ t.grid.Keeps t'.grid)

theorem Damages.refl (t : Terminal) : t.Damages t := .inr ⟨rfl, .refl _⟩

theorem Damages.trans {t t' t'' : Terminal} (h : t.Damages t') (h' : t'.Damages t'') :
    t.Damages t'' := by
  rcases h' with h' | ⟨hscreen', hkeeps'⟩
  · exact .inl h'
  · rcases h with h | ⟨hscreen, hkeeps⟩
    · exact .inl (hkeeps'.fresh h)
    · exact .inr ⟨hscreen'.trans hscreen, hkeeps.trans hkeeps'⟩

variable {t t' : Terminal}

theorem Damages.ite {p : Prop} [Decidable p] {a b : Terminal} (ha : t.Damages a)
    (hb : t.Damages b) : t.Damages (if p then a else b) := by
  split
  · exact ha
  · exact hb

/-- What leaves the rows alone marks all that it changes. -/
theorem Damages.of_alters {aspects : List Aspect} (h : t.Alters aspects t')
    (hapart : Aspect.apart [.screen, .grid .ring] aspects = true) : t.Damages t' := by
  have ring : t'.grid.aspect .ring = t.grid.aspect .ring :=
    h.of_apart hapart (a := .grid .ring) (by decide)
  have kept {α : Type} (f : Grid → α) : f (t'.grid.aspect .ring) = f (t.grid.aspect .ring) :=
    congrArg f ring
  have slots : t'.grid.slots = t.grid.slots := kept Grid.slots
  refine .inr ⟨h.of_apart hapart (a := .screen) (by decide), Grid.keeps_of_slots (kept Grid.rows)
    (slots ▸ .refl _) (kept Grid.view) (kept Grid.offset)⟩

variable (t)

theorem damages_modifyGrid {f : Grid → Grid} (hf : t.grid.Damages (f t.grid)) :
    t.Damages (t.modifyGrid f) := by
  rw [Damages, grid_modifyGrid, screen_modifyGrid]
  exact hf.imp_right fun hkeeps => ⟨rfl, hkeeps⟩

theorem damages_foldl {α : Type} {f : Terminal → α → Terminal}
    (hf : ∀ (t : Terminal) (a : α), t.Damages (f t a)) (l : List α) : t.Damages (l.foldl f t) :=
  List.foldlRecOn l f (.refl t) fun u hu a _ => hu.trans (hf u a)

theorem keeps_clearPending (g : Grid) : g.Keeps g.clearPending := g.keeps_cursor _ _

/-! ## Motions and printing -/

theorem damages_lineFeed : t.Damages t.lineFeed := by
  refine t.damages_modifyGrid ?_
  dsimp only
  split
  · exact (Grid.damages_scrollUp _ 1 _).trans (.inr (keeps_clearPending _))
  · split
    · exact .inr (Grid.keeps_cursor _ _ _)
    · exact .inr (keeps_clearPending _)

theorem damages_reverseIndex : t.Damages t.reverseIndex := by
  refine t.damages_modifyGrid ?_
  dsimp only
  split
  · exact (Grid.damages_scrollDown _ 1 _).trans (.inr (keeps_clearPending _))
  · exact .inr (Grid.keeps_cursor _ _ _)

theorem damages_wrapLine : t.Damages t.wrapLine := by
  have marked : t.Damages (t.modifyGrid (·.modifyRow t.cursor.row ({ · with wrapped := true }))) :=
    t.damages_modifyGrid (.inr (Grid.keeps_modifyRow _ _ fun _ hr => hr))
  exact (marked.trans (damages_lineFeed _)).trans (.of_alters (alters_putCursor ..) rfl)

theorem damages_makeRoom (width : Nat) : t.Damages (t.makeRoom width).1 :=
  makeRoom_induction (p := t.Damages) (fun u hu => hu.trans u.damages_wrapLine) (.refl t) width

theorem damages_placeGlyph (c : Char) (width col : Nat) : t.Damages (t.placeGlyph c width col) := by
  refine t.damages_modifyGrid (.inr ?_)
  dsimp only
  refine Grid.Keeps.trans ?_ (Grid.keeps_cursor _ _ _)
  refine Grid.Keeps.trans ?_ (Grid.keeps_write _ _ _ _ _ _ _)
  split
  · exact (Grid.keeps_cursor _ _ _).trans (Grid.keeps_insertChars _ _ _)
  · exact .refl _

theorem damages_printGlyph (c : Char) (width : Nat) : t.Damages (t.printGlyph c width) :=
  .ite (.of_alters (t.alters_note ..) rfl)
    ((t.damages_makeRoom width).trans (damages_placeGlyph _ c width _))

theorem keeps_composeGrid (g : Grid) (row col oldWidth : Nat) (glyph : Glyph) :
    g.Keeps (composeGrid g row col oldWidth glyph) := by
  have composed := g.keeps_compose row col glyph.key glyph.width
  unfold composeGrid
  dsimp only
  split
  · split
    · exact composed.trans (Grid.keeps_cursor _ _ _)
    · exact composed
  · exact composed

theorem damages_compose (row col : Nat) (c : Char) : t.Damages (t.compose row col c) := by
  unfold compose
  split
  · exact .refl t
  · dsimp only
    split
    · exact .refl t
    · exact damages_modifyGrid _ (.inr (keeps_composeGrid _ _ _ _ _))

theorem damages_print (c : Char) : t.Damages (t.print c) := by
  have shifted := Damages.of_alters (t.alters_charsets (t.charsets.translate c).1) rfl
  rcases t.print_cases c with ⟨row, col, c', -, -, printed⟩ | printed | ⟨c', -, printed⟩
  · exact printed ▸ shifted.trans (damages_compose _ row col c')
  · exact printed ▸ shifted
  · exact printed ▸ shifted.trans (damages_printGlyph _ c' _)

theorem damages_repeatLast (n : Nat) : t.Damages (t.repeatLast n) :=
  repeatLast_induction (p := t.Damages) (fun u c _ hu => hu.trans (u.damages_printGlyph c _))
    (.refl t) n

/-! ## Screens and modes -/

/-- The alternate screen is marked as a whole when it comes into view. -/
theorem damages_enterAlternate (save : Bool) : t.Damages (t.enterAlternate save) :=
  .ite (.refl t) (.inl (Grid.fresh_markAllDirty _))

theorem fresh_primary (hs : t.screen = .primary) (h : t.primary.Fresh) : t.grid.Fresh := by
  rw [grid, hs]
  exact h

theorem screen_leaveAlternate (restore : Bool) : (t.leaveAlternate restore).screen = .primary := by
  unfold leaveAlternate
  split
  · dsimp only [note]
    split
    · exact (alters_restoreCursor _).kept .screen rfl
    · rfl
  · rename_i hs
    rw [isAlternate, decide_eq_true_eq] at hs
    cases hscreen : t.screen with
    | primary => rfl
    | alternate => exact absurd hscreen hs

/-- Leaving the alternate screen marks what it brings to be displayed. -/
theorem damages_leaveAlternate (restore : Bool) : t.Damages (t.leaveAlternate restore) := by
  have primary := t.screen_leaveAlternate restore
  unfold leaveAlternate at primary ⊢
  split at primary
  · rename_i hs
    rw [if_pos hs]
    exact .inl (fresh_primary _ primary (Grid.fresh_markAllDirty _))
  · rename_i hs
    rw [if_neg hs]
    exact .refl t

/-- Every row is started anew. -/
theorem fresh_hardReset : t.hardReset.grid.Fresh := by
  have cleared := (t.leaveAlternate false).primary.fresh_clearAll
  refine fresh_primary _ (t.screen_leaveAlternate false) ?_
  show (t.leaveAlternate false).primary.clearAll.viewToBottom.Fresh
  rw [Grid.viewToBottom_clearAll]
  exact cleared

theorem damages_alignmentTest : t.Damages t.alignmentTest := by
  refine t.damages_modifyGrid (.inr ?_)
  exact ((Grid.keeps_fill _ _).trans (Grid.keeps_setRegion _ _ _)).trans (Grid.keeps_cursor _ _ _)

theorem fresh_repaint : t.repaint.grid.Fresh := by
  rw [repaint, grid_modifyGrid]
  exact Grid.fresh_markAllDirty _

theorem damages_setDecMode (now : Instant) (on : Bool) (number : Nat) :
    t.Damages (setDecMode now on t number) := by
  by_cases h : number ∈ [5, 47, 1047, 1049]
  · simp only [List.mem_cons, List.not_mem_nil, or_false] at h
    rcases h with rfl | rfl | rfl | rfl
    · exact .inl (fresh_repaint _)
    · exact .ite (t.damages_enterAlternate _) (t.damages_leaveAlternate _)
    · exact .ite (t.damages_enterAlternate _) (t.damages_leaveAlternate _)
    · exact .ite (t.damages_enterAlternate _) (t.damages_leaveAlternate _)
  · exact .of_alters (t.alters_setDecMode now on number)
      (Aspect.apart_mono (rows_ofDecMode h) (by decide))

theorem damages_restoreDecMode (now : Instant) (number : Nat) :
    t.Damages (restoreDecMode now t number) := by
  refine .ite (.of_alters t.alters_restoreCursor rfl) ?_
  split
  · exact t.damages_setDecMode now _ number
  · exact .of_alters (t.alters_note ..) rfl

/-! ## Commands -/

theorem damages_operate (data : List UInt8) (bell : Bool) : t.Damages (t.operate data bell) := by
  have screen : (t.operate data bell).screen = t.screen :=
    (t.alters_operate data bell).kept .screen rfl
  rcases t.grid_operate data bell with same | marked | prompt
  · exact .inr ⟨screen, same ▸ .refl _⟩
  · exact .inl (marked ▸ Grid.fresh_markAllDirty _)
  · exact .inr ⟨screen, prompt ▸ Grid.keeps_modifyRow _ _ fun _ hr => hr⟩

section

variable {edit : Grid → Nat → Color → Grid}

theorem damages_editLines (he : ∀ (g : Grid) n background, g.Keeps (edit g n background))
    (n : Nat) : t.Damages (t.editLines edit n) := by
  refine t.damages_modifyGrid (.inr ?_)
  split
  · exact he _ _ _
  · exact .refl _

theorem damages_scrollBy (he : ∀ (g : Grid) n background, g.Damages (edit g n background))
    (n : Nat) : t.Damages (t.scrollBy edit n) := t.damages_modifyGrid (he _ _ _)

theorem damages_editCells (he : ∀ (g : Grid) n background, g.Keeps (edit g n background))
    (n : Nat) : t.Damages (t.editCells edit n) :=
  t.damages_modifyGrid (.inr ((he _ _ _).trans (keeps_clearPending _)))

end

theorem damages_eraseBy {erase : Grid → Nat → Color → Reported Grid}
    (he : ∀ (g : Grid) n background, g.Keeps (erase g n background).value) (mode : Nat) :
    t.Damages (t.eraseBy erase mode) := by
  have erased :
      t.Damages (t.modifyGrid fun _ => (erase t.grid mode t.rendition.background).value) :=
    t.damages_modifyGrid (.inr (he _ _ _))
  exact (erased.trans (.of_alters (alters_noteAll ..) rfl)).trans
    (.of_alters (alters_clearPending _) rfl)

theorem damages_run (now : Instant) (command : Command) : t.Damages (t.run now command) := by
  cases command with
  | lineFeed =>
    exact .ite (t.damages_lineFeed.trans (.of_alters (alters_carriageReturn _) rfl))
      t.damages_lineFeed
  | index => exact t.damages_lineFeed
  | reverseIndex => exact t.damages_reverseIndex
  | nextRow => exact .trans (.of_alters t.alters_carriageReturn rfl) (damages_lineFeed _)
  | insertChars n => exact t.damages_editCells Grid.keeps_insertChars n
  | deleteChars n => exact t.damages_editCells Grid.keeps_deleteChars n
  | eraseChars n => exact t.damages_editCells (fun _ _ _ => Grid.keeps_eraseInRow _ _ _ _ _) n
  | insertLines n => exact t.damages_editLines Grid.keeps_insertLines n
  | deleteLines n => exact t.damages_editLines Grid.keeps_deleteLines n
  | eraseDisplay mode => exact t.damages_eraseBy Grid.keeps_eraseDisplay mode
  | eraseLine mode => exact t.damages_eraseBy Grid.keeps_eraseLine mode
  | scrollUp n => exact t.damages_scrollBy Grid.damages_scrollUp n
  | scrollDown n => exact t.damages_scrollBy Grid.damages_scrollDown n
  | repeatLast n => exact t.damages_repeatLast n
  | setDecModes numbers on =>
    exact t.damages_foldl (fun t n => t.damages_setDecMode now on n) numbers
  | restoreDecModes numbers =>
    exact t.damages_foldl (fun t n => t.damages_restoreDecMode now n) numbers
  | alignmentTest => exact t.damages_alignmentTest
  | hardReset => exact .inl t.fresh_hardReset
  | _ => exact .of_alters (t.alters_run now _) rfl

/-- An action marks what it changes, whatever the action. -/
theorem damages_perform (now : Instant) (action : Control.Action) :
    t.Damages (perform now t action) := by
  have apart := Damages.of_alters (t.alters_composeAt none) rfl
  cases action with
  | print c => exact t.damages_print c
  | execute | escape | control => exact apart.trans (damages_run _ now _)
  | command data bell => exact apart.trans (damages_operate _ data bell)
  | imageStart | imageData | imageEnd | request => exact .of_alters (t.alters_perform now _) rfl

end Teletype.Terminal
