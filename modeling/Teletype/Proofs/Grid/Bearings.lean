import Teletype.Grid.Edit
import Teletype.Grid.View
import Teletype.Proofs.Grid.Shift

/-!
# The bearings of a grid

Where the cursor is and was saved, and between what bounds it moves. Most operations on the cells
have nothing to do with it, and neither has a view that is moved.
-/

namespace Teletype.Grid

/-- The size, the region, and the cursor that is in use and the one that was saved. -/
structure Bearings where
  cols : Nat
  rows : Nat
  region : Region
  cursor : Cursor
  saved : SavedCursor

/-- The bearings with the cursor in the first column. -/
def Bearings.toFirstColumn (b : Bearings) : Bearings :=
  { b with cursor := { b.cursor with col := 0, pendingWrap := false } }

/-- The bearings of a grid. -/
def bearings (g : Grid) : Bearings := ⟨g.cols, g.rows, g.region, g.cursor, g.saved⟩

variable (g : Grid)

theorem bearings_ite {p : Prop} [Decidable p] {a b : Grid} (ha : a.bearings = g.bearings)
    (hb : b.bearings = g.bearings) : (if p then a else b).bearings = g.bearings := by
  split
  · exact ha
  · exact hb

theorem bearings_foldl {α : Type} {f : Grid → α → Grid} (hf : ∀ g a, (f g a).bearings = g.bearings)
    (l : List α) : (l.foldl f g).bearings = g.bearings :=
  List.foldlRecOn (motive := fun u => u.bearings = g.bearings) l f rfl
    fun u hu a _ => (hf u a).trans hu

@[simp] theorem bearings_modifyRow (row : Nat) (f : Row → Row) :
    (g.modifyRow row f).bearings = g.bearings := by
  unfold modifyRow
  split <;> rfl

@[simp] theorem bearings_eraseRows (first last : Nat) (background : Color) :
    (g.eraseRows first last background).bearings = g.bearings :=
  bearings_foldl g (fun g row => bearings_modifyRow g row _) _

@[simp] theorem bearings_eraseRight (background : Color) :
    (g.eraseRight background).bearings = g.bearings :=
  (bearings_modifyRow ..).trans (bearings_modifyRow ..)

@[simp] theorem bearings_eraseLeft (background : Color) :
    (g.eraseLeft background).bearings = g.bearings :=
  bearings_modifyRow ..

@[simp] theorem bearings_eraseDisplay (mode : Nat) (background : Color) :
    (g.eraseDisplay mode background).value.bearings = g.bearings := by
  unfold eraseDisplay
  split
  · simp
  · simp
  · simp
  · rfl
  · rfl

@[simp] theorem bearings_eraseLine (mode : Nat) (background : Color) :
    (g.eraseLine mode background).value.bearings = g.bearings := by
  unfold eraseLine
  split
  · simp
  · simp
  · exact bearings_modifyRow ..
  · rfl

@[simp] theorem bearings_eraseChars (n : Nat) (background : Color) :
    (g.eraseChars n background).bearings = g.bearings := bearings_modifyRow ..

@[simp] theorem bearings_fill (c : Char) : (g.fill c).bearings = g.bearings :=
  bearings_foldl g (fun g row => bearings_modifyRow g row _) _

@[simp] theorem bearings_insertChars (n : Nat) (background : Color) :
    (g.insertChars n background).bearings = g.bearings := bearings_modifyRow ..

@[simp] theorem bearings_deleteChars (n : Nat) (background : Color) :
    (g.deleteChars n background).bearings = g.bearings := bearings_modifyRow ..

@[simp] theorem bearings_write (row col key width : Nat) (rendition : Rendition) (link : Nat) :
    (g.write row col key width rendition link).bearings = g.bearings :=
  bearings_ite g (bearings_modifyRow ..) rfl

@[simp] theorem bearings_compose (row col key width : Nat) :
    (g.compose row col key width).1.bearings = g.bearings := bearings_modifyRow ..

@[simp] theorem bearings_shiftUp (top bottom n : Nat) (background : Color) :
    (g.shiftUp top bottom n background).bearings = g.bearings :=
  (g.refills_shiftUp top bottom n background).congr bearings fun _ _ => rfl

@[simp] theorem bearings_shiftDown (top bottom n : Nat) (background : Color) :
    (g.shiftDown top bottom n background).bearings = g.bearings :=
  (g.refills_shiftDown top bottom n background).congr bearings fun _ _ => rfl

@[simp] theorem bearings_rotateUp (n : Nat) (background : Color) :
    (g.rotateUp n background).bearings = g.bearings := by
  have turned (n : Nat) : (Nat.repeat (turn background) n g).bearings = g.bearings := by
    induction n with
    | zero => rfl
    | succ n ih => exact ih
  have followed (g : Grid) (atBottom : Bool) : (g.followView atBottom).bearings = g.bearings :=
    bearings_ite g rfl (bearings_ite g rfl rfl)
  exact bearings_ite g rfl ((followed _ _).trans (turned _))

@[simp] theorem bearings_scrollUp (n : Nat) (background : Color) :
    (g.scrollUp n background).bearings = g.bearings :=
  bearings_ite g (bearings_rotateUp ..) (bearings_shiftUp ..)

@[simp] theorem bearings_scrollDown (n : Nat) (background : Color) :
    (g.scrollDown n background).bearings = g.bearings := bearings_shiftDown ..

/-- Inserting lines may take the cursor to the first column. -/
theorem bearings_insertLines (n : Nat) (background : Color) :
    (g.insertLines n background).bearings = g.bearings ∨
      (g.insertLines n background).bearings = g.toFirstColumn.bearings := by
  unfold insertLines
  split
  · exact .inr (congrArg Bearings.toFirstColumn (g.bearings_shiftDown ..))
  · exact .inl rfl

theorem bearings_deleteLines (n : Nat) (background : Color) :
    (g.deleteLines n background).bearings = g.bearings ∨
      (g.deleteLines n background).bearings = g.toFirstColumn.bearings := by
  unfold deleteLines
  split
  · exact .inr (congrArg Bearings.toFirstColumn (g.bearings_shiftUp ..))
  · exact .inl rfl

@[simp] theorem bearings_viewUp (n : Nat) :
    (g.viewUp n).1.bearings = g.bearings := bearings_ite g rfl rfl

@[simp] theorem bearings_viewDown (n : Nat) :
    (g.viewDown n).1.bearings = g.bearings := bearings_ite g rfl rfl

@[simp] theorem bearings_viewToBottom :
    g.viewToBottom.bearings = g.bearings := bearings_ite g rfl rfl

@[simp] theorem bearings_previousPrompt : g.previousPrompt.1.bearings = g.bearings := by
  unfold previousPrompt
  split
  · rfl
  · exact bearings_viewUp ..

@[simp] theorem bearings_nextPrompt : g.nextPrompt.1.bearings = g.bearings := by
  unfold nextPrompt
  split
  · rfl
  · exact bearings_viewDown ..

end Teletype.Grid
