import Teletype.Proofs.Machine.Screens
import Teletype.Proofs.Machine.Sequence

/-!
# Running a terminal in machine words

Whatever output asks a terminal for can be computed.
-/

namespace Teletype.Terminal

open Machine

variable {cols rows : Nat} {t : Terminal}

/-! ## Editing -/

def checkedEditLines (t : Terminal) (edit : Grid → Nat → Color → Option Grid)
    (n : Nat) : Option Terminal :=
  let background := t.rendition.background
  t.checkedOnGrid fun g =>
    if g.region.contains g.cursor.row then do
      let below ← sub g.region.bottom g.cursor.row
      edit g (min n below) background
    else some g

def checkedScrollBy (t : Terminal) (scroll : Grid → Nat → Color → Option Grid)
    (n : Nat) : Option Terminal :=
  let background := t.rendition.background
  t.checkedOnGrid fun g => do
    let height ← sub g.region.bottom g.region.top
    scroll g (min n height) background

def checkedEditCells (t : Terminal) (edit : Grid → Nat → Color → Option Grid)
    (n : Nat) : Option Terminal :=
  let background := t.rendition.background
  t.checkedOnGrid fun g => do
    let edited ← edit g n background
    return edited.clearPending

def checkedEraseBy (t : Terminal) (erase : Grid → Nat → Color → Option (Reported Grid))
    (mode : Nat) : Option Terminal := do
  let erased ← erase t.grid mode t.rendition.background
  return ((t.modifyGrid fun _ => erased.value).noteAll erased.reports).modifyGrid Grid.clearPending

/-- The first row of the region was counted from 0 when the sequence was read. -/
def checkedChooseRegion (t : Terminal) (top bottom : Nat) : Option Terminal :=
  let rows := t.grid.rows
  let bottom := if bottom = 0 then rows else min bottom rows
  if top < bottom then (t.modifyGrid (·.setRegion (top - 1) bottom)).checkedGoTo 0 0 else some t

/-- The column is counted from 1 before it is cut off at the width. -/
def checkedToColumn (t : Terminal) (col : Nat) : Option Terminal :=
  t.checkedOnGrid fun g => do
    forget (sub (min (col + 1) g.cols) 1)
    g.checkedSetCursor g.cursor.row col

namespace Held

/-- A step that gives what an operation is to give to every grid of the size that is in use. -/
def Performs (t : Terminal) (cols rows : Nat) {α : Type} (step : Grid → Nat → Color → Option α)
    (op : Grid → Nat → Color → α) : Prop :=
  ∀ n background, t.grid.Held t.screen cols rows →
  step t.grid n background = some (op t.grid n background)

section

variable {step : Grid → Nat → Color → Option Grid} {edit : Grid → Nat → Color → Grid}

theorem checkedEditLines (h : t.Held cols rows) (hstep : Performs t cols rows step edit) (n : Nat) :
    t.checkedEditLines step n = some (t.editLines edit n) := by
  unfold Terminal.checkedEditLines Terminal.editLines
  refine checkedOnGrid_eq ?_
  split
  · rename_i hinside
    rw [Region.contains, Bool.and_eq_true, decide_eq_true_eq, decide_eq_true_eq] at hinside
    exact bind_eq (sub_of_le (Nat.le_of_lt hinside.2)) (hstep _ _ h.grid)
  · rfl

theorem checkedScrollBy (h : t.Held cols rows) (hstep : Performs t cols rows step edit) (n : Nat) :
    t.checkedScrollBy step n = some (t.scrollBy edit n) := by
  unfold Terminal.checkedScrollBy Terminal.scrollBy
  refine checkedOnGrid_eq ?_
  exact bind_eq (sub_of_le (Nat.le_of_lt h.inBounds.region_lt)) (hstep _ _ h.grid)

theorem checkedEditCells (h : t.Held cols rows) (hstep : Performs t cols rows step edit) (n : Nat) :
    t.checkedEditCells step n = some (t.editCells edit n) := by
  unfold Terminal.checkedEditCells Terminal.editCells
  refine checkedOnGrid_eq ?_
  exact bind_eq (hstep _ _ h.grid) rfl

end

theorem checkedEraseBy (h : t.Held cols rows) {step : Grid → Nat → Color → Option (Reported Grid)}
    {erase : Grid → Nat → Color → Reported Grid} (hstep : Performs t cols rows step erase)
    (mode : Nat) :
    t.checkedEraseBy step mode = some (t.eraseBy erase mode) :=
  bind_eq (hstep _ _ h.grid) rfl

theorem checkedChooseRegion (h : t.Held cols rows) (top bottom : Nat) :
    t.checkedChooseRegion top bottom = some (t.chooseRegion top bottom) := by
  unfold Terminal.checkedChooseRegion Terminal.chooseRegion
  dsimp only
  generalize (if bottom = 0 then t.grid.rows else min bottom t.grid.rows) = last
  split
  · refine Held.checkedGoTo (h.modifyGrid fun hg => ?_) 0 0
    exact hg.next (hg.valid.setRegion _ _) (hg.valid.inRing.alike.setRegion _ _)
  · rfl

theorem checkedToColumn (h : t.Held cols rows) (col : Nat) :
    t.checkedToColumn col = some (t.modifyGrid fun g => g.setCursor g.cursor.row col) := by
  have pos := h.inBounds.cols_pos
  unfold Terminal.checkedToColumn
  refine checkedOnGrid_eq (f := fun g => g.setCursor g.cursor.row col) ?_
  exact bind_eq (forget_of_eq (sub_of_le (by omega))) (h.inBounds.checkedSetCursor _ _)

end Held

/-! ## Commands -/

/-- The oldest title gives way if there are as many as are kept. -/
def titleSteps (t : Terminal) (op arg : Nat) : Option Unit :=
  when (op = 22 ∧ (arg = 0 ∨ arg = 2) ∧ 16 ≤ t.titleStack.length) (index 0 t.titleStack.length)

def checkedRun (now : Instant) (t : Terminal) (command : Command) : Option Terminal :=
  match command with
  | .backspace => t.checkedBackspace
  | .lineFeed => do
    let fed ← t.checkedLineFeed
    return if t.modes.newline then fed.carriageReturn else fed
  | .index => t.checkedLineFeed
  | .reverseIndex => t.checkedReverseIndex
  | .nextRow => t.carriageReturn.checkedLineFeed
  | .tabForward n => t.checkedTabForward n
  | .cursorUp n => t.checkedCursorUp n
  | .cursorDown n => t.checkedCursorDown n
  | .cursorRight n => t.checkedOnGrid fun g => g.checkedSetCursor g.cursor.row (g.cursor.col + n)
  | .cursorLeft n => t.checkedOnGrid fun g => g.checkedSetCursor g.cursor.row (g.cursor.col - n)
  | .cursorNextLine n => do
    let moved ← t.checkedCursorDown n
    return moved.carriageReturn
  | .cursorPreviousLine n => do
    let moved ← t.checkedCursorUp n
    return moved.carriageReturn
  | .toColumn col => t.checkedToColumn col
  | .toRow row => t.checkedGoTo row t.cursor.col
  | .toPlace row col => t.checkedGoTo row col
  | .insertChars n => t.checkedEditCells Grid.checkedInsertChars n
  | .deleteChars n => t.checkedEditCells Grid.checkedDeleteChars n
  | .eraseChars n => t.checkedEditCells Grid.checkedEraseChars n
  | .insertLines n => t.checkedEditLines Grid.checkedInsertLines n
  | .deleteLines n => t.checkedEditLines Grid.checkedDeleteLines n
  | .eraseDisplay mode => t.checkedEraseBy Grid.checkedEraseDisplay mode
  | .eraseLine mode => t.checkedEraseBy Grid.checkedEraseLine mode
  | .scrollUp n => t.checkedScrollBy Grid.checkedScrollUp n
  | .scrollDown n => t.checkedScrollBy Grid.checkedScrollDown n
  | .repeatLast n => t.checkedRepeatLast n
  | .setRegion top bottom => t.checkedChooseRegion top bottom
  | .restoreCursor => t.checkedRestoreCursor
  | .setDecModes numbers on => numbers.foldlM (checkedSetDecMode now on) t
  | .restoreDecModes numbers => numbers.foldlM (checkedRestoreDecMode now) t
  | .windowOperation op arg => do
    t.titleSteps op arg
    return t.windowOperation op arg
  | .alignmentTest => t.checkedAlignmentTest
  | .hardReset => t.checkedHardReset
  | .askStatus what => do
    when (what = 6) (forget t.checkedReportedPosition)
    return t.answerStatus what
  | .askPrivatePosition => do
    forget t.checkedReportedPosition
    return t.answerPrivatePosition
  | command => some (t.run now command)

theorem titleSteps_eq (t : Terminal) (op arg : Nat) : t.titleSteps op arg = some () :=
  when_of_imp fun h => index_of_lt (by omega)

namespace Held

theorem checkedMoveCursor (h : t.Held cols rows) (place : Cursor → Nat × Nat) :
    (t.checkedOnGrid fun g => g.checkedSetCursor (place g.cursor).1 (place g.cursor).2) =
      some (t.modifyGrid fun g => g.setCursor (place g.cursor).1 (place g.cursor).2) :=
  checkedOnGrid_eq (f := fun g => g.setCursor (place g.cursor).1 (place g.cursor).2)
    (h.inBounds.checkedSetCursor _ _)

/-- What a control function asks for can be computed. -/
theorem checkedRun (h : t.Held cols rows) (now : Instant) (command : Command) :
    checkedRun now t command = some (t.run now command) := by
  cases command with
  | backspace => exact h.checkedBackspace
  | lineFeed =>
    refine bind_eq h.checkedLineFeed ?_
    unfold Terminal.run
    dsimp only
    split <;> rfl
  | index => exact h.checkedLineFeed
  | reverseIndex => exact h.checkedReverseIndex
  | nextRow =>
    exact Held.checkedLineFeed (h.next h.valid.carriageReturn h.valid.alike.carriageReturn)
  | tabForward n => exact h.checkedTabForward n
  | cursorUp n => exact h.checkedCursorUp n
  | cursorDown n => exact h.checkedCursorDown n
  | cursorRight n => exact h.checkedMoveCursor fun c => (c.row, c.col + n)
  | cursorLeft n => exact h.checkedMoveCursor fun c => (c.row, c.col - n)
  | cursorNextLine n => exact bind_eq (h.checkedCursorDown n) rfl
  | cursorPreviousLine n => exact bind_eq (h.checkedCursorUp n) rfl
  | toColumn col => exact h.checkedToColumn col
  | toRow row => exact h.checkedGoTo row _
  | toPlace row col => exact h.checkedGoTo row col
  | insertChars n => exact h.checkedEditCells (fun n b hg => hg.inBounds.checkedInsertChars n b) n
  | deleteChars n => exact h.checkedEditCells (fun n b hg => hg.inBounds.checkedDeleteChars n b) n
  | eraseChars n => exact h.checkedEditCells (fun n b hg => hg.inBounds.checkedEraseChars n b) n
  | insertLines n => exact h.checkedEditLines (fun n b hg => hg.inBounds.checkedInsertLines n b) n
  | deleteLines n => exact h.checkedEditLines (fun n b hg => hg.inBounds.checkedDeleteLines n b) n
  | eraseDisplay mode =>
    exact h.checkedEraseBy (fun mode b hg => hg.checkedEraseDisplay mode b) mode
  | eraseLine mode => exact h.checkedEraseBy (fun mode b hg => hg.checkedEraseLine mode b) mode
  | scrollUp n => exact h.checkedScrollBy (fun n b hg => hg.checkedScrollUp n b) n
  | scrollDown n => exact h.checkedScrollBy (fun n b hg => hg.inBounds.checkedScrollDown n b) n
  | repeatLast n => exact h.checkedRepeatLast n
  | setRegion top bottom => exact h.checkedChooseRegion top bottom
  | restoreCursor => exact h.checkedRestoreCursor
  | setDecModes numbers on =>
    exact (foldlM_eq (fun _ (t : Terminal) => t.Held cols rows)
      (fun _ n _ ht => ⟨ht.checkedSetDecMode now on n, ht.setDecMode now on n⟩) h).1
  | restoreDecModes numbers =>
    exact (foldlM_eq (fun _ (t : Terminal) => t.Held cols rows)
      (fun _ n _ ht => ⟨ht.checkedRestoreDecMode now n, ht.restoreDecMode now n⟩) h).1
  | windowOperation op arg => exact bind_eq (titleSteps_eq t op arg) rfl
  | alignmentTest => exact h.checkedAlignmentTest
  | hardReset => exact h.checkedHardReset
  | askStatus what =>
    exact bind_eq (when_of_imp fun _ => forget_of_eq h.checkedReportedPosition) rfl
  | askPrivatePosition => exact bind_eq (forget_of_eq h.checkedReportedPosition) rfl
  | _ => rfl

end Held

/-! ## Actions -/

/-- Writes the answer to a request. The rows of a region are counted from 1. -/
def requestSteps (t : Terminal) : Control.DeviceRequest → Option Unit
  | .setting name => do
    forget (add .u16 t.grid.region.top 1)
    match t.settings.find? name with
    | some setting => setting.steps
    | none => some ()
  | _ => some ()

/-- Carries out what is not printing. A mark of the shell goes to the row of the cursor. -/
def checkedAct (now : Instant) (t : Terminal) (action : Control.Action) : Option Terminal :=
  match action with
  | .execute byte => checkedRun now t (.ofControl byte)
  | .escape s => checkedRun now t (.ofEscape s)
  | .control s => checkedRun now t (.ofSequence s)
  | .command data bell => do
    forget (t.grid.checkedModifyRow t.cursor.row (fun _ => some ()) ({ · with prompt := true }))
    return t.operate data bell
  | .request r => do
    t.requestSteps r
    return serve now t r
  | action => some (act now t action)

def checkedPerform (now : Instant) (t : Terminal) (action : Control.Action) : Option Terminal := do
  action.steps
  match action with
  | .print c => t.checkedPrint c
  | action => checkedAct now { t with composeAt := none } action

def checkedFeed (t : Terminal) (bytes : List UInt8) (now : Instant) : Option Terminal := do
  let (decoder, actions) ← t.decoder.checkedFeed bytes
  let (decoder, reports) := decoder.takeReports
  let t ← actions.toList.foldlM (checkedPerform now) ({ t with decoder := decoder }.noteAll reports)
  return if bytes.isEmpty then t else { t with schedule := t.schedule.onOutput now }

/-- A region in an answer is the one in use. -/
theorem Settings.find?_region {s : Settings} {name : List UInt8} {top bottom : Nat}
    (h : s.find? name = some (.region top bottom)) :
    top = s.region.top + 1 ∧ bottom = s.region.bottom := by
  unfold Settings.find? at h
  split at h
  · exact absurd h (by simp)
  · split at h
    · obtain ⟨rfl, rfl⟩ := Setting.region.inj (Option.some.inj h)
      exact ⟨rfl, rfl⟩
    · split at h <;> exact absurd h (by simp)

namespace Held

theorem requestSteps (h : t.Held cols rows) (r : Control.DeviceRequest) :
    t.requestSteps r = some () := by
  have := h.inBounds.region_lt
  have := h.inBounds.region_le
  have := h.inBounds.rows_le
  cases r with
  | setting name =>
    refine bind_eq (forget_of_eq (add_u16 (by omega))) ?_
    cases hsetting : t.settings.find? name with
    | none => rfl
    | some setting =>
      refine setting.steps_eq fun top bottom hregion => ?_
      obtain ⟨rfl, rfl⟩ := Settings.find?_region (hregion ▸ hsetting)
      show t.grid.region.top + 1 < 100000 ∧ t.grid.region.bottom < 100000
      omega
  | capabilities | beginSync | endSync => rfl

theorem checkedAct (h : t.Held cols rows) (now : Instant) (action : Control.Action) :
    checkedAct now t action = some (act now t action) := by
  cases action with
  | execute byte => exact h.checkedRun now _
  | escape s => exact h.checkedRun now _
  | control s => exact h.checkedRun now _
  | command data bell =>
    exact bind_eq (forget_of_eq (h.inBounds.checkedModifyRow _ _ fun _ _ => rfl)) rfl
  | request r => exact bind_eq (h.requestSteps r) rfl
  | print | imageStart | imageData | imageEnd => rfl

theorem checkedPerform (h : t.Held cols rows) (now : Instant) {action : Control.Action}
    (haction : action.Bounded) : checkedPerform now t action = some (perform now t action) := by
  have ht : ({ t with composeAt := none } : Terminal).Held cols rows := h.of_eq rfl rfl rfl rfl
  refine bind_eq (Control.Action.steps_eq haction) ?_
  cases action with
  | print c => exact h.checkedPrint c
  | _ => exact ht.checkedAct now _

theorem perform (h : t.Held cols rows) (now : Instant) (action : Control.Action) :
    (perform now t action).Held cols rows :=
  h.next (h.valid.perform now action) (h.valid.alike.perform now action)

/-- Output can be read and carried out, whatever it is. -/
theorem checkedFeed (h : t.Held cols rows) (hdecoder : t.decoder.state.Bounded) (bytes : List UInt8)
    (now : Instant) : t.checkedFeed bytes now = some (t.feed bytes now) := by
  have bounded := (Control.Decoder.bounded_feed hdecoder bytes).2
  have read := Control.Decoder.checkedFeed_eq hdecoder bytes
  have start : (t.reading bytes).Held cols rows := h.of_eq rfl rfl rfl rfl
  have steps := foldlM_eq (fun actions (t : Terminal) => t.Held cols rows ∧
      ∀ action ∈ actions, action.Bounded) (fun _ action _ ht =>
    ⟨ht.1.checkedPerform now (ht.2 action List.mem_cons_self), ht.1.perform now action,
      fun action haction => ht.2 action (List.mem_cons_of_mem _ haction)⟩) ⟨start, bounded⟩
  rw [feed_eq]
  exact bind_eq read (bind_eq steps.1 rfl)

end Held

end Teletype.Terminal
