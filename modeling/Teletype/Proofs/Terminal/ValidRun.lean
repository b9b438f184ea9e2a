import Teletype.Proofs.Terminal.Feed
import Teletype.Proofs.Terminal.ValidScreens

/-!
# Valid terminals: commands

Everything that output can ask for keeps a terminal valid, one lemma for each operation, and so does
output as a whole.
-/

namespace Teletype.Terminal

variable {cols rows : Nat} {t : Terminal}

/-- A terminal of which only the grid in use was changed. -/
theorem Valid.of_grid {u : Terminal} {aspects : List Aspect} (h : t.Valid cols rows)
    (hu : t.Alters aspects u)
    (hapart : Aspect.apart [.screen, .hidden, .tabs, .titleStack] aspects = true)
    (hg : u.grid.Valid u.screen cols rows) : u.Valid cols rows := by
  have screen : u.screen = t.screen := hu.of_apart hapart (a := .screen) (by decide)
  have hidden : u.hidden = t.hidden := hu.of_apart hapart (a := .hidden) (by decide)
  have tabs : u.tabs = t.tabs := hu.of_apart hapart (a := .tabs) (by decide)
  have titles : u.titleStack = t.titleStack := hu.of_apart hapart (a := .titleStack) (by decide)
  have changed : (t.modifyGrid fun _ => u.grid).Valid cols rows :=
    h.modifyGrid fun _ => screen ▸ hg
  obtain ⟨primary, alternate⟩ := screens_eq (u := t.modifyGrid fun _ => u.grid) (t := u)
    ((screen_modifyGrid ..).trans screen.symm) ((hidden_modifyGrid ..).trans hidden.symm)
    (grid_modifyGrid ..)
  have kept := t.alters_grid fun _ => u.grid
  exact changed.of_eq primary.symm alternate.symm (tabs.trans (kept.kept .tabs rfl).symm)
    (titles.trans (kept.kept .titleStack rfl).symm)

theorem Valid.operate (h : t.Valid cols rows) (data : List UInt8) (bell : Bool) :
    (t.operate data bell).Valid cols rows := by
  have altered := t.alters_operate data bell
  have screen : (t.operate data bell).screen = t.screen := altered.kept .screen rfl
  refine h.of_grid altered rfl ?_
  rw [screen]
  rcases t.grid_operate data bell with same | marked | prompt
  · exact same ▸ h.grid
  · exact marked ▸ h.grid.markAllDirty
  · exact prompt ▸ h.grid.modifyRow _ fun _ hr => hr.of_cells rfl

/-! ## Commands -/

theorem Valid.clearTab (h : t.Valid cols rows) (mode : Nat) :
    (t.clearTab mode).Valid cols rows := by
  unfold Terminal.clearTab
  split
  · exact h.of_tabs fun c hc => h.tabs c (List.mem_filter.1 hc).1
  · exact h.of_tabs fun c hc => absurd hc (by simp)
  · exact h.note ..

section

variable {edit : Grid → Nat → Color → Grid}

/-- An edit that keeps every grid valid. -/
def KeepsValid (edit : Grid → Nat → Color → Grid) : Prop :=
  ∀ kind cols rows g n background, Grid.Valid kind cols rows g →
    Grid.Valid kind cols rows (edit g n background)

theorem Valid.editLines (h : t.Valid cols rows) (he : KeepsValid edit) (n : Nat) :
    (t.editLines edit n).Valid cols rows := by
  unfold Terminal.editLines
  refine h.modifyGrid fun hg => ?_
  split
  · exact he _ _ _ _ _ _ hg
  · exact hg

theorem Valid.scrollBy (h : t.Valid cols rows) (he : KeepsValid edit) (n : Nat) :
    (t.scrollBy edit n).Valid cols rows := by
  unfold Terminal.scrollBy
  exact h.modifyGrid fun hg => he _ _ _ _ _ _ hg

theorem Valid.editCells (h : t.Valid cols rows) (he : KeepsValid edit) (n : Nat) :
    (t.editCells edit n).Valid cols rows := by
  unfold Terminal.editCells
  exact h.modifyGrid fun hg => (he _ _ _ _ _ _ hg).clearPending

end

theorem Valid.eraseBy (h : t.Valid cols rows) {erase : Grid → Nat → Color → Reported Grid}
    (he : KeepsValid fun g n background => (erase g n background).value) (mode : Nat) :
    (t.eraseBy erase mode).Valid cols rows := by
  unfold Terminal.eraseBy
  have erased : (t.modifyGrid fun _ => (erase t.grid mode t.rendition.background).value).Valid
      cols rows := h.modifyGrid fun hg => he _ _ _ _ _ _ hg
  exact (erased.of_alters (alters_noteAll ..) rfl).modifyGrid fun hg => hg.clearPending

theorem Valid.chooseRegion (h : t.Valid cols rows) (top bottom : Nat) :
    (t.chooseRegion top bottom).Valid cols rows := by
  unfold Terminal.chooseRegion
  exact .ite ((h.modifyGrid fun hg => hg.setRegion _ _).goTo 0 0) h

/-- What a control function asks for keeps a terminal valid. -/
theorem Valid.run (h : t.Valid cols rows) (now : Instant) (command : Command) :
    (t.run now command).Valid cols rows := by
  cases command with
  | backspace => exact h.backspace
  | carriageReturn => exact h.carriageReturn
  | lineFeed => exact .ite h.lineFeed.carriageReturn h.lineFeed
  | index => exact h.lineFeed
  | reverseIndex => exact h.reverseIndex
  | nextRow => exact h.carriageReturn.lineFeed
  | setTab => exact h.setTab
  | clearTab mode => exact h.clearTab mode
  | tabForward n => exact h.tabForward n
  | tabBackward n => exact h.tabBackward n
  | cursorUp n => exact h.cursorUp n
  | cursorDown n => exact h.cursorDown n
  | cursorRight n => exact h.cursorRight n
  | cursorLeft n => exact h.cursorLeft n
  | cursorNextLine n => exact (h.cursorDown n).carriageReturn
  | cursorPreviousLine n => exact (h.cursorUp n).carriageReturn
  | toColumn col =>
    exact h.modifyGrid (f := fun g => g.setCursor g.cursor.row col) fun hg => hg.setCursor _ _
  | toRow row => exact h.goTo row _
  | toPlace row col => exact h.goTo row col
  | insertChars n => exact h.editCells (fun _ _ _ _ n b hg => hg.insertChars n b) n
  | deleteChars n => exact h.editCells (fun _ _ _ _ n b hg => hg.deleteChars n b) n
  | eraseChars n => exact h.editCells (fun _ _ _ _ n b hg => hg.eraseChars n b) n
  | insertLines n => exact h.editLines (fun _ _ _ _ n b hg => hg.insertLines n b) n
  | deleteLines n => exact h.editLines (fun _ _ _ _ n b hg => hg.deleteLines n b) n
  | eraseDisplay mode => exact h.eraseBy (fun _ _ _ _ n b hg => hg.eraseDisplay n b) mode
  | eraseLine mode => exact h.eraseBy (fun _ _ _ _ n b hg => hg.eraseLine n b) mode
  | scrollUp n => exact h.scrollBy (fun _ _ _ _ n b hg => hg.scrollUp n b) n
  | scrollDown n => exact h.scrollBy (fun _ _ _ _ n b hg => hg.scrollDown n b) n
  | repeatLast n => exact h.repeatLast n
  | setRegion top bottom => exact h.chooseRegion top bottom
  | saveCursor => exact h.saveCursor
  | restoreCursor => exact h.restoreCursor
  | setDecModes numbers on => exact h.foldl (fun _ n ht => ht.setDecMode now on n) numbers
  | saveDecModes numbers => exact h.foldl (fun _ n ht => ht.saveDecMode n) numbers
  | restoreDecModes numbers => exact h.foldl (fun _ n ht => ht.restoreDecMode now n) numbers
  | windowOperation op arg => exact h.windowOperation op arg
  | alignmentTest => exact h.alignmentTest
  | softReset => exact h.softReset
  | hardReset => exact h.hardReset
  | _ => exact h.of_alters (t.alters_run now _) rfl

theorem Valid.perform (h : t.Valid cols rows) (now : Instant) (action : Control.Action) :
    (perform now t action).Valid cols rows := by
  have ht : ({ t with composeAt := none } : Terminal).Valid cols rows := h.of_eq rfl rfl rfl rfl
  cases action with
  | print c => exact h.print c
  | execute | escape | control => exact ht.run now _
  | command data bell => exact ht.operate data bell
  | imageStart | imageData | imageEnd | request => exact h.of_alters (t.alters_perform now _) rfl

/-- Output never makes a terminal invalid. -/
theorem Valid.feed (h : t.Valid cols rows) (bytes : List UInt8) (now : Instant) :
    (t.feed bytes now).Valid cols rows := by
  have read : (t.reading bytes).Valid cols rows := h.of_eq rfl rfl rfl rfl
  exact feed_induction read (fun _ hu action _ => hu.perform now action)
    fun _ _ hu => hu.of_eq rfl rfl rfl rfl

end Teletype.Terminal
