import Teletype.Proofs.Control.Feed
import Teletype.Proofs.Terminal.Alike
import Teletype.Proofs.Terminal.Feed
import Teletype.Proofs.Terminal.ValidRun

/-!
# Terminals that show the same: answers and whole runs

Whatever output asks for, terminals that show the same do the same, and what they answer is the
same.
-/

namespace Teletype

namespace Terminal

namespace Alike

variable {past t u : Terminal}

/-! ## Answers and settings -/

theorem settings (h : Alike past t u) : t.settings = u.settings := by
  unfold Terminal.settings
  rw [h.rendition, h.grid.region, h.cursorShape, h.cursorBlink]

theorem colorOf (h : Alike past t u) (item : ColorItem) : t.colorOf item = u.colorOf item := by
  unfold Terminal.colorOf
  rw [h.colors]

theorem answerStatus (h : Alike past t u) (what : Nat) :
    Alike past (t.answerStatus what) (u.answerStatus what) := by
  unfold Terminal.answerStatus
  rw [h.reportedPosition]
  split
  · exact h.reply rfl
  · exact h.reply rfl
  · exact h.note ..

theorem answerPrivatePosition (h : Alike past t u) :
    Alike past t.answerPrivatePosition u.answerPrivatePosition := by
  unfold Terminal.answerPrivatePosition
  rw [h.reportedPosition]
  exact h.reply rfl

theorem pushTitle (h : Alike past t u) : Alike past t.pushTitle u.pushTitle :=
  { h with
    titles := by
      show (List.take 16 (t.title :: t.titleStack)).length =
        (List.take 16 (u.title :: u.titleStack)).length
      rw [List.length_take, List.length_take, List.length_cons, List.length_cons, h.titles] }

theorem popTitle (h : Alike past t u) : Alike past t.popTitle u.popTitle := by
  have titles := h.titles
  unfold Terminal.popTitle
  cases ht : t.titleStack with
  | nil =>
    rw [ht, List.length_nil] at titles
    rw [List.eq_nil_of_length_eq_zero titles.symm]
    exact h
  | cons title rest =>
    rw [ht] at titles
    obtain ⟨title', rest', hu⟩ := List.exists_cons_of_length_eq_add_one titles.symm
    rw [hu] at titles ⊢
    refine Alike.setTitle ?_ title title'
    exact { h with titles := Nat.succ.inj titles }

theorem ignoreWindowOperation (h : Alike past t u) (op : Nat) :
    Alike past (t.ignoreWindowOperation op) (u.ignoreWindowOperation op) :=
  .ite Iff.rfl (h.note ..) (h.note ..)

theorem windowOperation (h : Alike past t u) (op arg : Nat) :
    Alike past (t.windowOperation op arg) (u.windowOperation op arg) := by
  unfold Terminal.windowOperation
  dsimp only
  rw [h.rows, h.cols, h.setting Config.cellSize fun _ _ => rfl]
  split
  · exact h.reply rfl
  · exact .ite Iff.rfl (h.reply rfl) (h.ignoreWindowOperation _)
  · exact h.reply rfl
  · exact h.reply rfl
  · exact h.reply rfl
  · exact h.reply rfl
  · exact h.reply rfl
  · exact .ite Iff.rfl h.pushTitle (h.ignoreWindowOperation _)
  · exact .ite Iff.rfl h.popTitle (h.ignoreWindowOperation _)
  · exact h.ignoreWindowOperation _

theorem chooseCursor (h : Alike past t u) (style : Nat) :
    Alike past (t.chooseCursor style) (u.chooseCursor style) := by
  have chosen (shape : CursorShape) :
      Alike past { t with cursorShape := shape, cursorBlink := style % 2 = 1 }
        { u with cursorShape := shape, cursorBlink := style % 2 = 1 } := { h with
    cursorShape := rfl
    cursorBlink := rfl }
  unfold Terminal.chooseCursor
  split
  · exact { h with
      cursorShape := h.setting Config.cursorShape fun _ _ => rfl
      cursorBlink := h.setting Config.cursorBlink fun _ _ => rfl }
  · exact chosen .block
  · exact chosen .block
  · exact chosen .underline
  · exact chosen .underline
  · exact chosen .beam
  · exact chosen .beam
  · exact h.note ..

theorem give (h : Alike past t u) (r : Reported Reply) : Alike past (t.give r) (u.give r) :=
  (h.reply rfl).noteAll _ _

theorem serve (h : Alike past t u) (now : Instant) (r : Control.DeviceRequest) :
    Alike past (serve now t r) (serve now u r) := by
  cases r with
  | setting name =>
    unfold Terminal.serve
    rw [h.settings]
    exact h.give _
  | capabilities names =>
    unfold Terminal.serve
    rw [h.setting Config.term fun _ _ => rfl]
    exact h.foldl (fun r ht => ht.give r) _
  | beginSync => exact h.beginSync now
  | endSync => exact h.endSync

/-! ## Operating system commands -/

theorem repaint (h : Alike past t u) : Alike past t.repaint u.repaint :=
  h.modifyGrid fun hg => hg.markAllDirty

theorem setColor (h : Alike past t u) (item : ColorItem) (value : Nat) :
    Alike past (t.setColor item value) (u.setColor item value) := by
  unfold Terminal.setColor
  dsimp only
  rw [h.colors]
  cases item with
  | palette index => exact Alike.repaint { h with colors := rfl }
  | foreground => exact Alike.repaint { h with colors := rfl }
  | background => exact Alike.repaint { h with colors := rfl }
  | cursor => exact { h with colors := rfl }

theorem colorCommand (h : Alike past t u) (item : ColorItem) (payload : List UInt8)
    (terminator : Terminator) :
    Alike past (t.colorCommand item payload terminator)
      (u.colorCommand item payload terminator) := by
  unfold Terminal.colorCommand
  refine .ite Iff.rfl (h.reply (by rw [h.colorOf])) ?_
  split
  · exact h.setColor item _
  · exact h
  · exact { h with fault := (Bool.or_true _).symm }

theorem paletteCommand (h : Alike past t u) (terminator : Terminator) (items : List (List UInt8)) :
    Alike past (paletteCommand terminator t items) (paletteCommand terminator u items) := by
  fun_induction Terminal.paletteCommand terminator t items generalizing u with
  | case1 t index payload rest hindex =>
    rw [Terminal.paletteCommand, hindex]
    exact h
  | case2 t index payload rest i hindex hi =>
    rw [Terminal.paletteCommand, hindex]
    dsimp only
    rw [if_pos hi]
    exact h.note ..
  | case3 t index payload rest i hindex hi ih =>
    rw [Terminal.paletteCommand, hindex]
    dsimp only
    rw [if_neg hi]
    exact ih (h.colorCommand _ _ _)
  | case4 t items hitems =>
    rw [Terminal.paletteCommand]
    · exact h
    · exact hitems

theorem resetPaletteEntry (h : Alike past t u) (index : List UInt8) :
    Alike past (t.resetPaletteEntry index) (u.resetPaletteEntry index) := by
  unfold Terminal.resetPaletteEntry
  dsimp only
  rw [h.setting Config.palette fun _ _ => rfl, h.colors]
  split
  · exact h.note ..
  · exact .ite Iff.rfl (h.note ..) { h with colors := rfl }

theorem resetPalette (h : Alike past t u) (payload : List UInt8) :
    Alike past (t.resetPalette payload) (u.resetPalette payload) := by
  unfold Terminal.resetPalette
  dsimp only
  rw [h.setting Config.palette fun _ _ => rfl, h.colors]
  refine Alike.repaint (.ite Iff.rfl { h with colors := rfl } ?_)
  exact h.foldl (fun index ht => ht.resetPaletteEntry index) _

theorem directoryCommand (h : Alike past t u) (payload : List UInt8) :
    Alike past (t.directoryCommand payload) (u.directoryCommand payload) := by
  unfold Terminal.directoryCommand
  dsimp only
  split
  · exact h.note ..
  · refine .ite ?_ { h with } (h.note ..)
    rw [isLocal, isLocal, h.setting Config.hostname fun _ _ => rfl]

theorem linkCommand (h : Alike past t u) (payload : List UInt8) :
    Alike past (t.linkCommand payload) (u.linkCommand payload) := by
  unfold Terminal.linkCommand
  split
  · exact h.note ..
  · dsimp only
    rw [h.links]
    refine Alike.noteAll ?_ _ _
    exact { h with
      links := rfl
      link := rfl }

theorem clipboardCommand (h : Alike past t u) (payload : List UInt8) (terminator : Terminator) :
    Alike past (t.clipboardCommand payload terminator) (u.clipboardCommand payload terminator) := by
  unfold Terminal.clipboardCommand
  split
  · exact h.note ..
  · refine .ite Iff.rfl (h.reply (by rw [h.clipboard])) ?_
    split
    · exact { h with clipboard := rfl }
    · exact h.note ..

theorem notifyCommand (h : Alike past t u) (payload : List UInt8) :
    Alike past (t.notifyCommand payload) (u.notifyCommand payload) :=
  .ite Iff.rfl (h.emit _ _) (h.note ..)

/-- Notifications that are being put together may differ. -/
theorem partCommand (h : Alike past t u) (payload : List UInt8) :
    Alike past (t.partCommand payload) (u.partCommand payload) :=
  .ite Iff.rfl { h with } { h with }

theorem promptCommand (h : Alike past t u) (payload : List UInt8) :
    Alike past (t.promptCommand payload) (u.promptCommand payload) := by
  unfold Terminal.promptCommand
  rw [h.cursor]
  refine .ite Iff.rfl (h.modifyGrid fun hg => ?_) h
  exact hg.modifyRow _ (Row.congruent_of_blind fun _ _ _ => rfl)

theorem operate (h : Alike past t u) (data : List UInt8) (bell : Bool) :
    Alike past (t.operate data bell) (u.operate data bell) := by
  unfold Terminal.operate
  generalize (Text.cutAt? 0x3b data).getD (data, []) = parts
  dsimp only
  rw [h.colors]
  split
  · exact h.note ..
  · split
    · exact h.setTitle _ _
    · exact h.setTitle _ _
    · exact h
    · exact h
    · exact h.paletteCommand _ _
    · exact h.directoryCommand _
    · exact h.linkCommand _
    · exact h.emit _ _
    · exact h.colorCommand _ _ _
    · exact h.colorCommand _ _ _
    · exact h.colorCommand _ _ _
    · exact { h with colors := rfl }
    · exact h.clipboardCommand _ _
    · exact h.partCommand _
    · exact h.resetPalette _
    · rw [h.setting Config.foreground fun _ _ => rfl]
      exact { h with colors := rfl }
    · rw [h.setting Config.background fun _ _ => rfl]
      exact { h with colors := rfl }
    · exact { h with colors := rfl }
    · exact h.promptCommand _
    · exact h.emit _ _
    · exact h.notifyCommand _
    · exact h.note ..

/-! ## Commands -/

/-- The grid that is put in may be made of the one that is there. -/
theorem modifyGrid_const (t : Terminal) (f : Grid → Grid) :
    (t.modifyGrid fun _ => f t.grid) = t.modifyGrid f := by
  unfold Terminal.modifyGrid Terminal.grid
  cases t.screen <;> rfl

theorem modifyGridReported (h : Alike past t u) {f f' : Grid → Reported Grid}
    (hf : ∀ {format g g'}, Grid.Alike format g g' → Grid.Alike format (f g).value (f' g').value) :
    Alike past (t.modifyGridReported f) (u.modifyGridReported f') := by
  refine Alike.noteAll ?_ _ _
  rw [modifyGrid_const t fun g => (f g).value, modifyGrid_const u fun g => (f' g).value]
  exact h.modifyGrid hf

theorem clearTab (h : Alike past t u) (mode : Nat) :
    Alike past (t.clearTab mode) (u.clearTab mode) := by
  unfold Terminal.clearTab
  dsimp only
  rw [h.cursor, h.tabs]
  split
  · exact { h with tabs := rfl }
  · exact { h with tabs := rfl }
  · exact h.note ..

section

variable {edit : Grid → Nat → Color → Grid}

theorem editLines (h : Alike past t u)
    (he : ∀ {format g g'} n background, Grid.Alike format g g' →
      Grid.Alike format (edit g n background) (edit g' n background)) (n : Nat) :
    Alike past (t.editLines edit n) (u.editLines edit n) := by
  unfold Terminal.editLines
  rw [h.rendition]
  refine h.modifyGrid fun hg => ?_
  rw [← hg.region, ← hg.cursor]
  exact .ite Iff.rfl (he _ _ hg) hg

theorem scrollBy (h : Alike past t u)
    (he : ∀ {format g g'} n background, Grid.Alike format g g' →
      Grid.Alike format (edit g n background) (edit g' n background)) (n : Nat) :
    Alike past (t.scrollBy edit n) (u.scrollBy edit n) := by
  unfold Terminal.scrollBy
  rw [h.rendition]
  refine h.modifyGrid fun hg => ?_
  rw [← hg.region]
  exact he _ _ hg

theorem editCells (h : Alike past t u)
    (he : ∀ {format g g'} n background, Grid.Alike format g g' →
      Grid.Alike format (edit g n background) (edit g' n background)) (n : Nat) :
    Alike past (t.editCells edit n) (u.editCells edit n) := by
  unfold Terminal.editCells
  rw [h.rendition]
  exact h.modifyGrid fun hg => (he _ _ hg).clearPending

end

theorem eraseBy (h : Alike past t u) {erase : Grid → Nat → Color → Reported Grid}
    (he : ∀ {format g g'} mode background, Grid.Alike format g g' →
      Grid.Alike format (erase g mode background).value (erase g' mode background).value)
    (mode : Nat) :
    Alike past (t.eraseBy erase mode) (u.eraseBy erase mode) := by
  unfold Terminal.eraseBy
  rw [h.rendition]
  exact (h.modifyGridReported fun hg => he _ _ hg).modifyGrid fun hg => hg.clearPending

theorem chooseRegion (h : Alike past t u) (top bottom : Nat) :
    Alike past (t.chooseRegion top bottom) (u.chooseRegion top bottom) := by
  unfold Terminal.chooseRegion
  rw [h.grid.rows]
  exact .ite Iff.rfl (Alike.goTo (h.modifyGrid fun hg => hg.setRegion _ _) 0 0) h

theorem selectRendition (h : Alike past t u) (params : Control.Params) :
    Alike past (t.selectRendition params) (u.selectRendition params) := by
  unfold Terminal.selectRendition
  rw [h.rendition]
  refine Alike.noteAll ?_ _ _
  exact { h with rendition := rfl }

theorem run (h : Alike past t u) (now : Instant) (command : Command) :
    Alike past (t.run now command) (u.run now command) := by
  cases command with
  | nothing => exact h
  | bell => exact { h with }
  | backspace => exact h.backspace
  | carriageReturn => exact h.carriageReturn
  | lineFeed => exact .ite (by rw [h.modes]) h.lineFeed.carriageReturn h.lineFeed
  | index => exact h.lineFeed
  | reverseIndex => exact h.reverseIndex
  | nextRow => exact h.carriageReturn.lineFeed
  | setTab => exact h.setTab
  | clearTab mode => exact h.clearTab mode
  | tabForward n => exact h.tabForward n
  | tabBackward n => exact h.tabBackward n
  | cursorUp n => exact h.cursorUp n
  | cursorDown n => exact h.cursorDown n
  | cursorRight n => exact h.moveCursor fun c => (c.row, c.col + n)
  | cursorLeft n => exact h.moveCursor fun c => (c.row, c.col - n)
  | cursorNextLine n => exact (h.cursorDown n).carriageReturn
  | cursorPreviousLine n => exact (h.cursorUp n).carriageReturn
  | toColumn col => exact h.moveCursor fun c => (c.row, col)
  | toRow row =>
    unfold Terminal.run
    rw [h.cursor]
    exact h.goTo row _
  | toPlace row col => exact h.goTo row col
  | insertChars n => exact h.editCells (fun n background hg => hg.insertChars n background) n
  | deleteChars n => exact h.editCells (fun n background hg => hg.deleteChars n background) n
  | eraseChars n => exact h.editCells (fun n background hg => hg.eraseChars n background) n
  | insertLines n => exact h.editLines (fun n background hg => hg.insertLines n background) n
  | deleteLines n => exact h.editLines (fun n background hg => hg.deleteLines n background) n
  | eraseDisplay mode =>
    exact h.eraseBy (fun mode background hg => hg.eraseDisplay mode background) mode
  | eraseLine mode => exact h.eraseBy (fun mode background hg => hg.eraseLine mode background) mode
  | scrollUp n => exact h.scrollBy (fun n background hg => hg.scrollUp n background) n
  | scrollDown n => exact h.scrollBy (fun n background hg => hg.scrollDown n background) n
  | repeatLast n => exact h.repeatLast n
  | setRegion top bottom => exact h.chooseRegion top bottom
  | saveCursor => exact h.saveCursor
  | restoreCursor => exact h.restoreCursor
  | selectCharset slot => exact { h with charsets := congrArg (Charsets.select · slot) h.charsets }
  | shiftOnce slot => exact { h with charsets := congrArg (Charsets.shiftOnce · slot) h.charsets }
  | designate slot set =>
    exact { h with charsets := congrArg (Charsets.designate · slot set) h.charsets }
  | appKeypad on => exact h.switchDec _ on
  | selectRendition params => exact h.selectRendition params
  | setAnsiModes numbers on => exact h.foldl (fun n ht => ht.setAnsiMode on n) numbers
  | setDecModes numbers on => exact h.foldl (fun n ht => ht.setDecMode now on n) numbers
  | saveDecModes numbers => exact h.foldl (fun n ht => ht.saveDecMode n) numbers
  | restoreDecModes numbers => exact h.foldl (fun n ht => ht.restoreDecMode now n) numbers
  | cursorStyle style => exact h.chooseCursor style
  | windowOperation op arg => exact h.windowOperation op arg
  | alignmentTest => exact h.alignmentTest
  | softReset => exact h.softReset
  | hardReset => exact h.hardReset
  | askPrimaryAttributes =>
    exact h.reply (congrArg Reply.primaryAttributes (h.setting Config.sixel fun _ _ => rfl))
  | askSecondaryAttributes | askTertiaryAttributes | askVersion => exact h.reply rfl
  | askStatus what => exact h.answerStatus what
  | askPrivatePosition => exact h.answerPrivatePosition
  | askDecMode number => exact h.reply (by rw [h.decModeStatus])
  | askAnsiMode number => exact h.reply (by rw [h.modes])
  | marginsUnsupported s | overflowed s | unknownEscape s | unknownSequence s => exact h.note ..
  | unknownControl byte => exact h.note ..

theorem act (h : Alike past t u) (now : Instant) (action : Control.Action) :
    Alike past (act now t action) (act now u action) := by
  cases action with
  | print c => exact h
  | execute byte => exact h.run now _
  | escape s => exact h.run now _
  | control s => exact h.run now _
  | command data bell => exact h.operate data bell
  | imageStart p1 p2 p3 => exact { h with }
  | imageData byte => exact { h with }
  | imageEnd => exact { h with }
  | request r => exact h.serve now r

/-- An action does the same to terminals that show the same. -/
theorem perform (h : Alike past t u) (now : Instant) (action : Control.Action) :
    Alike past (perform now t action) (perform now u action) := by
  unfold Terminal.perform
  split
  · exact h.print _
  · refine Alike.act ?_ now action
    exact { h with composeAt := rfl }

/-- From where the decoder is after it read on, both go on alike. -/
theorem reading (h : Alike past t u) (bytes : List UInt8) :
    Alike { past with decoder := (t.reading bytes).decoder } (t.reading bytes)
      (u.reading bytes) := by
  have state : t.decoder.state = u.decoder.state := h.state.trans h.state'.symm
  have sixel : t.decoder.sixel = u.decoder.sixel := h.sixel.trans h.sixel'.symm
  have sixel' : (u.decoder.feed bytes).1.sixel = (t.decoder.feed bytes).1.sixel := by
    rw [Control.Decoder.sixel_feed, Control.Decoder.sixel_feed, sixel]
  exact { h with
    sixel := rfl
    sixel' := sixel'
    state := rfl
    state' := (Control.Decoder.feed_congr state sixel bytes).2.symm
    composeAt := h.composeAt }

/-- A deadline for drawing is not a synchronized update. -/
theorem onOutput (h : Alike past t u) (now : Instant) (p p' : Bool) :
    Alike past (if p then t else { t with schedule := t.schedule.onOutput now })
      (if p' then u else { u with schedule := u.schedule.onOutput now }) := by
  have onTime := Schedule.isSyncing_onOutput
  split <;> split
  · exact h
  · exact { h with syncing := h.syncing.trans (onTime u.schedule now).symm }
  · exact { h with syncing := (onTime t.schedule now).trans h.syncing }
  · exact { h with
      syncing := (onTime t.schedule now).trans (h.syncing.trans (onTime u.schedule now).symm) }

theorem feed (h : Alike past t u) (bytes : List UInt8) (now : Instant) :
    Alike { past with decoder := (t.reading bytes).decoder } (t.feed bytes now)
      (u.feed bytes now) := by
  have state : t.decoder.state = u.decoder.state := h.state.trans h.state'.symm
  have actions := (Control.Decoder.feed_congr state (h.sixel.trans h.sixel'.symm) bytes).1
  rw [feed_eq, feed_eq, actions]
  exact Alike.onOutput ((h.reading bytes).foldl (fun action ht => ht.perform now action) _) now _ _

end Alike

end Terminal

end Teletype
