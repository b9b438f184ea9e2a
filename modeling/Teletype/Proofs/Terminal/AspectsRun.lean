import Teletype.Proofs.Terminal.Aspects
import Teletype.Proofs.Terminal.Feed

/-!
# What a command can alter

Answers and operating system commands alter little of a terminal. With them there is a table of all
commands and of all actions that output completes; that a terminal keeps an aspect is then read off
the table.
-/

namespace Teletype

/-- What a command can alter. -/
def Command.alters : Command → List Terminal.Aspect
  | .nothing | .bell | .marginsUnsupported _ | .overflowed _ | .unknownControl _
  | .unknownEscape _ | .unknownSequence _ => []
  | .backspace | .carriageReturn | .tabForward _ | .tabBackward _ | .cursorUp _ | .cursorDown _
  | .cursorRight _ | .cursorLeft _ | .cursorNextLine _ | .cursorPreviousLine _ | .toColumn _
  | .toRow _ | .toPlace _ _ => [.grid .cursor]
  | .lineFeed | .index | .reverseIndex | .nextRow | .insertChars _ | .deleteChars _ | .eraseChars _
  | .insertLines _ | .deleteLines _ | .eraseDisplay _ | .eraseLine _ => Terminal.Aspect.editing
  | .scrollUp _ | .scrollDown _ => [.grid .text, .grid .ring]
  | .setTab | .clearTab _ => [.tabs]
  | .repeatLast _ => Terminal.Aspect.glyphs
  | .setRegion _ _ => [.grid .region, .grid .cursor]
  | .saveCursor => [.grid .saved]
  | .restoreCursor => Terminal.Aspect.restored
  | .selectCharset _ | .shiftOnce _ | .designate _ _ => [.charsets]
  | .appKeypad _ => [.modes, .flag .appKeypad]
  | .selectRendition _ => [.rendition]
  | .setAnsiModes _ _ => [.modes]
  | .setDecModes _ _ | .restoreDecModes _ => Terminal.Aspect.switched
  | .saveDecModes _ => [.grid .saved, .savedModes]
  | .cursorStyle _ => [.cursorStyle]
  | .windowOperation _ _ => [.titleStack, .replies]
  | .alignmentTest => .grid .region :: Terminal.Aspect.editing
  | .softReset => Terminal.Aspect.softReset
  | .hardReset => Terminal.Aspect.hardReset
  | .askPrimaryAttributes | .askSecondaryAttributes | .askTertiaryAttributes | .askVersion
  | .askStatus _ | .askPrivatePosition | .askDecMode _ | .askAnsiMode _ => [.replies]

namespace Terminal

variable (t : Terminal)

/-! ## Answers -/

theorem alters_setTitle (title : String) : t.Alters [] (t.setTitle title) := by
  refine .ite (.refl _ t) (.trans (u := { t with title := title }) ⟨fun a _ => ?_⟩ (alters_emit ..))
  cases a <;> rfl

theorem alters_answerStatus (what : Nat) : t.Alters [.replies] (t.answerStatus what) := by
  unfold answerStatus
  split
  · exact t.alters_reply _
  · exact t.alters_reply _
  · exact (t.alters_note ..).mono rfl

theorem alters_popTitle : t.Alters [.titleStack] t.popTitle := by
  unfold popTitle
  split
  · exact .refl _ t
  · exact (t.alters_titleStack _).trans ((alters_setTitle ..).mono rfl)

theorem alters_windowOperation (op arg : Nat) :
    t.Alters [.titleStack, .replies] (t.windowOperation op arg) := by
  have replied (r : Reply) : t.Alters [.titleStack, .replies] (t.reply r) :=
    (t.alters_reply r).mono rfl
  have ignored : t.Alters [.titleStack, .replies] (t.ignoreWindowOperation op) :=
    .ite ((t.alters_note ..).mono rfl) ((t.alters_note ..).mono rfl)
  unfold windowOperation
  dsimp only
  split
  · exact replied _
  · exact .ite (replied _) ignored
  · exact replied _
  · exact replied _
  · exact replied _
  · exact replied _
  · exact replied _
  · exact .ite ((t.alters_titleStack _).mono rfl) ignored
  · exact .ite (t.alters_popTitle.mono rfl) ignored
  · exact ignored

theorem alters_chooseCursor (style : Nat) : t.Alters [.cursorStyle] (t.chooseCursor style) := by
  unfold chooseCursor
  dsimp only
  split
  · exact t.alters_cursorStyle ..
  · exact t.alters_cursorStyle ..
  · exact t.alters_cursorStyle ..
  · exact t.alters_cursorStyle ..
  · exact t.alters_cursorStyle ..
  · exact t.alters_cursorStyle ..
  · exact t.alters_cursorStyle ..
  · exact (t.alters_note ..).mono rfl

theorem alters_give (r : Reported Reply) : t.Alters [.replies] (t.give r) :=
  (t.alters_reply r.value).trans ((alters_noteAll ..).mono rfl)

theorem alters_serve (now : Instant) (r : Control.DeviceRequest) :
    t.Alters [.replies, .schedule] (serve now t r) := by
  cases r with
  | setting name => exact (t.alters_give _).mono rfl
  | capabilities names => exact (alters_foldl (fun t r => t.alters_give r) _ t).mono rfl
  | beginSync => exact (t.alters_beginSync now).mono rfl
  | endSync => exact t.alters_endSync.mono rfl

/-! ## Operating system commands -/

/-- What a change of colours can alter. -/
def Aspect.painting : List Aspect := [.colors, .cursorColor, .grid .ring]

theorem alters_setColor (item : ColorItem) (value : Nat) :
    t.Alters Aspect.painting (t.setColor item value) := by
  have colored (colors : Colors) : t.Alters Aspect.painting { t with colors := colors } :=
    (t.alters_colors colors).mono rfl
  have painted (u : Terminal) : u.Alters Aspect.painting u.repaint := u.alters_repaint.mono rfl
  cases item with
  | palette | foreground | background => exact (colored _).trans (painted _)
  | cursor => exact colored _

theorem alters_colorCommand (item : ColorItem) (payload : List UInt8) (terminator : Terminator) :
    t.Alters (.replies :: Aspect.painting) (t.colorCommand item payload terminator) := by
  refine .ite ((t.alters_reply _).mono rfl) ?_
  split
  · exact (t.alters_setColor ..).mono rfl
  · exact .refl _ t
  · refine ⟨fun a _ => ?_⟩
    cases a <;> rfl

theorem alters_paletteCommand (terminator : Terminator) (items : List (List UInt8)) :
    t.Alters (.replies :: Aspect.painting) (paletteCommand terminator t items) := by
  fun_induction paletteCommand terminator t items with
  | case1 => exact .refl _ _
  | case2 => exact (alters_note ..).mono rfl
  | case3 t _ _ _ _ _ _ ih => exact (t.alters_colorCommand ..).trans ih
  | case4 => exact .refl _ _

theorem alters_resetPaletteEntry (index : List UInt8) :
    t.Alters [.colors, .cursorColor] (t.resetPaletteEntry index) := by
  unfold resetPaletteEntry
  dsimp only
  split
  · exact (t.alters_note ..).mono rfl
  · exact .ite ((t.alters_note ..).mono rfl) (t.alters_colors _)

/-- The palette is reset before the screen is marked. -/
theorem resetPalette_eq (payload : List UInt8) :
    ∃ u, t.Alters [.colors, .cursorColor] u ∧ t.resetPalette payload = u.repaint :=
  ⟨_, .ite (t.alters_colors _) (alters_foldl (fun t index => t.alters_resetPaletteEntry index) _ t),
    rfl⟩

theorem alters_resetPalette (payload : List UInt8) :
    t.Alters Aspect.painting (t.resetPalette payload) := by
  obtain ⟨u, hu, reset⟩ := t.resetPalette_eq payload
  exact reset ▸ (hu.mono rfl).trans (u.alters_repaint.mono rfl)

theorem alters_directoryCommand (payload : List UInt8) :
    t.Alters [] (t.directoryCommand payload) := by
  unfold directoryCommand
  dsimp only
  split
  · exact t.alters_note ..
  · refine .ite ⟨fun a _ => ?_⟩ (t.alters_note ..)
    cases a <;> rfl

theorem alters_linkCommand (payload : List UInt8) :
    t.Alters [.tables, .link] (t.linkCommand payload) := by
  unfold linkCommand
  split
  · exact (t.alters_note ..).mono rfl
  · exact (t.alters_links _ _).trans ((alters_noteAll ..).mono rfl)

theorem alters_clipboardCommand (payload : List UInt8) (terminator : Terminator) :
    t.Alters [.replies] (t.clipboardCommand payload terminator) := by
  unfold clipboardCommand
  split
  · exact (t.alters_note ..).mono rfl
  · refine .ite (t.alters_reply _) ?_
    split
    · refine ⟨fun a _ => ?_⟩
      cases a <;> rfl
    · exact (t.alters_note ..).mono rfl

theorem alters_partCommand (payload : List UInt8) : t.Alters [] (t.partCommand payload) := by
  refine .ite ⟨fun a _ => ?_⟩ ⟨fun a _ => ?_⟩ <;> cases a <;> rfl

theorem alters_notifyCommand (payload : List UInt8) : t.Alters [] (t.notifyCommand payload) :=
  .ite (t.alters_emit _) (t.alters_note ..)

theorem alters_promptCommand (payload : List UInt8) :
    t.Alters [.grid .text, .grid .ring] (t.promptCommand payload) :=
  .ite (alters_modifyGrid fun g => Grid.alters_of_bearings (g.bearings_modifyRow ..)) (.refl _ t)

/-! ### The grid -/

theorem grid_setColor (item : ColorItem) (value : Nat) :
    (t.setColor item value).grid = t.grid ∨
      (t.setColor item value).grid = t.grid.markAllDirty := by
  cases item with
  | palette | foreground | background => exact .inr (grid_modifyGrid _ _)
  | cursor => exact .inl rfl

theorem grid_colorCommand (item : ColorItem) (payload : List UInt8) (terminator : Terminator) :
    (t.colorCommand item payload terminator).grid = t.grid ∨
      (t.colorCommand item payload terminator).grid = t.grid.markAllDirty := by
  unfold colorCommand
  split
  · exact .inl rfl
  · split
    · exact t.grid_setColor item _
    · exact .inl rfl
    · exact .inl rfl

theorem grid_paletteCommand (terminator : Terminator) (items : List (List UInt8)) :
    (paletteCommand terminator t items).grid = t.grid ∨
      (paletteCommand terminator t items).grid = t.grid.markAllDirty := by
  fun_induction paletteCommand terminator t items with
  | case1 | case2 | case4 => exact .inl rfl
  | case3 t index payload rest i _ _ ih =>
    rcases t.grid_colorCommand (.palette i) payload terminator with first | first
    · rwa [first] at ih
    · rw [first, Grid.markAllDirty_markAllDirty] at ih
      exact .inr (ih.elim id id)

theorem grid_resetPalette (payload : List UInt8) :
    (t.resetPalette payload).grid = t.grid.markAllDirty := by
  obtain ⟨u, hu, reset⟩ := t.resetPalette_eq payload
  rw [reset, repaint, grid_modifyGrid, hu.grid rfl]

/-! ### All of them -/

/-- An operating system command that marks the cursor's row as the start of a prompt. -/
def marksPrompt (data : List UInt8) : Bool :=
  let (digits, payload) := (Text.cutAt? 0x3b data).getD (data, [])
  match number? digits with
  | some 133 => payload.head? = some 0x41
  | _ => false

/-- What operating system commands can alter, unless they mark a prompt. -/
def Aspect.ordered : List Aspect := [.tables, .link, .replies] ++ painting

/-- Between two states a command was carried out that leaves the grid alone or marks all of its
rows. Only a command about links has to do with the tables. -/
structure Orders (t u : Terminal) : Prop where
  alters : t.Alters (.replies :: Aspect.painting) u ∨ ∃ payload, u = t.linkCommand payload
  grid : u.grid = t.grid ∨ u.grid = t.grid.markAllDirty

theorem Orders.of_alters {t u : Terminal} {aspects : List Aspect} (h : t.Alters aspects u)
    (hordered : aspects.all (Aspect.replies :: Aspect.painting).contains = true)
    (hpicture : Aspect.apart Aspect.picture aspects = true) : t.Orders u :=
  ⟨.inl (h.mono hordered), .inl (h.grid hpicture)⟩

theorem Orders.ordered {t u : Terminal} (h : t.Orders u) : t.Alters Aspect.ordered u := by
  rcases h.alters with painted | ⟨payload, linked⟩
  · exact painted.mono rfl
  · exact linked ▸ (t.alters_linkCommand payload).mono rfl

theorem orders_operate {data : List UInt8} (h : marksPrompt data = false) (bell : Bool) :
    t.Orders (t.operate data bell) := by
  have colored (payload : List UInt8) (terminator : Terminator) (item : ColorItem) :
      t.Orders (t.colorCommand item payload terminator) :=
    ⟨.inl (t.alters_colorCommand ..), t.grid_colorCommand ..⟩
  unfold marksPrompt at h
  unfold operate
  generalize (Text.cutAt? 0x3b data).getD (data, []) = parts at h ⊢
  dsimp only at h ⊢
  split
  · exact .of_alters (t.alters_note ..) rfl rfl
  · rename_i command hcommand
    rw [hcommand] at h
    split
    · exact .of_alters (t.alters_setTitle _) rfl rfl
    · exact .of_alters (t.alters_setTitle _) rfl rfl
    · exact .of_alters (.refl [] t) rfl rfl
    · exact .of_alters (.refl [] t) rfl rfl
    · exact ⟨.inl (t.alters_paletteCommand ..), t.grid_paletteCommand ..⟩
    · exact .of_alters (t.alters_directoryCommand _) rfl rfl
    · exact ⟨.inr ⟨_, rfl⟩, .inl ((t.alters_linkCommand _).grid rfl)⟩
    · exact .of_alters (t.alters_emit _) rfl rfl
    · exact colored ..
    · exact colored ..
    · exact colored ..
    · exact ⟨.inl ⟨fun a _ => by cases a <;> rfl⟩, .inl rfl⟩
    · exact .of_alters (t.alters_clipboardCommand ..) rfl rfl
    · exact .of_alters (t.alters_partCommand _) rfl rfl
    · exact ⟨.inl ((t.alters_resetPalette _).mono rfl), .inr (t.grid_resetPalette _)⟩
    · exact .of_alters (t.alters_colors _) rfl rfl
    · exact .of_alters (t.alters_colors _) rfl rfl
    · exact .of_alters (t.alters_colors _) rfl rfl
    · rw [promptCommand, if_neg (of_decide_eq_false h)]
      exact .of_alters (.refl [] t) rfl rfl
    · exact .of_alters (t.alters_emit _) rfl rfl
    · exact .of_alters (t.alters_notifyCommand _) rfl rfl
    · exact .of_alters (t.alters_note ..) rfl rfl

theorem promptCommand_eq {payload : List UInt8} (h : payload.head? = some 0x41) :
    t.promptCommand payload = t.modifyGrid (·.modifyRow t.cursor.row ({ · with prompt := true })) :=
  if_pos h

theorem operate_of_marksPrompt {data : List UInt8} (h : marksPrompt data = true) (bell : Bool) :
    t.operate data bell = t.promptCommand [0x41] := by
  unfold marksPrompt at h
  unfold operate
  generalize (Text.cutAt? 0x3b data).getD (data, []) = parts at h ⊢
  dsimp only at h ⊢
  split at h
  · rename_i hnumber
    rw [hnumber]
    exact (t.promptCommand_eq (of_decide_eq_true h)).trans (t.promptCommand_eq rfl).symm
  · exact absurd h Bool.false_ne_true

/-- What operating system commands can alter. -/
def Aspect.operating : List Aspect := .grid .text :: ordered

theorem alters_operate (data : List UInt8) (bell : Bool) :
    t.Alters Aspect.operating (t.operate data bell) := by
  cases h : marksPrompt data with
  | false => exact (t.orders_operate h bell).ordered.mono rfl
  | true => exact t.operate_of_marksPrompt h bell ▸ (t.alters_promptCommand _).mono rfl

/-- An operating system command leaves the grid alone, or marks all of its rows, or marks the
cursor's row as the start of a prompt. -/
theorem grid_operate (data : List UInt8) (bell : Bool) :
    (t.operate data bell).grid = t.grid ∨ (t.operate data bell).grid = t.grid.markAllDirty ∨
      (t.operate data bell).grid =
        t.grid.modifyRow t.cursor.row ({ · with prompt := true }) := by
  cases h : marksPrompt data with
  | false => exact (t.orders_operate h bell).grid.imp_right .inl
  | true =>
    rw [t.operate_of_marksPrompt h bell, t.promptCommand_eq rfl]
    exact .inr (.inr (grid_modifyGrid ..))

/-! ## Commands -/

theorem alters_setTab : t.Alters [.tabs] t.setTab := .ite (.refl _ t) (t.alters_tabs _)

theorem alters_clearTab (mode : Nat) : t.Alters [.tabs] (t.clearTab mode) := by
  unfold clearTab
  split
  · exact t.alters_tabs _
  · exact t.alters_tabs _
  · exact (t.alters_note ..).mono rfl

theorem alters_chooseRegion (top bottom : Nat) :
    t.Alters [.grid .region, .grid .cursor] (t.chooseRegion top bottom) := by
  have chosen (top bottom : Nat) :
      t.Alters [.grid .region, .grid .cursor] (t.modifyGrid (·.setRegion top bottom)) :=
    alters_modifyGrid fun g => (g.alters_setRegion top bottom).mono rfl
  exact .ite ((chosen _ _).trans ((alters_goTo ..).mono rfl)) (.refl _ t)

theorem alters_selectRendition (params : Control.Params) :
    t.Alters [.rendition] (t.selectRendition params) :=
  (t.alters_rendition _).trans ((alters_noteAll ..).mono rfl)

section

variable {edit : Grid → Nat → Color → Grid}

theorem alters_editLines
    (h : ∀ (g : Grid) n background, g.Alters Aspect.editing (edit g n background)) (n : Nat) :
    t.Alters Aspect.editing (t.editLines edit n) := by
  unfold editLines
  exact alters_modifyGrid fun g => .ite (h ..) (.refl _ g)

theorem alters_editCells (h : ∀ g n background, (edit g n background).bearings = g.bearings)
    (n : Nat) : t.Alters Aspect.editing (t.editCells edit n) := by
  unfold editCells
  refine alters_modifyGrid fun g => ?_
  exact ((Grid.alters_of_bearings (h ..)).mono rfl).trans ((Grid.alters_cursor ..).mono rfl)

theorem alters_scrollBy (h : ∀ g n background, (edit g n background).bearings = g.bearings)
    (n : Nat) : t.Alters [.grid .text, .grid .ring] (t.scrollBy edit n) := by
  unfold scrollBy
  exact alters_modifyGrid fun g => Grid.alters_of_bearings (h ..)

end

theorem alters_eraseBy {erase : Grid → Nat → Color → Reported Grid}
    (h : ∀ g mode background, (erase g mode background).value.bearings = g.bearings) (mode : Nat) :
    t.Alters Aspect.editing (t.eraseBy erase mode) := by
  have erased : t.Alters Aspect.editing
      (t.modifyGrid fun _ => (erase t.grid mode t.rendition.background).value) :=
    alters_modifyGrid_of_grid ((Grid.alters_of_bearings (h ..)).mono rfl)
  exact (erased.trans ((alters_noteAll ..).mono rfl)).trans ((alters_clearPending _).mono rfl)

/-- A command alters nothing but what the table says. -/
theorem alters_run (now : Instant) (command : Command) :
    t.Alters command.alters (t.run now command) := by
  cases command with
  | nothing => exact .refl _ t
  | bell => exact ⟨fun a _ => by cases a <;> rfl⟩
  | backspace => exact t.alters_backspace
  | carriageReturn => exact t.alters_carriageReturn
  | lineFeed =>
    exact .ite (t.alters_lineFeed.trans ((alters_carriageReturn _).mono rfl)) t.alters_lineFeed
  | index => exact t.alters_lineFeed
  | reverseIndex => exact t.alters_reverseIndex
  | nextRow => exact (t.alters_carriageReturn.mono rfl).trans (alters_lineFeed _)
  | setTab => exact t.alters_setTab
  | clearTab mode => exact t.alters_clearTab mode
  | tabForward | tabBackward => exact t.alters_putCursor _
  | cursorUp n => exact t.alters_cursorUp n
  | cursorDown n => exact t.alters_cursorDown n
  | cursorRight n => exact t.alters_setCursor (·.cursor.row) (·.cursor.col + n)
  | cursorLeft n => exact t.alters_setCursor (·.cursor.row) (·.cursor.col - n)
  | toColumn col => exact t.alters_setCursor (·.cursor.row) fun _ => col
  | cursorNextLine n => exact (t.alters_cursorDown n).trans (alters_carriageReturn _)
  | cursorPreviousLine n => exact (t.alters_cursorUp n).trans (alters_carriageReturn _)
  | toRow | toPlace => exact t.alters_goTo ..
  | insertChars n => exact t.alters_editCells Grid.bearings_insertChars n
  | deleteChars n => exact t.alters_editCells Grid.bearings_deleteChars n
  | eraseChars n => exact t.alters_editCells Grid.bearings_eraseChars n
  | insertLines n => exact t.alters_editLines Grid.alters_insertLines n
  | deleteLines n => exact t.alters_editLines Grid.alters_deleteLines n
  | eraseDisplay mode => exact t.alters_eraseBy Grid.bearings_eraseDisplay mode
  | eraseLine mode => exact t.alters_eraseBy Grid.bearings_eraseLine mode
  | scrollUp n => exact t.alters_scrollBy Grid.bearings_scrollUp n
  | scrollDown n => exact t.alters_scrollBy Grid.bearings_scrollDown n
  | repeatLast n => exact t.alters_repeatLast n
  | setRegion top bottom => exact t.alters_chooseRegion top bottom
  | saveCursor => exact t.alters_saveCursor
  | restoreCursor => exact t.alters_restoreCursor
  | selectCharset | shiftOnce | designate => exact t.alters_charsets _
  | appKeypad on => exact t.alters_switchDec (.flag .appKeypad) on
  | selectRendition params => exact t.alters_selectRendition params
  | setAnsiModes numbers on => exact alters_foldl (fun t n => t.alters_setAnsiMode on n) numbers t
  | setDecModes numbers on =>
    exact alters_foldl (fun t n => t.alters_setDecMode_switched now on n) numbers t
  | saveDecModes numbers =>
    refine alters_foldl (fun t n => (t.alters_saveDecMode n).mono ?_) numbers t
    split <;> rfl
  | restoreDecModes numbers =>
    exact alters_foldl (fun t n => t.alters_restoreDecMode now n) numbers t
  | cursorStyle style => exact t.alters_chooseCursor style
  | windowOperation op arg => exact t.alters_windowOperation op arg
  | alignmentTest => exact t.alters_alignmentTest
  | softReset => exact t.alters_softReset
  | hardReset => exact t.alters_hardReset
  | askStatus what => exact t.alters_answerStatus what
  | askPrimaryAttributes | askSecondaryAttributes | askTertiaryAttributes | askVersion
  | askPrivatePosition | askDecMode | askAnsiMode => exact t.alters_reply _
  | marginsUnsupported | overflowed | unknownControl | unknownEscape | unknownSequence =>
    exact t.alters_note ..

end Terminal

/-! ## Output -/

/-- What an action can alter. -/
def Control.Action.alters : Control.Action → List Terminal.Aspect
  | .print _ => Terminal.Aspect.printing
  | .execute byte => .composeAt :: (Command.ofControl byte).alters
  | .escape s => .composeAt :: (Command.ofEscape s).alters
  | .control s => .composeAt :: (Command.ofSequence s).alters
  | .command _ _ => .composeAt :: Terminal.Aspect.operating
  | .imageStart _ _ _ | .imageData _ | .imageEnd => [.composeAt]
  | .request _ => [.composeAt, .replies, .schedule]

namespace Terminal

variable (t : Terminal)

theorem Alters.cons {t u : Terminal} {aspects : List Aspect} (h : t.Alters aspects u)
    (a : Aspect) : t.Alters (a :: aspects) u :=
  h.mono (List.all_eq_true.2 fun _ hb => List.contains_iff_mem.2 (List.mem_cons_of_mem a hb))

theorem alters_perform (now : Instant) (action : Control.Action) :
    t.Alters action.alters (perform now t action) := by
  have apart (aspects : List Aspect) :
      t.Alters (.composeAt :: aspects) { t with composeAt := none } :=
    (t.alters_composeAt none).mono (by simp)
  cases action with
  | print c => exact t.alters_print c
  | execute | escape | control => exact (apart _).trans ((alters_run _ now _).cons _)
  | command data bell => exact (apart _).trans ((alters_operate _ data bell).cons _)
  | imageStart | imageData | imageEnd =>
    exact (apart []).trans ⟨fun a _ => by cases a <;> rfl⟩
  | request r => exact (apart _).trans ((alters_serve _ now r).cons _)

/-- All aspects that output can alter: the configuration is none of them. -/
def Aspect.fed : List Aspect := hardReset ++ [.replies, .composeAt]

theorem alters_fed (action : Control.Action) :
    action.alters.all Aspect.fed.contains = true := by
  have command (command : Command) :
      (Aspect.composeAt :: command.alters).all Aspect.fed.contains = true := by
    cases command <;> rfl
  cases action with
  | execute | escape | control => exact command _
  | print | command | imageStart | imageData | imageEnd | request => rfl

theorem alters_reading (bytes : List UInt8) : t.Alters [] (t.reading bytes) :=
  ⟨fun a _ => by cases a <;> rfl⟩

theorem alters_feed (bytes : List UInt8) (now : Instant) :
    t.Alters Aspect.fed (t.feed bytes now) :=
  feed_induction (p := t.Alters Aspect.fed) ((t.alters_reading bytes).mono rfl)
    (fun u hu action _ => hu.trans ((u.alters_perform now action).mono (alters_fed action)))
    fun u _ hu => hu.trans ((u.alters_schedule _).mono rfl)

end Terminal

end Teletype
