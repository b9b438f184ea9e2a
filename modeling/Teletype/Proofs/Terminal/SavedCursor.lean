import Teletype.Proofs.Terminal.Joins
import Teletype.Proofs.Terminal.Restoring

/-!
# The saved cursor comes back

What ESC 7 saves is written by few commands: another save, a reset, and a change to the other
screen, which has a record of its own. Whatever else happens before ESC 8, the cursor is back where
it was then, with the rendition, the character sets and the modes of that moment.
-/

namespace Teletype

namespace Terminal

/-- What saving the cursor now keeps. -/
def current (t : Terminal) : SavedCursor where
  cursor := t.cursor
  rendition := t.rendition
  charsets := t.charsets
  origin := t.modes.dec.origin
  autowrap := t.modes.dec.autowrap

/-- The screen in use and what was saved on either screen. -/
def saves (t : Terminal) : ScreenKind × SavedCursor × SavedCursor :=
  (t.screen, t.primary.saved, t.alternate.saved)

theorem current_of_alters {t u : Terminal} {aspects : List Aspect} (h : t.Alters aspects u)
    (hapart : Aspect.apart [.grid .cursor, .rendition, .charsets, .modes] aspects = true) :
    u.current = t.current := by
  have cursor : u.cursor = t.cursor := h.of_apart hapart (a := .grid .cursor) (by decide)
  have rendition : u.rendition = t.rendition := h.of_apart hapart (a := .rendition) (by decide)
  have charsets : u.charsets = t.charsets := h.of_apart hapart (a := .charsets) (by decide)
  have modes : u.modes = t.modes := h.of_apart hapart (a := .modes) (by decide)
  rw [current, cursor, rendition, charsets, modes, current]

theorem saves_of_alters {t u : Terminal} {aspects : List Aspect} (h : t.Alters aspects u)
    (hapart : Aspect.apart [.screen, .hidden, .grid .saved] aspects = true) :
    u.saves = t.saves := by
  have screen : u.screen = t.screen := h.of_apart hapart (a := .screen) (by decide)
  obtain ⟨primary, alternate⟩ := h.both (a := .saved) hapart
  have primary : u.primary.saved = t.primary.saved := primary
  have alternate : u.alternate.saved = t.alternate.saved := alternate
  rw [saves, screen, primary, alternate, saves]

/-- What was saved on the screen in use. -/
theorem saved_of_saves {t u : Terminal} (h : u.saves = t.saves) : u.grid.saved = t.grid.saved := by
  obtain ⟨screen, primary, alternate⟩ :
      u.screen = t.screen ∧ u.primary.saved = t.primary.saved ∧
      u.alternate.saved = t.alternate.saved := by
    simpa [saves] using h
  unfold grid
  rw [screen]
  cases t.screen with
  | primary => exact primary
  | alternate => exact alternate

variable (t : Terminal)

/-! ## What keeps it -/

/-- A change of the screen changes nothing if the screen stays the same. -/
theorem saves_enterAlternate {save : Bool} (h : (t.enterAlternate save).screen = t.screen) :
    (t.enterAlternate save).saves = t.saves := by
  unfold enterAlternate at h ⊢
  split at h
  · rw [if_pos ‹_›]
  · rename_i away
    exact absurd (decide_eq_true h.symm) away

theorem saves_leaveAlternate {restore : Bool} (h : (t.leaveAlternate restore).screen = t.screen) :
    (t.leaveAlternate restore).saves = t.saves := by
  rw [screen_leaveAlternate] at h
  rw [leaveAlternate, if_neg (by rw [isAlternate, ← h]; decide)]

theorem saves_setDecMode (now : Instant) {on : Bool} {number : Nat}
    (hsave : ¬(number = 1048 ∧ on = true)) (h : (setDecMode now on t number).screen = t.screen) :
    (setDecMode now on t number).saves = t.saves := by
  have exchanged (save : Bool)
      (hscreen : (if on then t.enterAlternate save else t.leaveAlternate save).screen = t.screen) :
      (if on then t.enterAlternate save else t.leaveAlternate save).saves = t.saves := by
    cases on with
    | true => exact t.saves_enterAlternate hscreen
    | false => exact t.saves_leaveAlternate hscreen
  by_cases screens : number ∈ screenNumbers
  · simp only [screenNumbers, List.mem_cons, List.not_mem_nil, or_false] at screens
    rcases screens with rfl | rfl | rfl | rfl
    · exact exchanged false h
    · exact exchanged false h
    · cases on with
      | true => exact absurd ⟨rfl, rfl⟩ hsave
      | false => exact saves_of_alters t.alters_restoreCursor rfl
    · exact exchanged true h
  · exact saves_of_alters (t.alters_setDecMode_toggled now on screens) rfl

theorem saves_saveDecModes {numbers : List Nat} (hsave : 1048 ∉ numbers) :
    (numbers.foldl saveDecMode t).saves = t.saves := by
  induction numbers generalizing t with
  | nil => rfl
  | cons number numbers ih =>
    obtain ⟨other, rest⟩ : 1048 ≠ number ∧ 1048 ∉ numbers := by simpa using hsave
    have kept := t.alters_saveDecMode number
    rw [if_neg other.symm] at kept
    exact (ih _ rest).trans (saves_of_alters kept rfl)

theorem saves_restoreDecMode (now : Instant) {number : Nat}
    (h : (restoreDecMode now t number).screen = t.screen) :
    (restoreDecMode now t number).saves = t.saves := by
  unfold restoreDecMode at h ⊢
  split at h
  · rw [if_pos ‹_›]
    exact saves_of_alters t.alters_restoreCursor rfl
  · rename_i other
    rw [if_neg other]
    split at h
    · exact t.saves_setDecMode now (fun hsave => other hsave.1) h
    · exact saves_of_alters (t.alters_note ..) rfl

end Terminal

/-! ## Work that saves nothing -/

/-- A command that neither saves the cursor nor resets it, and with which the screen stays in use
that is in use when it is carried out. -/
def Command.KeepsSaved (now : Instant) (t : Terminal) : Command → Prop
  | .saveCursor | .softReset | .hardReset => False
  | .setDecModes numbers on =>
    Throughout (Terminal.setDecMode now on)
      (fun u number => ¬(number = 1048 ∧ on = true) ∧
        (Terminal.setDecMode now on u number).screen = u.screen)
      t numbers
  | .saveDecModes numbers => 1048 ∉ numbers
  | .restoreDecModes numbers =>
    Throughout (Terminal.restoreDecMode now)
      (fun u number => (Terminal.restoreDecMode now u number).screen = u.screen) t numbers
  | _ => True

instance (now : Instant) (t : Terminal) : (command : Command) → Decidable (command.KeepsSaved now t)
  | .saveCursor | .softReset | .hardReset => instDecidableFalse
  | .setDecModes numbers on =>
    inferInstanceAs (Decidable (Throughout (Terminal.setDecMode now on) (fun u number =>
      ¬(number = 1048 ∧ on = true) ∧ (Terminal.setDecMode now on u number).screen =
        u.screen) t numbers))
  | .saveDecModes numbers => inferInstanceAs (Decidable (1048 ∉ numbers))
  | .restoreDecModes numbers =>
    inferInstanceAs (Decidable (Throughout (Terminal.restoreDecMode now) (fun u number =>
      (Terminal.restoreDecMode now u number).screen = u.screen) t numbers))
  | .nothing | .bell | .backspace | .carriageReturn | .lineFeed | .index | .reverseIndex | .nextRow
  | .setTab | .clearTab _ | .tabForward _ | .tabBackward _ | .cursorUp _ | .cursorDown _
  | .cursorRight _ | .cursorLeft _ | .cursorNextLine _ | .cursorPreviousLine _ | .toColumn _
  | .toRow _ | .toPlace _ _ | .insertChars _ | .deleteChars _ | .eraseChars _ | .insertLines _
  | .deleteLines _ | .eraseDisplay _ | .eraseLine _ | .scrollUp _ | .scrollDown _ | .repeatLast _
  | .setRegion _ _ | .restoreCursor | .selectCharset _ | .shiftOnce _ | .designate _ _
  | .appKeypad _ | .selectRendition _ | .setAnsiModes _ _ | .cursorStyle _ | .windowOperation _ _
  | .alignmentTest | .askPrimaryAttributes | .askSecondaryAttributes | .askTertiaryAttributes
  | .askVersion | .askStatus _ | .askPrivatePosition | .askDecMode _ | .askAnsiMode _
  | .marginsUnsupported _ | .overflowed _ | .unknownControl _ | .unknownEscape _
  | .unknownSequence _ => instDecidableTrue

/-- An action that neither saves the cursor nor resets it, and with which the screen in use stays in
use. -/
def Control.Action.KeepsSaved (now : Instant) (t : Terminal) : Control.Action → Prop
  | .execute byte => (Command.ofControl byte).KeepsSaved now { t with composeAt := none }
  | .escape s => (Command.ofEscape s).KeepsSaved now { t with composeAt := none }
  | .control s => (Command.ofSequence s).KeepsSaved now { t with composeAt := none }
  | _ => True

instance (now : Instant) (t : Terminal) : (action : Control.Action) →
    Decidable (action.KeepsSaved now t)
  | .execute _ | .escape _ | .control _ => inferInstanceAs (Decidable (Command.KeepsSaved now _ _))
  | .print _ | .command _ _ | .imageStart _ _ _ | .imageData _ | .imageEnd | .request _ =>
    instDecidableTrue

/-- What a host does without changing the size, and with output that neither saves the cursor nor
resets it and under which the screen in use stays in use. -/
def HostAction.KeepsSaved (t : Terminal) : HostAction → Prop
  | .feed bytes now =>
    Throughout (Terminal.perform now) (fun u action => action.KeepsSaved now u) (t.reading bytes)
      (t.decoder.feed bytes).2.toList
  | .resize _ _ => False
  | _ => True

instance (t : Terminal) : (action : HostAction) → Decidable (action.KeepsSaved t)
  | .feed bytes now =>
    inferInstanceAs
      (Decidable (Throughout (Terminal.perform now) (fun u action => action.KeepsSaved now u)
        (t.reading bytes) (t.decoder.feed bytes).2.toList))
  | .resize _ _ => instDecidableFalse
  | .viewUp _ | .viewDown _ | .viewToBottom | .previousPrompt | .nextPrompt | .clearDirty | .poll _
  | .requestImmediate | .setClipboard _ | .startImages | .takeReplies | .takeEvents | .takeReports
  | .takeImages => instDecidableTrue

namespace Terminal

variable {t u : Terminal} {cols rows : Nat}

/-- A command that keeps what was saved may change everything else. -/
theorem saves_run (now : Instant) {command : Command} (h : command.KeepsSaved now t) :
    (t.run now command).saves = t.saves := by
  cases command with
  | saveCursor | softReset | hardReset => exact absurd h not_false
  | setDecModes numbers on =>
    exact Throughout.foldl (p := fun u => u.saves = t.saves)
      (fun u _ hu ⟨hsave, hscreen⟩ => (u.saves_setDecMode now hsave hscreen).trans hu) h rfl
  | saveDecModes numbers => exact t.saves_saveDecModes h
  | restoreDecModes numbers =>
    exact Throughout.foldl (p := fun u => u.saves = t.saves)
      (fun u _ hu hscreen => (u.saves_restoreDecMode now hscreen).trans hu) h rfl
  | _ => exact saves_of_alters (t.alters_run now _) rfl

theorem saves_perform (now : Instant) {action : Control.Action} (h : action.KeepsSaved now t) :
    (perform now t action).saves = t.saves := by
  cases action with
  | execute | escape | control => exact saves_run (t := { t with composeAt := none }) now h
  | _ => exact saves_of_alters (t.alters_perform now _) rfl

theorem saves_feed {bytes : List UInt8} {now : Instant}
    (h : (HostAction.feed bytes now).KeepsSaved t) : (t.feed bytes now).saves = t.saves := by
  have performed := Throughout.foldl (p := fun u => u.saves = t.saves)
    (fun u action hu ha => (saves_perform now ha).trans hu) h rfl
  rw [feed_eq]
  dsimp only
  split
  · exact performed
  · exact performed

/-- What keeps what was saved keeps the size. -/
theorem saves_apply (ht : t.Valid cols rows) {action : HostAction} (h : action.KeepsSaved t) :
    (action.apply t).saves = t.saves ∧ (action.apply t).Valid cols rows := by
  refine ⟨?_, ht.apply_of_ne fun cols' rows' resized => ?_⟩
  · cases action with
    | feed bytes now => exact saves_feed h
    | resize => exact absurd h not_false
    | _ => exact saves_of_alters (t.alters_apply _) rfl
  · rw [resized] at h
    exact h

/-! ## Saving and restoring -/

/-- ESC 7. -/
def saveSequence : List UInt8 := [0x1b, 0x37]

/-- ESC 8. -/
def restoreSequence : List UInt8 := [0x1b, 0x38]

theorem decoder_feed_saveSequence (d : Control.Decoder) :
    (d.feed saveSequence).2.toList = (d.step 0x1b).2 ++ [.escape ⟨[], 0x37⟩] :=
  d.feed_sequence fun closing sixel => by cases closing <;> cases sixel <;> decide +kernel

theorem decoder_feed_restoreSequence (d : Control.Decoder) :
    (d.feed restoreSequence).2.toList = (d.step 0x1b).2 ++ [.escape ⟨[], 0x38⟩] :=
  d.feed_sequence fun closing sixel => by cases closing <;> cases sixel <;> decide +kernel

theorem feed_saveSequence (t : Terminal) (now : Instant) : ∃ schedule, t.feed saveSequence now =
    { (t.broken now saveSequence).saveCursor with schedule := schedule } :=
  feed_broken (by decide) (decoder_feed_saveSequence t.decoder) nofun now

theorem feed_restoreSequence (t : Terminal) (now : Instant) :
    ∃ schedule, t.feed restoreSequence now =
      { (t.broken now restoreSequence).restoreCursor with schedule := schedule } :=
  feed_broken (by decide) (decoder_feed_restoreSequence t.decoder) nofun now

/-- What is saved is what is current; the string that the ESC ends does not matter. -/
theorem saved_feed_saveSequence (t : Terminal) (now : Instant) :
    (t.feed saveSequence now).grid.saved = t.current := by
  obtain ⟨schedule, saved⟩ := t.feed_saveSequence now
  have kept (v : Terminal) : ({ v with schedule := schedule } : Terminal).grid = v.grid := rfl
  rw [saved, kept, saveCursor, grid_modifyGrid,
    ← current_of_alters (t.alters_broken now saveSequence) rfl]
  rfl

theorem current_putCursor (t : Terminal) (cursor : Cursor) :
    (t.putCursor cursor).current = { t.current with cursor := cursor } := by
  unfold putCursor modifyGrid current Terminal.cursor grid
  cases t.screen <;> rfl

/-- What was saved on the screen is current when it is restored. -/
theorem current_restoreCursor (hrow : t.grid.saved.cursor.row < t.grid.rows)
    (hcol : t.grid.saved.cursor.col < t.grid.cols) : t.restoreCursor.current = t.grid.saved := by
  rw [restoreCursor_eq hrow hcol, current_putCursor]
  rfl

/-- ESC 8 makes current what was saved. -/
theorem current_feed_restoreSequence (ht : t.Valid cols rows) (now : Instant)
    (hrow : t.grid.saved.cursor.row < rows) (hcol : t.grid.saved.cursor.col < cols) :
    (t.feed restoreSequence now).current = t.grid.saved := by
  obtain ⟨schedule, restored⟩ := t.feed_restoreSequence now
  have saved : (t.broken now restoreSequence).grid.saved = t.grid.saved :=
    saved_of_saves (saves_of_alters (t.alters_broken now restoreSequence) rfl)
  have valid := (ht.broken now restoreSequence).grid
  rw [restored, ← saved]
  refine current_restoreCursor ?_ ?_
  · rwa [saved, valid.rows_eq]
  · rwa [saved, valid.cols_eq]

/-- What is current at ESC 7 is current again after ESC 8, if in between the cursor is not saved
again, nothing is reset, and neither the screen nor the size is changed. Whatever is printed, moved,
selected and switched in between does not matter. -/
theorem current_restored (config : Config) (actions work : List HostAction) (now now' : Instant) :
    let t := drive config actions
    let worked := work.foldl HostAction.apply (t.feed saveSequence now)
    Throughout HostAction.apply (fun u action => action.KeepsSaved u)
      (t.feed saveSequence now) work → (worked.feed restoreSequence now').current = t.current := by
  intro t worked hwork
  have valid : t.Valid t.cols t.rows := drive_valid config actions
  have kept := Throughout.foldl
    (p := fun u => u.saves = (t.feed saveSequence now).saves ∧ u.Valid t.cols t.rows)
    (fun u action ⟨hu, hvalid⟩ ha =>
      have applied := saves_apply hvalid ha
      ⟨applied.1.trans hu, applied.2⟩) hwork ⟨rfl, valid.feed saveSequence now⟩
  have saved : worked.grid.saved = t.current :=
    (saved_of_saves kept.1).trans (t.saved_feed_saveSequence now)
  have restored := current_feed_restoreSequence kept.2 now' (saved ▸ valid.grid.cursor_row)
    (saved ▸ valid.grid.cursor_col)
  exact restored.trans saved

/-- A program that wrote the last column of the last row of its region in line drawing, bold and in
origin mode, and is about to end a title. -/
def drawing : List HostAction :=
  [.feed (Text.Utf8.encode "\x1b[2;3r\x1b[?6h\x1b[2;1H\x1b[1m\x1b)0\x0eqqqq\x1bN\x1b]2;a") 0]

/-- Work that chooses another region, leaves origin mode and autowrap, goes elsewhere, prints and
restores. -/
def otherWork : List HostAction :=
  [.feed (Text.Utf8.encode "\x1b[?6;7;1048l\x1b[r\x1b[?7l\x1b[0;7m\x0f\x1b[1;2Hxyz\x1b[?1049l\x1b")
    2, .viewUp 1, .feed (Text.Utf8.encode "[2Jw") 3]

theorem current_restored_drawing :
    let t := drive { size := ⟨4, 3⟩, scrollback := 1 } drawing
    let worked := otherWork.foldl HostAction.apply (t.feed saveSequence 1)
    t.current.cursor = ⟨2, 3, true⟩ ∧ t.current.origin = true ∧ worked.current ≠ t.current ∧
      Throughout HostAction.apply (fun u action => action.KeepsSaved u)
        (t.feed saveSequence 1) otherWork ∧
      (worked.feed restoreSequence 4).current = t.current := by
  intro t worked
  have keeps :
      Throughout HostAction.apply (fun u action => action.KeepsSaved u) (t.feed saveSequence 1)
      otherWork := by
    decide +kernel
  exact ⟨by decide +kernel, by decide +kernel, by decide +kernel, keeps,
    current_restored { size := ⟨4, 3⟩, scrollback := 1 } drawing otherWork 1 4 keeps⟩

end Terminal

end Teletype
