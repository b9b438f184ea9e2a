import Teletype.Proofs.Terminal.AlternateSession

/-!
# Changes of size during a session on the alternate screen

The size can change while a program has the alternate screen. The primary screen is cut anew then as
it would be without the program, but for the shell's cursor: where it was saved is only kept on the
screen, while a cursor that is in use stays on its character.
-/

namespace Teletype

/-- Where the cursor is. -/
def Cursor.place (c : Cursor) : Nat × Nat := (c.row, c.col)

/-- The place on a screen of the given size that is nearest to a place, in rows and columns. -/
def Size.nearest (place : Nat × Nat) (size : Size) : Nat × Nat :=
  (min place.1 (max size.height 1 - 1), min place.2 (max size.width 1 - 1))

namespace Grid

variable {g : Grid}

/-- What is saved has no part in a change of the size. It is kept on the screen. -/
theorem resize_saved (g : Grid) (saved : SavedCursor) (rows cols : Nat) (reflow : Bool) :
    ({ g with saved := saved } : Grid).resize rows cols reflow =
      { g.resize rows cols reflow with
        saved := if max rows 1 = g.rows && max cols 1 = g.cols then saved
          else { saved with
            cursor :=
              ⟨min saved.cursor.row (max rows 1 - 1), min saved.cursor.col (max cols 1 - 1),
                false⟩ } } := by
  by_cases same : (max rows 1 = g.rows && max cols 1 = g.cols) = true
  · have same' : (max rows 1 = ({ g with saved := saved } : Grid).rows &&
        max cols 1 = ({ g with saved := saved } : Grid).cols) = true := same
    rw [if_pos same, resize, resize, if_pos same, if_pos same']
  · have same' : ¬(max rows 1 = ({ g with saved := saved } : Grid).rows &&
        max cols 1 = ({ g with saved := saved } : Grid).cols) = true := same
    rw [if_neg same, resize, resize, if_neg same, if_neg same']
    rfl

/-- A change of the size marks every row. -/
theorem markAllDirty_resize (rows cols : Nat) (reflow : Bool)
    (h : ¬(max rows 1 = g.rows && max cols 1 = g.cols) = true) :
    (g.resize rows cols reflow).markAllDirty = g.resize rows cols reflow := by
  have marked (capacity firstSeq : Nat) (lines : List Row) :
      (ringOf capacity (max cols 1) firstSeq lines).map (fun r => { r with dirty := true }) =
        ringOf capacity (max cols 1) firstSeq lines := by
    unfold ringOf
    rw [Array.map_append, List.map_toArray, List.map_map, Array.map_map]
    rfl
  unfold markAllDirty resize
  rw [if_neg h]
  dsimp only
  rw [marked]

theorem size_resize (g : Grid) (rows cols : Nat) (reflow : Bool) :
    (g.resize rows cols reflow).rows = max rows 1 ∧
      (g.resize rows cols reflow).cols = max cols 1 := by
  unfold resize
  dsimp only
  split
  · rename_i same
    simp only [Bool.and_eq_true, decide_eq_true_eq] at same
    exact ⟨same.1.symm, same.2.symm⟩
  · exact ⟨rfl, rfl⟩

end Grid

namespace Terminal

variable {t u : Terminal}

/-- The terminal at another size. -/
def resizeTo (t : Terminal) (size : Size) : Terminal := t.resize size.width size.height

/-- The primary screen takes the new size in the same way whichever screen is in use. -/
theorem primary_resizeTo (t : Terminal) (size : Size) :
    (t.resizeTo size).primary = t.primary.resize size.height size.width t.config.reflow := by
  unfold resizeTo resize
  dsimp only
  split
  · rename_i same
    have same' :
        (max size.height 1 = t.primary.rows && max size.width 1 = t.primary.cols) = true := by
      rw [Bool.and_comm]
      exact same
    rw [Grid.resize, if_pos same']
  · rename_i same
    have same' :
        ¬(max size.height 1 = t.primary.rows && max size.width 1 = t.primary.cols) = true := by
      rw [Bool.and_comm]
      exact same
    rw [Grid.resize_max]
    unfold modifyGrid
    cases t.screen with
    | primary => exact Grid.markAllDirty_resize _ _ _ same'
    | alternate => rfl

/-- What a change of the size leaves alone. -/
theorem resizeTo_same (t : Terminal) (size : Size) : (t.resizeTo size).screen = t.screen ∧
    (t.resizeTo size).config = t.config ∧ (t.resizeTo size).rendition = t.rendition ∧
    (t.resizeTo size).charsets = t.charsets ∧ (t.resizeTo size).modes = t.modes := by
  unfold resizeTo resize
  dsimp only
  split
  · exact ⟨rfl, rfl, rfl, rfl, rfl⟩
  · unfold modifyGrid
    cases t.screen <;> exact ⟨rfl, rfl, rfl, rfl, rfl⟩

/-- A change of the size while a program is away keeps the shell's saved cursor on the screen. -/
theorem Away.resizeTo {cursor : Cursor} (h : Away cursor t u) (hconfig : u.config = t.config)
    (size : Size) : ∃ cursor', Away cursor' (t.resizeTo size) (u.resizeTo size) ∧
      cursor'.place = Size.nearest cursor.place size := by
  obtain ⟨-, -, rendition, charsets, modes⟩ := t.resizeTo_same size
  obtain ⟨rows, cols⟩ := t.primary.size_resize size.height size.width t.config.reflow
  have hrow := h.row
  have hcol := h.col
  have resized : (u.resizeTo size).primary = _ := u.primary_resizeTo size
  rw [h.primary, hconfig, Grid.resize_saved, ← t.primary_resizeTo] at resized
  rw [← t.primary_resizeTo] at rows cols
  split at resized
  · rename_i same
    simp only [Bool.and_eq_true, decide_eq_true_eq] at same
    refine ⟨cursor, ⟨(u.resizeTo_same size).1.trans h.screen, ?_, ?_, ?_⟩, ?_⟩
    · rw [resized, rendition, charsets, modes]
    · rw [rows, same.1]
      exact hrow
    · rw [cols, same.2]
      exact hcol
    · unfold Size.nearest Cursor.place
      rw [Nat.min_eq_left (by omega), Nat.min_eq_left (by omega)]
  · refine ⟨⟨min cursor.row (max size.height 1 - 1), min cursor.col (max size.width 1 - 1), false⟩,
      ⟨(u.resizeTo_same size).1.trans h.screen, ?_, ?_, ?_⟩, rfl⟩
    · rw [resized, rendition, charsets, modes]
    · rw [rows]
      dsimp only
      omega
    · rw [cols]
      dsimp only
      omega

theorem Away.foldl_resizeTo {cursor : Cursor} (h : Away cursor t u) (hconfig : u.config = t.config)
    (sizes : List Size) : ∃ cursor', Away cursor' (sizes.foldl Terminal.resizeTo t)
      (sizes.foldl Terminal.resizeTo u) ∧
        cursor'.place = sizes.foldl Size.nearest cursor.place := by
  induction sizes generalizing t u cursor with
  | nil => exact ⟨cursor, h, rfl⟩
  | cons size sizes ih =>
    obtain ⟨cursor', away, place⟩ := h.resizeTo hconfig size
    have hconfig' :=
      (u.resizeTo_same size).2.1.trans (hconfig.trans (t.resizeTo_same size).2.1.symm)
    obtain ⟨cursor'', away', place'⟩ := ih away hconfig'
    exact ⟨cursor'', away', by rw [place', place]; rfl⟩

/-- Terminals with the same primary screen have the same after any changes of the size. -/
theorem shell_foldl_resizeTo (hconfig : u.config = t.config) (hp : u.primary = t.primary)
    (hr : u.rendition = t.rendition) (hc : u.charsets = t.charsets) (hm : u.modes = t.modes)
    (sizes : List Size) : (sizes.foldl resizeTo u).shell = (sizes.foldl resizeTo t).shell := by
  induction sizes generalizing t u with
  | nil => exact shell_of_eq hp hr hc hm
  | cons size sizes ih =>
    obtain ⟨-, config, rendition, charsets, modes⟩ := t.resizeTo_same size
    obtain ⟨-, config', rendition', charsets', modes'⟩ := u.resizeTo_same size
    refine ih (by rw [config, config', hconfig]) ?_ (by rw [rendition, rendition', hr])
      (by rw [charsets, charsets', hc]) (by rw [modes, modes', hm])
    rw [primary_resizeTo, primary_resizeTo, hp, hconfig]

theorem config_feed_enterSession (t : Terminal) (now : Instant) :
    (t.feed enterSession now).config = (t.broken now enterSession).config := by
  obtain ⟨schedule, h⟩ := t.feed_enterSession_eq now
  rw [h]
  unfold enterAlternate saveCursor modifyGrid
  dsimp only
  split
  · rfl
  · cases (t.broken now enterSession).screen <;> rfl

/-- A program has the alternate screen while the size changes, any number of times, and gives it
back. All that a shell relies on is then as after the same changes without the program, but for the
place of the cursor: it is the place before the program, moved onto the screen at each change. So
the cursor is where it would be without the program if and only if it would be there. -/
theorem shell_resized_session (config : Config) (actions : List HostAction) (sizes : List Size)
    (now now' : Instant) (hs : (drive config actions).screen = .primary) :
    let t := drive config actions
    let left := (sizes.foldl resizeTo (t.feed enterSession now)).feed leaveSession now'
    let alone := sizes.foldl resizeTo (t.broken now enterSession)
    let kept := sizes.foldl Size.nearest t.primary.cursor.place
    left.shell = { alone.shell with cursor := left.primary.cursor } ∧
      left.primary.cursor.place = kept ∧
      (left.primary.cursor.place = alone.primary.cursor.place ↔ alone.primary.cursor.place = kept) ∧
      ((t.decoder.step 0x1b).2 = [] → alone.shell = (sizes.foldl resizeTo t).shell) := by
  intro t left alone kept
  have valid : t.Valid t.cols t.rows := drive_valid config actions
  obtain ⟨cursor, away, place⟩ := (away_feed_enterSession valid hs now).foldl_resizeTo
    (t.config_feed_enterSession now) sizes
  have shell : left.shell = { alone.shell with cursor := cursor } := (away.feed_leaveSession now').2
  have last : left.primary.cursor = cursor := congrArg Shell.cursor shell
  have there : left.primary.cursor.place = kept := by rw [last, place]
  refine ⟨by rw [last, shell], there, ?_, fun hquiet => ?_⟩
  · rw [there]
    exact eq_comm
  · have quiet : t.broken now enterSession = { t.reading enterSession with composeAt := none } := by
      unfold broken
      rw [hquiet]
      rfl
    show (sizes.foldl resizeTo (t.broken now enterSession)).shell = _
    rw [quiet]
    apply shell_foldl_resizeTo <;> rfl

/-- Six characters on a screen of ten columns, without the program that comes and goes. -/
def sixLetters : List HostAction := [.feed [0x61, 0x62, 0x63, 0x64, 0x65, 0x66] 0]

theorem shell_resized_session_letters :
    (drive { size := ⟨10, 3⟩, scrollback := 4 } sixLetters).screen = .primary ∧
      (([⟨4, 3⟩, ⟨10, 2⟩].foldl resizeTo
        ((drive { size := ⟨10, 3⟩, scrollback := 4 } sixLetters).feed enterSession 1)).feed
          leaveSession 2).primary.cursor.place =
        [⟨4, 3⟩, ⟨10, 2⟩].foldl Size.nearest
          (drive { size := ⟨10, 3⟩, scrollback := 4 } sixLetters).primary.cursor.place :=
  have hs : (drive { size := ⟨10, 3⟩, scrollback := 4 } sixLetters).screen = .primary := by
    decide +kernel
  ⟨hs, (shell_resized_session { size := ⟨10, 3⟩, scrollback := 4 } sixLetters [⟨4, 3⟩, ⟨10, 2⟩] 1 2
    hs).2.1⟩

/-- Cut anew at four columns, the six characters take two rows, and a cursor in use stays behind the
last one. The saved cursor stays in the first row, on a character. -/
theorem misplaced_by_session :
    (drive { size := ⟨10, 3⟩, scrollback := 4 } sixLetters).screen = .primary ∧
      (drive { size := ⟨10, 3⟩, scrollback := 4 } sixLetters).config.reflow = true ∧
      ((drive { size := ⟨10, 3⟩, scrollback := 4 } sixLetters).resizeTo ⟨4,
        3⟩).primary.cursor.place = (1, 2) ∧
      ((((drive { size := ⟨10, 3⟩, scrollback := 4 } sixLetters).feed enterSession 1).resizeTo
        ⟨4, 3⟩).feed leaveSession 2).primary.cursor.place = (0, 3) := by
  decide +kernel

end Terminal

end Teletype
