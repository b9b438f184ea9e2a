import Teletype.Proofs.Terminal.ConfinedRun
import Teletype.Proofs.Terminal.Restoring

/-!
# A reported position can be gone to

A program that asks where the cursor is and sends the answer back leaves the cursor in place, if
origin mode confines it. What has led out of the region is lost to such a program.
-/

namespace Teletype

open Text.Utf8 (encode)
open Control.Params.Builder (WritesAll listed writesAll_value)

namespace Terminal

variable {cols rows : Nat} {t u : Terminal}

/-! ## Going to the reported position -/

theorem cursor_goTo (t : Terminal) (row col : Nat) : (t.goTo row col).cursor =
    ⟨min (min (t.addressableRows.1 + row) t.addressableRows.2) (t.grid.rows - 1),
      min col (t.grid.cols - 1), false⟩ :=
  congrArg Grid.cursor (grid_modifyGrid ..)

/-- To go to the reported position is to stay, just if the cursor is confined. -/
theorem cursor_goTo_reported (h : t.Valid cols rows) :
    ((t.goTo (t.reportedPosition.1 - 1) (t.reportedPosition.2 - 1)).cursor.row = t.cursor.row ∧
      (t.goTo (t.reportedPosition.1 - 1) (t.reportedPosition.2 - 1)).cursor.col = t.cursor.col) ↔
      t.Confined := by
  have row : t.grid.cursor.row < rows := h.grid.cursor_row
  have col : t.grid.cursor.col < cols := h.grid.cursor_col
  have height := h.grid.rows_eq
  have width := h.grid.cols_eq
  have top := h.grid.region_lt
  have bottom := h.grid.region_le
  rw [cursor_goTo]
  unfold reportedPosition addressableRows Confined cursor
  rw [Grid.inside_iff]
  cases t.modes.dec.origin with
  | true =>
    simp only [if_true, Nat.add_sub_cancel, forall_const]
    omega
  | false =>
    simp only [Bool.false_eq_true, if_false, Nat.add_sub_cancel, false_implies, iff_true]
    omega

/-- The position counts from 1 and is on the screen. -/
theorem reportedPosition_bounds (h : t.Valid cols rows) :
    (0 < t.reportedPosition.1 ∧ t.reportedPosition.1 ≤ rows) ∧
      0 < t.reportedPosition.2 ∧ t.reportedPosition.2 ≤ cols := by
  have row := h.cursor_row
  have col := h.cursor_col
  refine ⟨⟨Nat.succ_pos _, ?_⟩, Nat.succ_pos _, col⟩
  unfold reportedPosition
  dsimp only
  split <;> omega

theorem reportedPosition_of_alters {aspects : List Aspect} (h : t.Alters aspects u)
    (hapart : Aspect.apart [.modes, .grid .region, .grid .cursor] aspects = true) :
    u.reportedPosition = t.reportedPosition := by
  have modes : u.modes = t.modes := h.of_apart hapart (a := .modes) (by decide)
  have region : u.grid.region = t.grid.region := h.of_apart hapart (a := .grid .region) (by decide)
  have cursor : u.cursor = t.cursor := h.of_apart hapart (a := .grid .cursor) (by decide)
  rw [reportedPosition, modes, region, cursor, reportedPosition]

theorem cursor_goTo_of_alters {aspects : List Aspect} (h : t.Alters aspects u)
    (hapart : Aspect.apart [.modes, .grid .size, .grid .region] aspects = true) (row col : Nat) :
    (u.goTo row col).cursor = (t.goTo row col).cursor := by
  have modes : u.modes = t.modes := h.of_apart hapart (a := .modes) (by decide)
  have region : u.grid.region = t.grid.region := h.of_apart hapart (a := .grid .region) (by decide)
  obtain ⟨width, height⟩ := Prod.ext_iff.1 (h.of_apart hapart (a := .grid .size) (by decide))
  have height : u.grid.rows = t.grid.rows := height
  have width : u.grid.cols = t.grid.cols := width
  rw [cursor_goTo, cursor_goTo, addressableRows, modes, region, height, width, addressableRows]

theorem answerStatus_position (t : Terminal) : t.answerStatus 6 =
    t.reply (.position false t.reportedPosition.1 t.reportedPosition.2) := rfl

/-- ESC [ 6 n: where is the cursor? -/
def positionRequest : List UInt8 := [0x1b, 0x5b, 0x36, 0x6e]

def positionSequence : Control.ControlSequence :=
  { params := { items := [{ value := 6 }] }, intermediates := [], marker := none, final := 0x6e }

/-- The request is read wherever it starts, and nothing is left open after it. -/
theorem feed_positionRequest (d : Control.Decoder) :
    (d.feed positionRequest).2.toList = (d.step 0x1b).2 ++ [.control positionSequence] ∧
      (d.feed positionRequest).1.state = .ground :=
  ⟨d.feed_sequence fun closing sixel => by cases closing <;> cases sixel <;> decide +kernel,
    d.state_feed_sequence fun closing sixel => by cases closing <;> cases sixel <;> decide +kernel⟩

theorem feed_positionRequest_eq (t : Terminal) (now : Instant) :
    ∃ schedule, t.feed positionRequest now =
      { (t.broken now positionRequest).answerStatus 6 with schedule := schedule } :=
  feed_broken (by decide) (feed_positionRequest t.decoder).1 nofun now

theorem state_feed_request (t : Terminal) (now : Instant) :
    (t.feed positionRequest now).decoder.state = .ground := by
  have read := (t.twin_feed positionRequest [] now).decoder
  rw [read]
  exact (feed_positionRequest t.decoder).2

theorem alters_feed_request (t : Terminal) (now : Instant) :
    t.Alters ([.composeAt, .schedule] ++ Aspect.operating) (t.feed positionRequest now) := by
  obtain ⟨schedule, asked⟩ := t.feed_positionRequest_eq now
  have answered := (t.alters_broken now positionRequest).trans ((alters_answerStatus _ 6).mono rfl)
  exact asked ▸ answered.trans ((alters_schedule _ schedule).mono rfl)

/-- The answer is the position, after what the ESC of the request completes. -/
theorem replies_feed_position (t : Terminal) (now : Instant) :
    (t.feed positionRequest now).replies.toList = (t.feed [0x1b] now).replies.toList ++
      (Reply.position false t.reportedPosition.1 t.reportedPosition.2).encode := by
  obtain ⟨schedule, asked⟩ := t.feed_positionRequest_eq now
  have kept (v : Terminal) : ({ v with schedule := schedule } : Terminal).replies = v.replies := rfl
  have same : (t.broken now positionRequest).reportedPosition = t.reportedPosition :=
    reportedPosition_of_alters (t.alters_broken now positionRequest) rfl
  have queued := queued_reply (t.broken now positionRequest)
    (.position false t.reportedPosition.1 t.reportedPosition.2)
  unfold Queued at queued
  rw [List.flatMap_singleton] at queued
  rw [asked, kept, answerStatus_position, same, queued, positionRequest, replies_broken]

/-- What sends the cursor to a place is read between sequences. -/
theorem feed_place {d : Control.Decoder} (hd : d.state = .ground) {row col : Nat} (hrow : 0 < row)
    (hrow' : row ≤ Control.Params.maxValue) (hcol : 0 < col)
    (hcol' : col ≤ Control.Params.maxValue) :
    ∃ sequence, (d.feed (encode ("\x1b[" ++ s!"{row};{col}" ++ "H"))).2.toList =
      [.control sequence] ∧ Command.ofSequence sequence = .toPlace (row - 1) (col - 1) := by
  have written :=
    (writesAll_value (n := row) rfl hrow').append (writesAll_value (n := col) rfl hcol')
  have text : s!"{row};{col}" = listed [toString row, toString col] := rfl
  rw [text, encode_append, encode_append]
  refine ⟨_, Control.Decoder.feed_written (s := ⟨{}, [], none, 0x48⟩) hd written
    (List.cons_ne_nil _ _) (Nat.le_of_ble_eq_true rfl) fun _ _ => rfl, ?_⟩
  show Command.toPlace ((if row = 0 then 1 else row) - 1) ((if col = 0 then 1 else col) - 1) = _
  rw [if_neg (by omega), if_neg (by omega)]

/-- The place that is sent is the one that is gone to. -/
theorem cursor_feed_place (hd : u.decoder.state = .ground) {row col : Nat} (hrow : 0 < row)
    (hrow' : row ≤ Control.Params.maxValue) (hcol : 0 < col) (hcol' : col ≤ Control.Params.maxValue)
    (now : Instant) : (u.feed (encode ("\x1b[" ++ s!"{row};{col}" ++ "H")) now).cursor =
      (u.goTo (row - 1) (col - 1)).cursor := by
  obtain ⟨sequence, read, asked⟩ := feed_place hd hrow hrow' hcol hcol'
  generalize encode ("\x1b[" ++ s!"{row};{col}" ++ "H") = bytes at read ⊢
  have gone : ({ u.reading bytes with composeAt := none }.run now (.ofSequence sequence)).cursor =
      (u.goTo (row - 1) (col - 1)).cursor := by
    rw [asked]
    have read : u.Alters [.composeAt] (u.reading bytes) := (u.alters_reading bytes).mono rfl
    exact cursor_goTo_of_alters (read.trans (alters_composeAt _ none)) rfl _ _
  rw [feed_eq, read]
  dsimp only
  split <;> exact gone

/-- In every terminal that a host can hold, a program that asks where the cursor is and sends the
answer back leaves the cursor in place just if the cursor is confined: if origin mode is off, or it
is in the region. It is confined as long as no backspace and no saved cursor has led out of the
region, and the conditions under which these two do not are exact. Sizes fit sixteen bits. -/
theorem position_returns_iff (config : Config) (actions : List HostAction) (now now' : Instant)
    (hcols : (drive config actions).cols ≤ 65535) (hrows : (drive config actions).rows ≤ 65535) :
    let t := drive config actions
    let asked := t.feed (encode "\x1b[6n") now
    let position := s!"{t.reportedPosition.1};{t.reportedPosition.2}"
    let put := asked.feed (encode ("\x1b[" ++ position ++ "H")) now'
    (Throughout HostAction.apply (fun u action => action.StaysInside u) (.new config) actions →
      t.Confined) ∧ (t.Confined → (t.backspace.Confined ↔ t.BacksInside)) ∧
      (t.restoreCursor.Confined ↔ t.RestoresInside) ∧
      asked.replies.toList =
        (t.feed (encode "\x1b") now).replies.toList ++ encode ("\x1b[" ++ position ++ "R") ∧
      (put.cursor.row = t.cursor.row ∧ put.cursor.col = t.cursor.col ↔ t.Confined) := by
  intro t asked position put
  have valid : t.Valid t.cols t.rows := drive_valid config actions
  refine ⟨confined_drive, confined_backspace_iff, t.confined_restoreCursor_iff, ?_, ?_⟩
  · exact t.replies_feed_position now
  · obtain ⟨⟨low, high⟩, left, right⟩ := reportedPosition_bounds valid
    have gone :
        put.cursor = (t.goTo (t.reportedPosition.1 - 1) (t.reportedPosition.2 - 1)).cursor :=
      (cursor_feed_place (t.state_feed_request now) low (high.trans hrows) left
        (right.trans hcols) now').trans (cursor_goTo_of_alters (t.alters_feed_request now) rfl _ _)
    rw [gone]
    exact cursor_goTo_reported valid

/-- A screen of three rows. -/
def smallScreen : Config := { size := ⟨4, 3⟩, scrollback := 0 }

/-- A program in origin mode that goes back to the row above, saves the cursor in the region and
restores it, and has a look at the alternate screen. -/
def stayingInside : List HostAction :=
  [.feed (encode "\x1b[?45h\x1b[2;3r\x1b[?6h\n\x08x\x1b7\x1b[5A\x1b8") 0, .viewUp 1,
    .feed (encode "\x1b[?1049h\n\x1b[?1049l") 1]

theorem position_returns_iff_stayingInside :
    let t := drive smallScreen stayingInside
    let asked := t.feed (encode "\x1b[6n") 2
    let position := s!"{t.reportedPosition.1};{t.reportedPosition.2}"
    let put := asked.feed (encode ("\x1b[" ++ position ++ "H")) 3
    t.cols ≤ 65535 ∧ t.rows ≤ 65535 ∧ t.modes.dec.origin = true ∧ t.Confined ∧
      put.cursor.row = t.cursor.row ∧ put.cursor.col = t.cursor.col :=
  have width : (drive smallScreen stayingInside).cols ≤ 65535 := by decide +kernel
  have height : (drive smallScreen stayingInside).rows ≤ 65535 := by decide +kernel
  have origin : (drive smallScreen stayingInside).modes.dec.origin = true := by decide +kernel
  have staying :
      Throughout HostAction.apply (fun u action => action.StaysInside u) (.new smallScreen)
      stayingInside := by decide +kernel
  have returns := position_returns_iff smallScreen stayingInside 2 3 width height
  have confined := returns.1 staying
  ⟨width, height, origin, confined, returns.2.2.2.2.2 confined⟩

/-- From the first row of the region, which is not the first of the screen, a backspace to the row
above. -/
def backedOut : List HostAction := [.feed (encode "\x1b[?45h\x1b[2;3r\x1b[?6h\x08") 0]

/-- The cursor is saved in the first row of the screen and restored when that is no longer in the
region. -/
def restoredOut : List HostAction := [.feed (encode "\x1b[?6h\x1b7\x1b[2;3r\x1b8") 0]

/-- Origin mode is on and the cursor is above the region. It does not return to the position it
reports. -/
theorem position_lost_outside :
    let t := drive smallScreen backedOut
    let u := drive smallScreen restoredOut
    let asked := t.feed (encode "\x1b[6n") 1
    let position := s!"{t.reportedPosition.1};{t.reportedPosition.2}"
    (t.modes.dec.origin = true ∧ t.grid.region = ⟨1, 3⟩ ∧ t.cursor.row = 0 ∧
        (asked.feed (encode ("\x1b[" ++ position ++ "H")) 2).cursor.row = 1) ∧
      u.modes.dec.origin = true ∧ u.grid.region = ⟨1, 3⟩ ∧ u.cursor.row = 0 := by
  decide +kernel

end Terminal

end Teletype
