import Teletype.Proofs.Control.Feed
import Teletype.Proofs.Grid.Rows
import Teletype.Proofs.Terminal.Reachable
import Teletype.Proofs.Terminal.Spares

/-!
# Sessions on the alternate screen

A program that takes the alternate screen and gives it back leaves the shell's screen as it found
it: the lines, the scrollback, the view, the cursor, and the rendition, character sets and modes
that go with it.
-/

namespace Teletype

namespace Terminal

/-! ## What a shell relies on -/

/-- What the primary screen shows and what the next output there starts from. -/
structure Shell where
  /-- The scrollback and the screen. -/
  lines : List Line
  history : Nat
  viewDistance : Nat
  cursor : Cursor
  rendition : Rendition
  charsets : Charsets
  origin : Bool
  autowrap : Bool
  deriving DecidableEq

/-- The shell's part of a terminal that shows the primary screen. -/
def shell (t : Terminal) : Shell where
  lines := t.primary.lines.map Row.line
  history := t.primary.history
  viewDistance := t.primary.viewDistance
  cursor := t.primary.cursor
  rendition := t.rendition
  charsets := t.charsets
  origin := t.modes.dec.origin
  autowrap := t.modes.dec.autowrap

variable {t t' : Terminal} {cols rows : Nat}

theorem shell_of_eq (hp : t'.primary = t.primary) (hr : t'.rendition = t.rendition)
    (hc : t'.charsets = t.charsets) (hm : t'.modes = t.modes) : t'.shell = t.shell := by
  unfold shell
  rw [hp, hr, hc, hm]

/-- A shell relies on little of a terminal, and on nothing of the screen that is not in use. -/
theorem shell_of_alters {aspects : List Aspect} (h : t.Alters aspects t')
    (hapart : Aspect.apart [.screen, .hidden, .grid .text, .grid .cursor, .rendition, .charsets,
      .flag .origin, .flag .autowrap] aspects = true) : t'.shell = t.shell := by
  have text := (h.both (a := .text) (Aspect.apart_mono hapart (by decide))).1
  have cursor : t'.primary.cursor = t.primary.cursor :=
    (h.both (a := .cursor) (Aspect.apart_mono hapart (by decide))).1
  obtain ⟨lines, history, distance⟩ := Prod.ext_iff.1 text |>.imp_right Prod.ext_iff.1
  have rendition : t'.rendition = t.rendition := h.of_apart hapart (a := .rendition) (by decide)
  have charsets : t'.charsets = t.charsets := h.of_apart hapart (a := .charsets) (by decide)
  have origin : t'.modes.dec.origin = t.modes.dec.origin :=
    h.of_apart hapart (a := .flag .origin) (by decide)
  have autowrap : t'.modes.dec.autowrap = t.modes.dec.autowrap :=
    h.of_apart hapart (a := .flag .autowrap) (by decide)
  exact Shell.mk.injEq .. |>.mpr
    ⟨lines, history, distance, cursor, rendition, charsets, origin, autowrap⟩

theorem shell_markAllDirty (t : Terminal) :
    ({ t with primary := t.primary.markAllDirty } : Terminal).shell = t.shell := by
  have text := t.primary.alters_markAllDirty.kept .text rfl
  obtain ⟨lines, history, distance⟩ := Prod.ext_iff.1 text |>.imp_right Prod.ext_iff.1
  exact Shell.mk.injEq .. |>.mpr ⟨lines, history, distance, rfl, rfl, rfl, rfl, rfl⟩

/-- An operating system command changes nothing that a shell relies on, but for the mark of a
prompt. -/
theorem shell_operate (t : Terminal) (data : List UInt8) (bell : Bool) :
    (t.operate data bell).shell =
      (if marksPrompt data then t.promptCommand [0x41] else t).shell := by
  cases h : marksPrompt data with
  | false => exact shell_of_alters (t.orders_operate h bell).ordered rfl
  | true => rw [t.operate_of_marksPrompt h bell, if_pos rfl]

end Terminal

/-! ## Sequences -/

namespace Control.Decoder

/-- An action that a string of the application completes. -/
inductive OfString : Action → Prop where
  | command (data : List UInt8) (bell : Bool) : OfString (.command data bell)
  | imageEnd : OfString .imageEnd
  | request (r : DeviceRequest) : OfString (.request r)

/-- ESC starts a sequence in every state. What it completes is the string that it breaks off, if
there is one. -/
theorem step_escape (d : Decoder) :
    (∃ closing, (d.step 0x1b).1.state = .escape closing) ∧
      ((d.step 0x1b).2 = [] ∨ ∃ action, (d.step 0x1b).2 = [action] ∧ OfString action) := by
  obtain ⟨state, sixel, warned, reports⟩ := d
  unfold step
  dsimp only
  rw [(note_eq _ _).1]
  cases state with
  | ground => exact ⟨⟨false, rfl⟩, .inl rfl⟩
  | utf8Collect bytes missing => exact ⟨⟨false, rfl⟩, .inl rfl⟩
  | escape closing => exact ⟨⟨false, rfl⟩, .inl rfl⟩
  | escapeIntermediate intermediates excess => exact ⟨⟨false, rfl⟩, .inl rfl⟩
  | csiEntry => exact ⟨⟨false, rfl⟩, .inl rfl⟩
  | csiParam header => exact ⟨⟨false, rfl⟩, .inl rfl⟩
  | csiIntermediate header => exact ⟨⟨false, rfl⟩, .inl rfl⟩
  | csiIgnore => exact ⟨⟨false, rfl⟩, .inl rfl⟩
  | dcsEntry => exact ⟨⟨true, rfl⟩, .inl rfl⟩
  | dcsParam header => exact ⟨⟨true, rfl⟩, .inl rfl⟩
  | dcsIntermediate header => exact ⟨⟨true, rfl⟩, .inl rfl⟩
  | dcsIgnore => exact ⟨⟨true, rfl⟩, .inl rfl⟩
  | sosPmApcString => exact ⟨⟨true, rfl⟩, .inl rfl⟩
  | dcsPassthrough handler =>
    refine ⟨⟨true, rfl⟩, ?_⟩
    cases handler with
    | discard => exact .inl rfl
    | setting name => exact .inr ⟨_, rfl, .request _⟩
    | capabilities names excess =>
      cases excess with
      | true => exact .inl rfl
      | false => exact .inr ⟨_, rfl, .request _⟩
    | beginSync => exact .inr ⟨_, rfl, .request _⟩
    | endSync => exact .inr ⟨_, rfl, .request _⟩
    | image => exact .inr ⟨_, rfl, .imageEnd⟩
  | oscString data excess =>
    refine ⟨⟨true, rfl⟩, ?_⟩
    cases excess with
    | true => exact .inl rfl
    | false => exact .inr ⟨_, rfl, .command _ _⟩

/-- A sequence that starts anywhere is what it is right after ESC. -/
theorem feed_sequence (d : Decoder) {rest : List UInt8} {actions : List Action}
    (h : ∀ closing sixel, (feed { state := .escape closing, sixel } rest).2.toList = actions) :
    (d.feed (0x1b :: rest)).2.toList = (d.step 0x1b).2 ++ actions := by
  obtain ⟨closing, hstate⟩ := d.step_escape.1
  have same : (d.step 0x1b).1.state =
      ({ state := .escape closing, sixel := (d.step 0x1b).1.sixel } : Decoder).state := hstate
  rw [(feed_cons d 0x1b rest).2, (feed_congr same rfl rest).1, h]

/-- A sequence that starts anywhere ends in the state that it ends in right after ESC. -/
theorem state_feed_sequence (d : Decoder) {rest : List UInt8} {state : State}
    (h : ∀ closing sixel, (feed { state := .escape closing, sixel } rest).1.state = state) :
    (d.feed (0x1b :: rest)).1.state = state := by
  obtain ⟨closing, hstate⟩ := d.step_escape.1
  have same : (d.step 0x1b).1.state =
      ({ state := .escape closing, sixel := (d.step 0x1b).1.sixel } : Decoder).state := hstate
  rw [(feed_cons d 0x1b rest).1, (feed_congr same rfl rest).2, h]

end Control.Decoder

namespace Terminal

open Control.Decoder

/-- ESC [ ? 1049 h: to the alternate screen, saving the cursor. -/
def enterSession : List UInt8 := [0x1b, 0x5b, 0x3f, 0x31, 0x30, 0x34, 0x39, 0x68]

/-- ESC [ ? 1049 l: back to the primary screen, restoring the cursor. -/
def leaveSession : List UInt8 := [0x1b, 0x5b, 0x3f, 0x31, 0x30, 0x34, 0x39, 0x6c]

/-- The sequence that switches the mode of the alternate screen. -/
def sessionSequence (final : UInt8) : Control.ControlSequence :=
  { params := { items := [{ value := 1049 }] }, intermediates := [], marker := some 0x3f, final }

theorem feed_enterSession (d : Control.Decoder) :
    (d.feed enterSession).2.toList = (d.step 0x1b).2 ++ [.control (sessionSequence 0x68)] :=
  d.feed_sequence fun closing sixel => by cases closing <;> cases sixel <;> decide +kernel

theorem feed_leaveSession (d : Control.Decoder) :
    (d.feed leaveSession).2.toList = (d.step 0x1b).2 ++ [.control (sessionSequence 0x6c)] :=
  d.feed_sequence fun closing sixel => by cases closing <;> cases sixel <;> decide +kernel

variable {t u : Terminal} {cols rows : Nat}

/-- The string that is read when a sequence starts is a command that marks a prompt. -/
def promptPending (t : Terminal) : Bool :=
  match (t.decoder.step 0x1b).2 with
  | [.command data _] => marksPrompt data
  | _ => false

/-- The terminal at the start of a sequence: a string that is being read ends there. -/
def atSequence (t : Terminal) : Terminal :=
  if t.promptPending then t.promptCommand [0x41] else t

theorem shell_promptCommand (hp : u.primary = t.primary) (hs : u.screen = t.screen)
    (hr : u.rendition = t.rendition) (hc : u.charsets = t.charsets) (hm : u.modes = t.modes)
    (ha : u.alternate = t.alternate) (payload : List UInt8) :
    (u.promptCommand payload).shell = (t.promptCommand payload).shell := by
  unfold promptCommand cursor grid modifyGrid
  rw [hs, hp, ha]
  split
  · cases t.screen with
    | primary => exact shell_of_eq rfl hr hc hm
    | alternate => exact shell_of_eq rfl hr hc hm
  · exact shell_of_eq hp hr hc hm

/-- A string that ends does not move the shell's cursor. -/
theorem cursor_atSequence (t : Terminal) : t.atSequence.shell.cursor = t.primary.cursor := by
  unfold atSequence promptCommand modifyGrid
  split
  · rw [if_pos List.head?_cons]
    dsimp only
    split
    · show (Grid.modifyRow _ _ _).cursor = _
      unfold Grid.modifyRow
      split <;> rfl
    · rfl
  · rfl

/-- The terminal to which a sequence is given, once its ESC has ended what was being read. -/
def broken (now : Instant) (t : Terminal) (bytes : List UInt8) : Terminal :=
  { (t.decoder.step 0x1b).2.foldl (perform now) (t.reading bytes) with composeAt := none }

/-- The end of a string is the end of a command, of a request or of an image. -/
theorem alters_broken (t : Terminal) (now : Instant) (bytes : List UInt8) :
    t.Alters ([.composeAt, .schedule] ++ Aspect.operating) (t.broken now bytes) := by
  unfold broken
  refine ((t.alters_reading bytes).mono rfl).trans (.trans ?_ ((alters_composeAt _ none).mono rfl))
  obtain hnone | ⟨action, hone, hstring⟩ := t.decoder.step_escape.2
  · rw [hnone]
    exact .refl _ _
  · rw [hone]
    refine (alters_perform _ now action).mono ?_
    cases hstring <;> rfl

/-- What the ESC of a sequence completes leaves the shell as it is at the start of the sequence. -/
theorem shell_broken (t : Terminal) (now : Instant) (bytes : List UInt8) :
    (t.broken now bytes).shell = t.atSequence.shell := by
  unfold broken atSequence promptPending
  obtain hnone | ⟨action, hone, hstring⟩ := t.decoder.step_escape.2
  · rw [hnone]
    rfl
  · rw [hone]
    cases hstring with
    | command data bell =>
      refine (shell_operate _ data bell).trans ?_
      dsimp only
      split
      · apply shell_promptCommand <;> rfl
      · rfl
    | imageEnd => rfl
    | request r =>
      have served :=
        shell_of_alters (alters_serve { t.reading bytes with composeAt := none } now r) rfl
      exact served

theorem modifyGrid_congr {f f' : Grid → Grid} (h : f t.grid = f' t.grid) :
    t.modifyGrid f = t.modifyGrid f' := by
  unfold grid at h
  unfold modifyGrid
  split at h <;> rw [h]

/-- What is saved comes back as it is if it lies on the screen. -/
theorem restoreCursor_eq (hrow : t.grid.saved.cursor.row < t.grid.rows)
    (hcol : t.grid.saved.cursor.col < t.grid.cols) :
    t.restoreCursor = ({ t with
      rendition := t.grid.saved.rendition
      charsets := t.grid.saved.charsets
      modes := { t.modes with dec := { t.modes.dec with
        origin := t.grid.saved.origin
        autowrap := t.grid.saved.autowrap } } } : Terminal).putCursor t.grid.saved.cursor := by
  unfold restoreCursor putCursor
  dsimp only
  refine modifyGrid_congr ?_
  generalize t.grid.saved = saved at hrow hcol ⊢
  show (if (t.grid.setCursor saved.cursor.row saved.cursor.col).cursor.col = saved.cursor.col then
      { t.grid.setCursor saved.cursor.row saved.cursor.col with
        cursor := { (t.grid.setCursor saved.cursor.row saved.cursor.col).cursor with
          pendingWrap := saved.cursor.pendingWrap } }
    else t.grid.setCursor saved.cursor.row saved.cursor.col) =
      { t.grid with cursor := saved.cursor }
  have moved : t.grid.setCursor saved.cursor.row saved.cursor.col =
      { t.grid with cursor := ⟨saved.cursor.row, saved.cursor.col, false⟩ } := by
    rw [Grid.setCursor, Nat.min_eq_left (by omega), Nat.min_eq_left (by omega)]
  rw [moved, if_pos rfl]

/-- A program has the alternate screen of the terminal `u`. What the terminal would be without the
program is `t`, and the shell's cursor was saved at `cursor`. -/
structure Away (cursor : Cursor) (t u : Terminal) : Prop where
  screen : u.screen = .alternate
  primary : u.primary = { t.primary with saved :=
    { cursor := cursor
      rendition := t.rendition
      charsets := t.charsets
      origin := t.modes.dec.origin
      autowrap := t.modes.dec.autowrap } }
  row : cursor.row < t.primary.rows
  col : cursor.col < t.primary.cols

theorem away_enterAlternate (h : t.Valid cols rows) (hs : t.screen = .primary) :
    Away t.primary.cursor t (t.enterAlternate true) := by
  have here : t.isAlternate = false := by rw [isAlternate, hs]; rfl
  unfold enterAlternate
  rw [here, if_neg Bool.false_ne_true]
  refine ⟨rfl, ?_, ?_, ?_⟩
  · unfold saveCursor modifyGrid cursor grid note
    rw [if_pos rfl, hs]
  · rw [h.primary.rows_eq]
    exact h.primary.cursor_row
  · rw [h.primary.cols_eq]
    exact h.primary.cursor_col

/-- What the program does on its screen does not matter. -/
theorem Away.of_spares {cursor : Cursor} (h : Away cursor t u) {u' : Terminal} (hu : u.Spares u') :
    Away cursor t u' := by
  obtain ⟨screen, primary⟩ := hu.primary h.screen
  exact ⟨screen, primary.trans h.primary, h.row, h.col⟩

/-- When the program gives the screen back, the shell finds its own as it is without the program,
with the cursor where it was saved. -/
theorem Away.shell {cursor : Cursor} (h : Away cursor t u) :
    (u.leaveAlternate true).shell = { t.shell with cursor := cursor } := by
  have there : u.isAlternate = true := by rw [isAlternate, h.screen]; rfl
  unfold leaveAlternate
  rw [there, if_pos rfl]
  dsimp only
  -- what is left of the session on the grid is its region and where its cursor was
  obtain ⟨last, region, hg⟩ : ∃ last region,
      (u.primary.setRegion u.alternate.region.top u.alternate.region.bottom).setCursor
        u.alternate.cursor.row u.alternate.cursor.col =
          { u.primary with cursor := last, region := region } := by
    unfold Grid.setRegion
    dsimp only
    split <;> exact ⟨_, _, rfl⟩
  rw [hg, h.primary, if_pos rfl, restoreCursor_eq]
  · exact shell_markAllDirty _
  · exact h.row
  · exact h.col

/-- The alternate screen is blank at first, whatever was drawn there before. -/
theorem lines_enterAlternate (h : t.Valid cols rows) (hs : t.screen = .primary) (save : Bool) :
    (t.enterAlternate save).alternate.lines.map Row.line =
      List.replicate rows ⟨Array.replicate cols (.blank .default), false, false⟩ := by
  have here : t.isAlternate = false := by rw [isAlternate, hs]; rfl
  have same : (if save then t.saveCursor else t).alternate = t.alternate := by
    cases save with
    | false => rfl
    | true =>
      unfold saveCursor modifyGrid
      rw [if_pos rfl, hs]
  unfold enterAlternate
  rw [here, if_neg Bool.false_ne_true]
  dsimp only [note]
  rw [Grid.map_line_markAllDirty, same]
  have hg := (h.alternate.setRegion (if save then t.saveCursor else t).primary.region.top
    (if save then t.saveCursor else t).primary.region.bottom).setCursor
    (if save then t.saveCursor else t).primary.cursor.row
    (if save then t.saveCursor else t).primary.cursor.col
  generalize ((t.alternate.setRegion _ _).setCursor _ _ : Grid) = g at hg ⊢
  have room := hg.room
  have capacity : g.capacity = rows := hg.capacity
  have hrows := hg.rows_eq
  have hcols := hg.cols_eq
  have erased := hg.eraseRows 0 g.rows .default
  have room' := erased.room
  have capacity' : (g.eraseRows 0 g.rows .default).capacity = rows := erased.capacity
  have empty : (g.eraseRows 0 g.rows .default).sheet.history = [] := by
    rw [← List.length_eq_zero_iff, Grid.length_history (by omega)]
    omega
  rw [Grid.map_line_lines (by omega), Sheet.lines, empty, List.nil_append,
    Grid.screen_eraseRows (by omega) fun r hr => (hg.row r hr).size.trans hcols.symm,
    Sheet.blanks, hrows]
  rw [show g.sheet.cols = cols from hcols]

/-! ## A session -/

theorem spares_broken (now : Instant) (t : Terminal) (bytes : List UInt8) :
    t.Spares (t.broken now bytes) := .of_alters (t.alters_broken now bytes) rfl

theorem Valid.broken (h : t.Valid cols rows) (now : Instant) (bytes : List UInt8) :
    (t.broken now bytes).Valid cols rows :=
  have read : (t.reading bytes).Valid cols rows := h.of_eq rfl rfl rfl rfl
  have ended := read.foldl (fun _ action ht => ht.perform now action) (t.decoder.step 0x1b).2
  ended.of_eq rfl rfl rfl rfl

/-- A sequence that is read at once: what it asks for is done after the end of what was being
read. -/
theorem feed_broken {bytes : List UInt8} {action : Control.Action} (hbytes : bytes ≠ [])
    (h : (t.decoder.feed bytes).2.toList = (t.decoder.step 0x1b).2 ++ [action])
    (hprint : ∀ c, action ≠ .print c) (now : Instant) :
    ∃ schedule, t.feed bytes now =
      { act now (t.broken now bytes) action with schedule := schedule } := by
  have some : bytes.isEmpty = false := by simpa using hbytes
  rw [feed_eq, h, List.foldl_append, some]
  cases action with
  | print c => exact absurd rfl (hprint c)
  | execute | escape | control | command | imageStart | imageData | imageEnd | request =>
    exact ⟨_, rfl⟩

theorem feed_enterSession_eq (t : Terminal) (now : Instant) : ∃ schedule, t.feed enterSession now =
    { (t.broken now enterSession).enterAlternate true with schedule := schedule } :=
  feed_broken (by decide) (feed_enterSession t.decoder) nofun now

theorem feed_leaveSession_eq (t : Terminal) (now : Instant) : ∃ schedule, t.feed leaveSession now =
    { (t.broken now leaveSession).leaveAlternate true with schedule := schedule } :=
  feed_broken (by decide) (feed_leaveSession t.decoder) nofun now

/-- Once a program asked for the screen it is away there. -/
theorem away_feed_enterSession (h : t.Valid cols rows) (hs : t.screen = .primary) (now : Instant) :
    Away t.primary.cursor (t.broken now enterSession) (t.feed enterSession now) := by
  have primary : (t.broken now enterSession).screen = .primary :=
    (t.spares_broken now _).screen.trans hs
  have cursor : (t.broken now enterSession).primary.cursor = t.primary.cursor := by
    have before := congrArg Shell.cursor (t.shell_broken now enterSession)
    exact before.trans t.cursor_atSequence
  obtain ⟨schedule, hentered⟩ := t.feed_enterSession_eq now
  have away := away_enterAlternate (h.broken now enterSession) primary
  rw [cursor] at away
  rw [hentered]
  exact ⟨away.screen, away.primary, away.row, away.col⟩

/-- A program that gives the screen back leaves what the terminal would be without it. -/
theorem Away.feed_leaveSession {cursor : Cursor} (h : Away cursor t u) (now : Instant) :
    (u.feed leaveSession now).screen = .primary ∧
      (u.feed leaveSession now).shell = { t.shell with cursor := cursor } := by
  obtain ⟨schedule, hleft⟩ := u.feed_leaveSession_eq now
  rw [hleft]
  exact ⟨screen_leaveAlternate _ true, (h.of_spares (u.spares_broken now leaveSession)).shell⟩

theorem atSequence_of_not_pending {t : Terminal} (h : t.promptPending = false) :
    t.atSequence = t := by
  rw [atSequence, h, if_neg Bool.false_ne_true]

/-- A program on the alternate screen. It starts with a blank screen, and if its output stays on
that screen until it gives it back, the shell finds everything as it was when the program asked for
the screen. That is as it was before, unless asking ends a command that marks a prompt. -/
theorem shell_session (config : Config) (actions : List HostAction) (output : List UInt8)
    (now now' now'' : Instant) (hs : (drive config actions).screen = .primary) :
    let t := drive config actions
    let entered := t.feed enterSession now
    let left := (entered.feed output now').feed leaveSession now''
    entered.screen = .alternate ∧
      entered.alternate.lines.map Row.line =
        List.replicate t.rows ⟨Array.replicate t.cols (.blank .default), false, false⟩ ∧
      (entered.Stays now' output → left.screen = .primary ∧ left.shell = t.atSequence.shell ∧
        (t.promptPending = false → left.shell = t.shell)) := by
  intro t entered left
  have valid : t.Valid t.cols t.rows := drive_valid config actions
  have away := away_feed_enterSession valid hs now
  refine ⟨away.screen, ?_, fun hstays => ?_⟩
  · obtain ⟨schedule, hentered⟩ := t.feed_enterSession_eq now
    show (t.feed enterSession now).alternate.lines.map Row.line = _
    rw [hentered]
    exact lines_enterAlternate (valid.broken now enterSession)
      ((t.spares_broken now enterSession).screen.trans hs) true
  · obtain ⟨screen, shell⟩ := (away.of_spares (spares_feed hstays)).feed_leaveSession now''
    have same : left.shell = t.atSequence.shell := by
      refine shell.trans ?_
      rw [t.shell_broken now enterSession, ← t.cursor_atSequence]
    exact ⟨screen, same, fun hnone => by rw [same, atSequence_of_not_pending hnone]⟩

/-- Output of an editor: text, a saved cursor, a soft reset, and a cleared screen. -/
def editing : List UInt8 :=
  [0x78, 0x0a, 0x1b, 0x37, 0x1b, 0x5b, 0x21, 0x70, 0x79, 0x0a, 0x1b, 0x5b, 0x32, 0x4a]

/-- Three lines of a shell on a screen of two rows. -/
def shellOutput : List HostAction := [.feed [0x61, 0x0a, 0x62, 0x0a, 0x63, 0x64] 0]

theorem shell_session_editing :
    (drive { size := ⟨3, 2⟩, scrollback := 2 } shellOutput).screen = .primary ∧
      ((drive { size := ⟨3, 2⟩, scrollback := 2 } shellOutput).feed
        enterSession 1).Stays 2 editing ∧
      (drive { size := ⟨3, 2⟩, scrollback := 2 } shellOutput).promptPending = false ∧
      ((((drive { size := ⟨3, 2⟩, scrollback := 2 } shellOutput).feed enterSession 1).feed
        editing 2).feed leaveSession 3).shell =
        (drive { size := ⟨3, 2⟩, scrollback := 2 } shellOutput).shell :=
  have hs : (drive { size := ⟨3, 2⟩, scrollback := 2 } shellOutput).screen = .primary := by
    decide +kernel
  have stays : ((drive { size := ⟨3, 2⟩, scrollback := 2 } shellOutput).feed enterSession 1).Stays 2
      editing := by
    decide +kernel
  have hnone : (drive { size := ⟨3, 2⟩, scrollback := 2 } shellOutput).promptPending = false := by
    decide +kernel
  ⟨hs, stays, hnone, ((shell_session { size := ⟨3, 2⟩, scrollback := 2 } shellOutput editing 1 2 3
    hs).2.2 stays).2.2 hnone⟩

/-- A command that marks a prompt and has not ended. -/
def openPrompt : List HostAction := [.feed [0x1b, 0x5d, 0x31, 0x33, 0x33, 0x3b, 0x41] 0]

/-- The command ends where the program asks for the screen, and the cursor's row is marked. -/
theorem shell_session_openPrompt :
    let t := drive { size := ⟨3, 2⟩, scrollback := 2 } openPrompt
    let left := ((t.feed enterSession 1).feed [] 2).feed leaveSession 3
    t.screen = .primary ∧ (t.feed enterSession 1).Stays 2 [] ∧ left.shell ≠ t.shell ∧
      t.shell.lines.map Line.prompt = [false, false] ∧
      left.shell.lines.map Line.prompt = [true, false] := by
  decide +kernel

end Terminal

end Teletype
