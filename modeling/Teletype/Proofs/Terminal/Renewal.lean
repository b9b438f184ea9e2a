import Teletype.Proofs.Terminal.AlikeRun
import Teletype.Proofs.Terminal.Reachable

/-!
# A full reset is a new start

Whatever was fed to a terminal before a full reset, from then on it shows and answers what a new one
would.
-/

namespace Teletype

namespace Grid

/-- What is seen of a grid. Where its ring starts, the numbers of the rows and the marks are not. -/
structure Picture where
  cols : Nat
  rows : Nat
  /-- The scrollback and the screen, the oldest line first. -/
  lines : List Line
  history : Nat
  viewDistance : Nat
  region : Region
  cursor : Cursor
  saved : SavedCursor
  deriving DecidableEq

def picture (g : Grid) : Picture :=
  { cols := g.cols
    rows := g.rows
    lines := g.lines.map Row.line
    history := g.history
    viewDistance := g.viewDistance
    region := g.region
    cursor := g.cursor
    saved := g.saved }

theorem Alike.picture {format : Format} {g g' : Grid} (h : Alike format g g') :
    g.picture = g'.picture := by
  unfold Grid.picture
  rw [h.cols, h.rows, h.lines, h.history, h.viewDistance, h.region, h.cursor, h.saved]

/-- A grid that was started anew shows what a new one does. -/
theorem alike_clearAll_new {kind : ScreenKind} {cols rows : Nat} {g : Grid}
    (h : g.Valid kind cols rows) (hcapacity : g.capacity = capacityFor kind rows g.scrollback) :
    Alike g.format g.clearAll (new kind cols rows g.scrollback) := by
  have hcols : max cols 1 = cols := Nat.max_eq_left h.cols_pos
  have hrows : max rows 1 = rows := Nat.max_eq_left h.rows_pos
  have size : g.clearAll.capacity = g.capacity := Array.size_mapIdx ..
  have size' : (new kind cols rows g.scrollback).capacity = g.capacity := by
    rw [hcapacity, Grid.capacity]
    simp [new, hrows]
  have pos : 0 < g.capacity := Nat.lt_of_le_of_lt (Nat.zero_le _) h.offset_lt
  have blank (i : Nat) : (g.clearAll.slots[i % g.capacity]?).map Row.line =
      some (Row.blank cols .default 0).line := by
    have lt : i % g.capacity < g.slots.size := Nat.mod_lt _ pos
    have hsize := (h.row g.slots[i % g.capacity] (Array.getElem_mem lt)).size
    simp [clearAll, lt, Row.reset, Row.blank, Row.line, hsize]
  have blank' (i : Nat) : ((new kind cols rows g.scrollback).slots[i % g.capacity]?).map Row.line =
      some (Row.blank cols .default 0).line := by
    have lt : i % g.capacity < capacityFor kind rows g.scrollback := hcapacity ▸ Nat.mod_lt _ pos
    simp [new, hcols, hrows, lt, Row.blank, Row.line]
  constructor
  case left =>
    rw [format, size]
    rfl
  case right =>
    rw [format, size', format, h.kind_eq, h.cols_eq, h.rows_eq]
    simp [new, hcols, hrows]
  case inRing =>
    rw [InRing, size]
    exact ⟨h.offset_lt, h.offset_lt, Nat.zero_le _⟩
  case inRing' =>
    rw [InRing, size']
    exact ⟨pos, pos, Nat.zero_le _⟩
  case around =>
    rw [size]
    exact ⟨size, size', fun i => (blank _).trans (blank' _).symm⟩
  case view => exact congrArg (· % g.clearAll.capacity) (Nat.add_comm g.offset 0)
  case region => exact congrArg Region.full (h.rows_eq.trans hrows.symm)
  case history | cursor | saved => rfl

theorem format_setView (g : Grid) (view : Nat) : (g.setView view).format = g.format := by
  simp [format, setView, markAllDirty, capacity]

theorem format_viewUp (g : Grid) (n : Nat) : (g.viewUp n).1.format = g.format := by
  unfold viewUp
  dsimp only
  split
  · rfl
  · exact format_setView _ _

theorem format_viewDown (g : Grid) (n : Nat) : (g.viewDown n).1.format = g.format := by
  unfold viewDown
  dsimp only
  split
  · rfl
  · exact format_setView _ _

theorem format_viewToBottom (g : Grid) : g.viewToBottom.format = g.format := by
  unfold viewToBottom
  split
  · rfl
  · exact format_setView _ _

theorem format_previousPrompt (g : Grid) : g.previousPrompt.1.format = g.format := by
  unfold previousPrompt
  split
  · rfl
  · exact format_viewUp _ _

theorem format_nextPrompt (g : Grid) : g.nextPrompt.1.format = g.format := by
  unfold nextPrompt
  split
  · rfl
  · exact format_viewDown _ _

theorem format_markAllDirty (g : Grid) : g.markAllDirty.format = g.format := by
  simp [format, markAllDirty, capacity]

theorem format_clearDirty (g : Grid) : g.clearDirty.format = g.format := by
  simp [format, clearDirty, capacity]

end Grid

namespace Terminal

variable {cols rows : Nat} {t : Terminal}

/-! ## What a terminal was made with -/

/-- What a terminal was made with and what never changes agree with its configuration. -/
structure Configured (t : Terminal) : Prop where
  sixel : t.decoder.sixel = t.config.sixel
  scrollback : t.primary.scrollback = t.config.scrollback
  capacity : t.primary.capacity = Grid.capacityFor .primary t.primary.rows t.primary.scrollback
  alternate : t.alternate.scrollback = 0

theorem configured_new (config : Config) : (Terminal.new config).Configured where
  sixel := rfl
  scrollback := rfl
  capacity := by simp [Terminal.new, Grid.new, Grid.capacity]
  alternate := rfl

/-- A terminal stays configured where its configuration, its image switch and the formats of its
screens stay. -/
theorem Configured.of_format {t' : Terminal} (h : t.Configured) (hconfig : t'.config = t.config)
    (hsixel : t'.decoder.sixel = t.decoder.sixel) (hp : t'.primary.format = t.primary.format)
    (ha : t'.alternate.format = t.alternate.format) : t'.Configured := by
  have hrows : t'.primary.rows = t.primary.rows := congrArg Grid.Format.rows hp
  have hscrollback : t'.primary.scrollback = t.primary.scrollback :=
    congrArg Grid.Format.scrollback hp
  have hcapacity : t'.primary.capacity = t.primary.capacity := congrArg Grid.Format.capacity hp
  have hnone : t'.alternate.scrollback = t.alternate.scrollback :=
    congrArg Grid.Format.scrollback ha
  constructor
  · rw [hsixel, hconfig, h.sixel]
  · rw [hscrollback, hconfig, h.scrollback]
  · rw [hcapacity, hrows, hscrollback, h.capacity]
  · rw [hnone, h.alternate]

theorem Configured.modifyGrid (h : t.Configured) {f : Grid → Grid}
    (hf : ∀ g, (f g).format = g.format) : (t.modifyGrid f).Configured := by
  unfold Terminal.modifyGrid
  split
  · exact h.of_format rfl rfl (hf _) rfl
  · exact h.of_format rfl rfl rfl (hf _)

/-- A terminal is like itself without what it queued. -/
theorem Valid.alike (h : t.Valid cols rows) :
    Alike t t { t with replies := #[], fault := false } := by
  have primary := h.primary.inRing.alike
  have alternate := h.alternate.inRing.alike
  constructor
  case primary => exact primary
  case alternate => exact alternate
  case replies => simp
  case fault => simp
  all_goals rfl

/-- Output changes no setting. -/
theorem Configured.feed (h : t.Configured) (hv : t.Valid cols rows) (bytes : List UInt8)
    (now : Instant) : (t.feed bytes now).Configured := by
  have fed := hv.alike.feed bytes now
  have sixel : (t.feed bytes now).decoder.sixel = t.decoder.sixel :=
    fed.sixel.trans (t.decoder.sixel_feed bytes)
  exact h.of_format fed.config sixel fed.primary.left fed.alternate.left

theorem Configured.resize (h : t.Configured) (hv : t.Valid cols rows) (cols' rows' : Nat) :
    (t.resize cols' rows').Configured := by
  unfold Terminal.resize
  dsimp only
  split
  · exact h
  · have capacity : t.primary.capacity =
        Grid.capacityFor t.primary.kind t.primary.rows t.primary.scrollback := by
      rw [hv.primary.kind_eq]
      exact h.capacity
    have resized := Grid.capacity_resize capacity (max rows' 1) (max cols' 1) t.config.reflow
    rw [hv.primary.kind_eq] at resized
    have sized : ({ t with
        tabs := t.tabsFor (max cols' 1)
        primary := t.primary.resize (max rows' 1) (max cols' 1) t.config.reflow
        alternate := t.alternate.resize (max rows' 1) (max cols' 1) false
        composeAt := none
        schedule := t.schedule.requestImmediate } : Terminal).Configured := by
      constructor
      · exact h.sixel
      · dsimp only
        rw [Grid.scrollback_resize, h.scrollback]
      · dsimp only
        rw [resized, Grid.scrollback_resize]
      · dsimp only
        rw [Grid.scrollback_resize, h.alternate]
    exact (sized.modifyGrid Grid.format_markAllDirty).of_format rfl rfl rfl rfl

theorem Configured.apply (h : t.Configured) (hv : t.Valid cols rows) (action : HostAction) :
    (action.apply t).Configured := by
  cases action with
  | feed bytes now => exact h.feed hv bytes now
  | resize cols' rows' => exact h.resize hv cols' rows'
  | viewUp n => exact h.modifyGrid fun g => g.format_viewUp n
  | viewDown n => exact h.modifyGrid fun g => g.format_viewDown n
  | viewToBottom => exact h.modifyGrid Grid.format_viewToBottom
  | previousPrompt => exact h.modifyGrid Grid.format_previousPrompt
  | nextPrompt => exact h.modifyGrid Grid.format_nextPrompt
  | clearDirty => exact h.modifyGrid Grid.format_clearDirty
  | poll now => exact h.of_format rfl rfl rfl rfl
  | requestImmediate => exact h.of_format rfl rfl rfl rfl
  | setClipboard data => exact h.of_format rfl rfl rfl rfl
  | startImages => exact h.of_format rfl rfl rfl rfl
  | takeReplies => exact h.of_format rfl rfl rfl rfl
  | takeEvents => exact h.of_format rfl rfl rfl rfl
  | takeReports => exact h.of_format rfl rfl rfl rfl
  | takeImages => exact h.of_format rfl rfl rfl rfl

theorem Configured.drive (h : t.Configured) (hv : t.Valid cols rows) (actions : List HostAction) :
    (actions.foldl HostAction.apply t).Configured := by
  induction actions generalizing t cols rows with
  | nil => exact h
  | cons action actions ih =>
    obtain ⟨cols', rows', hv'⟩ := hv.apply action
    exact ih (h.apply hv action) hv'

theorem configured_drive (config : Config) (actions : List HostAction) :
    (drive config actions).Configured := (configured_new config).drive (valid_new config) actions

/-! ## A new start -/

/-- A new terminal with the configuration and the size that a terminal has, and with its
clipboard. -/
def powerOn (t : Terminal) : Terminal :=
  { new { t.config with size := ⟨t.cols, t.rows⟩ } with clipboard := t.clipboard }

/-- Going back to the primary screen changes that screen and adds a report. -/
theorem leaveAlternate_eq (t : Terminal) : ∃ primary reports, t.leaveAlternate false =
    { t with screen := .primary, primary := primary, reports := reports } := by
  unfold Terminal.leaveAlternate
  split
  · exact ⟨_, _, rfl⟩
  · rename_i hs
    have screen : t.screen = .primary := by
      rw [Terminal.isAlternate, decide_eq_true_eq] at hs
      cases ht : t.screen with
      | primary => rfl
      | alternate => exact absurd ht hs
    refine ⟨t.primary, t.reports, ?_⟩
    rw [← screen]

/-- A reset leads to what a new terminal is, but for where the decoder is and where the last
character went. -/
theorem Configured.alike_hardReset (h : t.Configured) (hv : t.Valid cols rows) :
    Alike t t.hardReset { t.powerOn with decoder := t.decoder, composeAt := t.composeAt } := by
  obtain ⟨primary, reports, heq⟩ := t.leaveAlternate_eq
  have left := hv.leaveAlternate false
  have format := (hv.alike.leaveAlternate false).primary.left
  rw [heq] at left format
  dsimp only at format
  have scrollback : primary.scrollback = t.config.scrollback :=
    (congrArg Grid.Format.scrollback format).trans h.scrollback
  have hcols : primary.cols = t.cols := congrArg Grid.Format.cols format
  unfold Terminal.hardReset
  dsimp only
  rw [heq, Grid.viewToBottom_clearAll]
  constructor
  case primary =>
    have capacity : primary.capacity = Grid.capacityFor .primary rows primary.scrollback := by
      rw [show primary.capacity = t.primary.capacity from congrArg Grid.Format.capacity format,
        h.capacity, hv.primary.rows_eq, h.scrollback, scrollback]
    have cleared := Grid.alike_clearAll_new left.primary capacity
    rw [format, scrollback, ← hv.primary.cols_eq, ← hv.primary.rows_eq] at cleared
    exact cleared
  case alternate =>
    have cleared := Grid.alike_clearAll_new hv.alternate (hv.alternate.capacity)
    rw [h.alternate, ← hv.primary.cols_eq, ← hv.primary.rows_eq] at cleared
    exact cleared
  case sixel' => rfl
  case syncing => rw [Schedule.isSyncing_requestImmediate, Schedule.isSyncing_endSync]; rfl
  case tabs =>
    have pos : t.primary.cols = max t.primary.cols 1 :=
      (Nat.max_eq_left (hv.primary.cols_eq ▸ hv.primary.cols_pos)).symm
    exact congrArg (standardTabs 0) (hcols.trans pos)
  case replies => exact Array.append_empty.symm
  case fault => exact (Bool.or_false t.fault).symm
  all_goals rfl

/-- What is seen of a terminal and decides what it does next. Titles, the working directory, the
pointer, notifications and deadlines are not. -/
structure Picture where
  primary : Grid.Picture
  alternate : Grid.Picture
  screen : ScreenKind
  rendition : Rendition
  charsets : Charsets
  modes : Modes
  savedModes : List (Nat × Bool)
  tabs : List Nat
  colors : Colors
  cursorShape : CursorShape
  cursorBlink : Bool
  clusters : Std.HashMap Nat Cluster
  links : Links
  link : Nat
  titleDepth : Nat
  clipboard : Option (List UInt8)
  lastPrinted : Option Char
  composeAt : Option (Nat × Nat)
  syncing : Bool
  state : Control.State

def picture (t : Terminal) : Picture :=
  { primary := t.primary.picture
    alternate := t.alternate.picture
    screen := t.screen
    rendition := t.rendition
    charsets := t.charsets
    modes := t.modes
    savedModes := t.savedModes
    tabs := t.tabs
    colors := t.colors
    cursorShape := t.cursorShape
    cursorBlink := t.cursorBlink
    clusters := t.clusters.entries
    links := t.links
    link := t.link
    titleDepth := t.titleStack.length
    clipboard := t.clipboard
    lastPrinted := t.lastPrinted
    composeAt := t.composeAt
    syncing := t.schedule.isSyncing
    state := t.decoder.state }

theorem Alike.picture {past u : Terminal} (h : Alike past t u) : t.picture = u.picture := by
  unfold Terminal.picture
  rw [h.primary.picture, h.alternate.picture, h.screen, h.rendition, h.charsets, h.modes,
    h.savedModes, h.tabs, h.colors, h.cursorShape, h.cursorBlink, h.clusters, h.links, h.link,
    h.titles, h.clipboard,
    h.lastPrinted, h.composeAt, h.syncing, h.state, h.state']

/-- The decoder in its ground state reads ESC and a small c as the request for a reset. -/
theorem feed_reset {d d' : Control.Decoder} (hground : d.state = .ground)
    (hground' : d'.state = .ground) (hsixel : d.sixel = d'.sixel) (bytes : List UInt8) :
    (d.feed (0x1b :: 0x63 :: bytes)).2.toList = .escape ⟨[], 0x63⟩ :: (d'.feed bytes).2.toList ∧
      (d.feed (0x1b :: 0x63 :: bytes)).1.state = (d'.feed bytes).1.state := by
  obtain ⟨state, sixel, warned, reports⟩ := d
  obtain rfl : state = .ground := hground
  have state : ((Control.Decoder.step ⟨.ground, sixel, warned, reports⟩ 0x1b).1.step 0x63).1.state =
      d'.state := hground'.symm
  obtain ⟨hactions, hstate⟩ := Control.Decoder.feed_congr state hsixel bytes
  rw [(Control.Decoder.feed_cons _ _ _).1, (Control.Decoder.feed_cons _ _ _).2,
    (Control.Decoder.feed_cons _ _ _).1, (Control.Decoder.feed_cons _ _ _).2, hactions, hstate]
  exact ⟨rfl, rfl⟩

/-- After a reset the rest of the output does what it would do to a new terminal. -/
theorem Configured.alike_feed_reset (h : t.Configured) (hv : t.Valid cols rows)
    (hground : t.decoder.state = .ground) (bytes : List UInt8) (now : Instant) :
    Alike (t.reading (0x1b :: 0x63 :: bytes)) (t.feed (0x1b :: 0x63 :: bytes) now)
      (t.powerOn.feed bytes now) := by
  obtain ⟨hactions, hstate⟩ := feed_reset hground (show t.powerOn.decoder.state = .ground from rfl)
    h.sixel bytes
  have hsixel := t.decoder.sixel_feed (0x1b :: 0x63 :: bytes)
  have hsixel' := t.powerOn.decoder.sixel_feed bytes
  have hread :
      ({ t.reading (0x1b :: 0x63 :: bytes) with composeAt := none } : Terminal).Configured :=
    h.of_format rfl hsixel rfl rfl
  have reset := hread.alike_hardReset (hv.of_eq rfl rfl rfl rfl)
  have start : Alike (t.reading (0x1b :: 0x63 :: bytes))
      (perform now (t.reading (0x1b :: 0x63 :: bytes)) (.escape ⟨[], 0x63⟩))
      (t.powerOn.reading bytes) :=
    { reset with
      sixel' := hsixel'.trans (h.sixel.symm.trans hsixel.symm)
      state' := hstate.symm }
  rw [feed_eq, feed_eq, hactions, List.foldl_cons]
  exact Alike.onOutput (start.foldl (fun action ht => ht.perform now action) _) now _ _

/-- A full reset from the ground state of the decoder makes a new start: whatever output follows,
the terminal shows what a new one of the same configuration, size and clipboard would, and replies
what that one would after what it had queued before. -/
theorem feed_reset_eq_powerOn (config : Config) (actions : List HostAction)
    (hground : (drive config actions).decoder.state = .ground) (bytes : List UInt8)
    (now : Instant) :
    ((drive config actions).feed (0x1b :: 0x63 :: bytes) now).picture =
        ((drive config actions).powerOn.feed bytes now).picture ∧
      ((drive config actions).feed (0x1b :: 0x63 :: bytes) now).replies =
        (drive config actions).replies ++
          ((drive config actions).powerOn.feed bytes now).replies := by
  have alike :=
    (configured_drive config actions).alike_feed_reset (drive_valid config actions)
      hground bytes now
  exact ⟨alike.picture, alike.replies⟩

/-- A program that uses the alternate screen and a red rendition, asks where the cursor is and is
gone then. -/
def abandoned : List HostAction :=
  [.feed [0x61, 0x0d, 0x0a, 0x62, 0x0a, 0x1b, 0x5b, 0x3f, 0x31, 0x30, 0x34, 0x39, 0x68,
    0x1b, 0x5b, 0x33,
      0x31, 0x6d, 0x63, 0x1b, 0x5b, 0x36, 0x6e] 0,
    .resize 3 2, .setClipboard [0x78]]

theorem ground_of_name {s : Control.State} (h : s.name = "Ground") : s = .ground := by
  cases s with
  | ground => rfl
  | _ => exact absurd h (by simp [Control.State.name])

theorem feed_reset_eq_powerOn_abandoned :
    (drive { size := ⟨2, 2⟩, scrollback := 2 } abandoned).isAlternate ∧
      (drive { size := ⟨2, 2⟩, scrollback := 2 } abandoned).decoder.state = .ground ∧
      (((drive { size := ⟨2, 2⟩, scrollback := 2 } abandoned).feed [0x1b, 0x63, 0x64] 1).picture =
        ((drive { size := ⟨2, 2⟩, scrollback := 2 } abandoned).powerOn.feed [0x64] 1).picture ∧
      ((drive { size := ⟨2, 2⟩, scrollback := 2 } abandoned).feed [0x1b, 0x63, 0x64] 1).replies =
        (drive { size := ⟨2, 2⟩, scrollback := 2 } abandoned).replies ++
          ((drive { size := ⟨2, 2⟩, scrollback := 2 } abandoned).powerOn.feed [0x64] 1).replies) :=
  have ground : (drive { size := ⟨2, 2⟩, scrollback := 2 } abandoned).decoder.state = .ground :=
    ground_of_name (by decide +kernel)
  ⟨by decide +kernel, ground,
    feed_reset_eq_powerOn { size := ⟨2, 2⟩, scrollback := 2 } abandoned ground [0x64] 1⟩

end Terminal

end Teletype
