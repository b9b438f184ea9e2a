import Teletype.Proofs.Machine.Run

/-!
# Whatever a host does can be computed

A host feeds a terminal output, gives it other sizes and looks back. At every size whose cells can
be in memory, each step of what the terminal computes can be taken.
-/

namespace Teletype

open Machine

/-- A size of screens that machine words can describe together with the configured scrollback. -/
def Config.Fits (config : Config) (cols rows : Nat) : Prop :=
  (Grid.Format.of .primary (max cols 1) (max rows 1) config.scrollback).Fits

instance (config : Config) (cols rows : Nat) : Decidable (config.Fits cols rows) :=
  inferInstanceAs (Decidable (Grid.Format.Fits _))

namespace HostAction

/-- A host gives a terminal only such sizes. -/
def Fits (config : Config) : HostAction → Prop
  | .resize cols rows => config.Fits cols rows
  | _ => True

instance (config : Config) : (action : HostAction) → Decidable (action.Fits config)
  | .resize cols rows => inferInstanceAs (Decidable (config.Fits cols rows))
  | .feed .. | .viewUp _ | .viewDown _ | .viewToBottom | .previousPrompt | .nextPrompt | .clearDirty
  | .poll _ | .requestImmediate | .setClipboard _ | .startImages | .takeReplies | .takeEvents
  | .takeReports | .takeImages => inferInstanceAs (Decidable True)

/-- A frame is drawn from the rows that are displayed. -/
def checkedApply (t : Terminal) (action : HostAction) : Option Terminal :=
  match action with
  | .feed bytes now => t.checkedFeed bytes now
  | .resize cols rows => t.checkedResize cols rows
  | .viewUp n => t.checkedOnGrid (·.checkedViewUp n)
  | .viewDown n => t.checkedOnGrid (·.checkedViewDown n)
  | .viewToBottom => t.checkedOnGrid Grid.checkedViewToBottom
  | .previousPrompt => t.checkedOnGrid Grid.checkedPreviousPrompt
  | .nextPrompt => t.checkedOnGrid Grid.checkedNextPrompt
  | .clearDirty => do
    forget t.grid.checkedAnyDirty
    forget t.grid.checkedDisplayed
    return t.modifyGrid Grid.clearDirty
  | action => some (action.apply t)

end HostAction

namespace Terminal

def checkedNew (config : Config) : Option Terminal := do
  forget (Grid.checkedNew .primary config.size.width config.size.height config.scrollback)
  forget (Grid.checkedNew .alternate config.size.width config.size.height 0)
  return .new config

/-- A host makes a terminal and goes on as long as every step can be taken. -/
def checkedDrive (config : Config) (actions : List HostAction) : Option Terminal := do
  let t ← checkedNew config
  actions.foldlM HostAction.checkedApply t

/-- What a host holds: a terminal of a size that words can describe, whose decoder keeps within its
bounds. -/
structure Driven (config : Config) (t : Terminal) : Prop where
  config_eq : t.config = config
  configured : t.Configured
  decoder : t.decoder.state.Bounded
  held : ∃ cols rows, t.Held cols rows

variable {config : Config} {t : Terminal}

theorem checkedNew_eq (h : config.Fits config.size.width config.size.height) :
    checkedNew config = some (.new config) ∧ (Terminal.new config).Driven config := by
  have valid := valid_new config
  have primary : (Terminal.new config).primary.format.Fits := Grid.format_new ▸ h
  have alternate : (Terminal.new config).alternate.format.Fits :=
    valid.alternate.fits_alternate h.cols_le h.rows_le
  refine ⟨?_, rfl, configured_new config, trivial, _, _, valid, primary, alternate⟩
  exact bind_eq (forget_of_eq (Grid.checkedNew_eq primary))
    (bind_eq (forget_of_eq (Grid.checkedNew_eq alternate)) rfl)

namespace Driven

/-- Only the state of the decoder and the screens matter. -/
theorem of_eq {t' : Terminal} (h : t.Driven config) (hconfig : t'.config = t.config)
    (hdecoder : t'.decoder = t.decoder) (hp : t'.primary = t.primary)
    (ha : t'.alternate = t.alternate)
    (htabs : t'.tabs = t.tabs) (htitles : t'.titleStack = t.titleStack) : t'.Driven config := by
  obtain ⟨cols, rows, held⟩ := h.held
  refine ⟨hconfig.trans h.config_eq, ?_, hdecoder ▸ h.decoder, cols, rows,
    held.of_eq hp ha htabs htitles⟩
  exact h.configured.of_format hconfig (congrArg _ hdecoder) (congrArg _ hp) (congrArg _ ha)

/-- A change of the grid in use that leaves its size alone. -/
theorem modifyGrid (h : t.Driven config) {f : Grid → Grid}
    (hvalid : ∀ {kind cols rows}, t.grid.Valid kind cols rows → (f t.grid).Valid kind cols rows)
    (hformat : ∀ g, (f g).format = g.format) : (t.modifyGrid f).Driven config := by
  obtain ⟨cols, rows, held⟩ := h.held
  have same : (t.modifyGrid f).config = t.config ∧ (t.modifyGrid f).decoder = t.decoder := by
    unfold Terminal.modifyGrid
    split <;> exact ⟨rfl, rfl⟩
  refine ⟨same.1.trans h.config_eq, h.configured.modifyGrid hformat, same.2 ▸ h.decoder,
    cols, rows, ?_⟩
  exact held.modifyGrid fun hg => ⟨hvalid hg.valid, hformat t.grid ▸ hg.fits⟩

/-- Looking back by a step that can be taken. -/
theorem look (h : t.Driven config) (s : Grid → Option Grid) (f : Grid → Grid)
    (hs : s t.grid = some (f t.grid))
    (hvalid : ∀ {kind cols rows}, t.grid.Valid kind cols rows → (f t.grid).Valid kind cols rows)
    (hformat : ∀ g, (f g).format = g.format) :
    t.checkedOnGrid s = some (t.modifyGrid f) ∧ (t.modifyGrid f).Driven config :=
  ⟨checkedOnGrid_eq hs, h.modifyGrid hvalid hformat⟩

theorem inBounds (h : t.Driven config) : t.grid.InBounds :=
  let ⟨_, _, held⟩ := h.held
  held.inBounds

theorem feed (h : t.Driven config) (bytes : List UInt8) (now : Instant) :
    t.checkedFeed bytes now = some (t.feed bytes now) ∧ (t.feed bytes now).Driven config := by
  obtain ⟨cols, rows, held⟩ := h.held
  have fed := held.valid.alike.feed bytes now
  have state : (t.feed bytes now).decoder.state = (t.decoder.feed bytes).1.state := fed.state
  have read : ({ t with decoder := (t.reading bytes).decoder } : Terminal).Held cols rows :=
    held.of_eq rfl rfl rfl rfl
  refine ⟨held.checkedFeed h.decoder bytes now, fed.config.trans h.config_eq,
    h.configured.feed held.valid bytes now, ?_, cols, rows,
    read.next (held.valid.feed bytes now) fed⟩
  rw [state]
  exact (Control.Decoder.bounded_feed h.decoder bytes).1

theorem resize (h : t.Driven config) {cols rows : Nat} (hfits : config.Fits cols rows) :
    t.checkedResize cols rows = some (t.resize cols rows) ∧ (t.resize cols rows).Driven config := by
  obtain ⟨_, _, held⟩ := h.held
  have fits : (Grid.Format.of .primary (max cols 1) (max rows 1) t.config.scrollback).Fits :=
    h.config_eq ▸ hfits
  have decoder : (t.resize cols rows).decoder = t.decoder := by
    unfold Terminal.resize
    dsimp only
    split
    · rfl
    · unfold Terminal.modifyGrid
      split <;> rfl
  refine ⟨held.checkedResize (h.configured.scrollback ▸ fits),
    (config_resize t cols rows).trans h.config_eq, h.configured.resize held.valid cols rows,
    decoder ▸ h.decoder, _, _,
    h.configured.held_resize held.valid fits⟩

/-- What a host does next can be computed and leads to a terminal that it can go on with. -/
theorem apply (h : t.Driven config) {action : HostAction} (hfits : action.Fits config) :
    action.checkedApply t = some (action.apply t) ∧ (action.apply t).Driven config := by
  have grid := h.inBounds
  cases action with
  | feed bytes now => exact h.feed bytes now
  | resize cols rows => exact h.resize hfits
  | viewUp n =>
    exact h.look (·.checkedViewUp n) (fun g => (g.viewUp n).1) (grid.checkedViewUp n) (·.viewUp n)
      (Grid.format_viewUp · n)
  | viewDown n =>
    exact h.look (·.checkedViewDown n) (fun g => (g.viewDown n).1) (grid.checkedViewDown n)
      (·.viewDown n) (Grid.format_viewDown · n)
  | viewToBottom =>
    exact h.look _ _ grid.checkedViewToBottom (·.viewToBottom) Grid.format_viewToBottom
  | previousPrompt =>
    exact h.look _ (fun g => g.previousPrompt.1) grid.checkedPreviousPrompt (·.previousPrompt)
      Grid.format_previousPrompt
  | nextPrompt =>
    exact h.look _ (fun g => g.nextPrompt.1) grid.checkedNextPrompt (·.nextPrompt)
      Grid.format_nextPrompt
  | clearDirty =>
    exact ⟨bind_eq (forget_of_eq grid.checkedAnyDirty)
      (bind_eq (forget_of_eq grid.checkedDisplayed) rfl),
      h.modifyGrid (·.clearDirty) Grid.format_clearDirty⟩
  | poll | requestImmediate | setClipboard | startImages | takeReplies | takeEvents | takeReports
  | takeImages => exact ⟨rfl, h.of_eq rfl rfl rfl rfl rfl rfl⟩

end Driven

/-- Whatever output a terminal is fed, however it is resized and wherever its view is moved, no
index is out of range, no sum or difference leaves its word and no modulus is zero, at all sizes of
at most 65535 columns and rows whose rings can be in memory. -/
theorem checkedDrive_eq_some_drive (config : Config) (actions : List HostAction)
    (hsize : config.Fits config.size.width config.size.height)
    (hactions : ∀ action ∈ actions, action.Fits config) :
    checkedDrive config actions = some (drive config actions) := by
  obtain ⟨start, driven⟩ := checkedNew_eq hsize
  refine bind_eq start ?_
  exact (foldlM_eq (fun actions (t : Terminal) => t.Driven config ∧
    ∀ action ∈ actions, action.Fits config) (fun t action rest ⟨ht, hrest⟩ =>
      have next := ht.apply (hrest action List.mem_cons_self)
      ⟨next.1, next.2, fun action haction => hrest action (List.mem_cons_of_mem _ haction)⟩)
    ⟨driven, hactions⟩).1

/-- A program scrolls a prompt away, asks for a setting and moves to a row that does not exist; a
wide character ends the output halfway, and its rest arrives on a screen of one cell. -/
def stretched : List HostAction :=
  [.feed [0x1b, 0x5d, 0x31, 0x33, 0x33, 0x3b, 0x41, 0x07, 0x61, 0x0a, 0x0a, 0x0a, 0x1b,
    0x50, 0x24, 0x71,
      0x72, 0x1b, 0x5c, 0x1b, 0x5b, 0x36, 0x35, 0x35, 0x33, 0x35, 0x48] 0,
    .previousPrompt, .resize 65535 65535, .viewDown 1,
    .feed [0x1b, 0x5b, 0x33, 0x3b, 0x34, 0x72, 0xe4, 0xb8] 1,
    .resize 1 1, .feed [0xad, 0x0a] 2, .clearDirty]

theorem checkedDrive_eq_some_drive_stretched :
    ({ size := ⟨3, 2⟩, scrollback := 2 } : Config).Fits 3 2 ∧
      (∀ action ∈ stretched, action.Fits { size := ⟨3, 2⟩, scrollback := 2 }) ∧
      checkedDrive { size := ⟨3, 2⟩, scrollback := 2 } stretched =
        some (drive { size := ⟨3, 2⟩, scrollback := 2 } stretched) :=
  have size : ({ size := ⟨3, 2⟩, scrollback := 2 } : Config).Fits 3 2 := by decide +kernel
  have actions : ∀ action ∈ stretched, action.Fits { size := ⟨3, 2⟩, scrollback := 2 } := by
    decide +kernel
  ⟨size, actions,
    checkedDrive_eq_some_drive { size := ⟨3, 2⟩, scrollback := 2 } stretched size actions⟩

end Terminal

end Teletype
