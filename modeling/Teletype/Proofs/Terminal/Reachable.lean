import Teletype.Proofs.Terminal.ValidRun

/-!
# Reachable terminals

A host makes a terminal with a configuration and from then on feeds it output, changes its size,
looks back in its scrollback and takes what is queued for it. Every terminal that this leads to is
valid.
-/

namespace Teletype

/-- What a host does with a terminal. -/
inductive HostAction where
  /-- Output of the application arrives. -/
  | feed (bytes : List UInt8) (now : Instant)
  | resize (cols rows : Nat)
  | viewUp (n : Nat)
  | viewDown (n : Nat)
  | viewToBottom
  | previousPrompt
  | nextPrompt
  /-- A frame was drawn from the grid in use. -/
  | clearDirty
  /-- Time passes. -/
  | poll (now : Instant)
  | requestImmediate
  /-- Another program filled the clipboard. -/
  | setClipboard (data : List UInt8)
  /-- Images are decoded from now on. -/
  | startImages
  | takeReplies
  | takeEvents
  | takeReports
  | takeImages

/-- The terminal after a host acted. -/
def HostAction.apply (t : Terminal) : HostAction → Terminal
  | .feed bytes now => t.feed bytes now
  | .resize cols rows => t.resize cols rows
  | .viewUp n => t.modifyGrid fun g => (g.viewUp n).1
  | .viewDown n => t.modifyGrid fun g => (g.viewDown n).1
  | .viewToBottom => t.modifyGrid Grid.viewToBottom
  | .previousPrompt => t.modifyGrid fun g => g.previousPrompt.1
  | .nextPrompt => t.modifyGrid fun g => g.nextPrompt.1
  | .clearDirty => t.modifyGrid Grid.clearDirty
  | .poll now =>
    let polled := t.schedule.poll now
    { t with schedule := polled.value.1 }.noteAll polled.reports
  | .requestImmediate => { t with schedule := t.schedule.requestImmediate }
  | .setClipboard data => { t with clipboard := some data }
  | .startImages => { t with images := some #[] }
  | .takeReplies => t.takeReplies.1
  | .takeEvents => t.takeEvents.1
  | .takeReports => t.takeReports.1
  | .takeImages => t.takeImages.1

/-- What a host can alter. -/
def HostAction.alters : HostAction → List Terminal.Aspect
  | .feed _ _ => Terminal.Aspect.fed
  | .resize _ _ => Terminal.Aspect.resized
  | .viewUp _ | .viewDown _ | .viewToBottom | .previousPrompt | .nextPrompt | .clearDirty =>
    [.grid .text, .grid .ring]
  | .poll _ | .requestImmediate => [.schedule]
  | .takeReplies => [.replies]
  | .setClipboard _ | .startImages | .takeEvents | .takeReports | .takeImages => []

/-- Each step is taken from a state in which the condition holds of it. -/
def Throughout {σ α : Type} (step : σ → α → σ) (ok : σ → α → Prop) : σ → List α → Prop
  | _, [] => True
  | s, a :: l => ok s a ∧ Throughout step ok (step s a) l

/-- What such steps keep holds after all of them. -/
theorem Throughout.foldl {σ α : Type} {step : σ → α → σ} {ok : σ → α → Prop} {p : σ → Prop}
    (hstep : ∀ s a, p s → ok s a → p (step s a)) {s : σ} {l : List α} (h : Throughout step ok s l)
    (hs : p s) : p (l.foldl step s) := by
  induction l generalizing s with
  | nil => exact hs
  | cons a l ih => exact ih h.2 (hstep s a hs h.1)

instance Throughout.decidable {σ α : Type} {step : σ → α → σ} {ok : σ → α → Prop}
    [∀ s a, Decidable (ok s a)] : ∀ s l, Decidable (Throughout step ok s l)
  | _, [] => isTrue trivial
  | s, a :: l =>
    have : Decidable (Throughout step ok (step s a) l) := Throughout.decidable (step s a) l
    inferInstanceAs (Decidable (ok s a ∧ _))

namespace Terminal

/-- A terminal with the given configuration after all that a host did with it. -/
def drive (config : Config) (actions : List HostAction) : Terminal :=
  actions.foldl HostAction.apply (.new config)

/-- A host alters nothing but what the table says. -/
theorem alters_apply (t : Terminal) (action : HostAction) :
    t.Alters action.alters (action.apply t) := by
  have looked {f : Grid → Grid} (h : ∀ g : Grid, (f g).bearings = g.bearings) :
      t.Alters [.grid .text, .grid .ring] (t.modifyGrid f) :=
    alters_modifyGrid fun g => Grid.alters_of_bearings (h g)
  cases action with
  | feed bytes now => exact t.alters_feed bytes now
  | resize cols rows => exact t.alters_resize cols rows
  | viewUp n => exact looked (f := fun g => (g.viewUp n).1) fun g => g.bearings_viewUp n
  | viewDown n => exact looked (f := fun g => (g.viewDown n).1) fun g => g.bearings_viewDown n
  | viewToBottom => exact looked Grid.bearings_viewToBottom
  | previousPrompt => exact looked (f := fun g => g.previousPrompt.1) Grid.bearings_previousPrompt
  | nextPrompt => exact looked (f := fun g => g.nextPrompt.1) Grid.bearings_nextPrompt
  | clearDirty => exact looked fun _ => rfl
  | poll => exact (t.alters_schedule _).trans ((alters_noteAll ..).mono rfl)
  | requestImmediate => exact t.alters_schedule _
  | setClipboard | startImages | takeEvents | takeReports | takeImages =>
    exact ⟨fun a _ => by cases a <;> rfl⟩
  | takeReplies => exact ⟨fun a ha => by cases a <;> first | rfl | cases ha⟩

theorem valid_new (config : Config) :
    (Terminal.new config).Valid (max config.size.width 1) (max config.size.height 1) where
  primary := Grid.valid_new ..
  alternate := Grid.valid_new ..
  tabs := fun _ hc => lt_of_mem_standardTabs hc
  titles := Nat.zero_le _

/-- Only a change of the size changes the size. -/
theorem Valid.apply_of_ne {t : Terminal} {cols rows : Nat} (h : t.Valid cols rows)
    {action : HostAction} (hsize : ∀ cols' rows', action ≠ .resize cols' rows') :
    (action.apply t).Valid cols rows := by
  cases action with
  | feed bytes now => exact h.feed bytes now
  | resize cols' rows' => exact absurd rfl (hsize cols' rows')
  | viewUp n => exact h.modifyGrid (f := fun g => (g.viewUp n).1) fun hg => hg.viewUp n
  | viewDown n => exact h.modifyGrid (f := fun g => (g.viewDown n).1) fun hg => hg.viewDown n
  | viewToBottom => exact h.modifyGrid fun hg => hg.viewToBottom
  | previousPrompt =>
    exact h.modifyGrid (f := fun g => g.previousPrompt.1) fun hg => hg.previousPrompt
  | nextPrompt => exact h.modifyGrid (f := fun g => g.nextPrompt.1) fun hg => hg.nextPrompt
  | clearDirty => exact h.modifyGrid fun hg => hg.clearDirty
  | _ => exact h.of_alters (t.alters_apply _) rfl

theorem Valid.apply {t : Terminal} {cols rows : Nat} (h : t.Valid cols rows) (action : HostAction) :
    ∃ cols' rows', (action.apply t).Valid cols' rows' := by
  cases action with
  | resize cols' rows' => exact ⟨_, _, h.resize cols' rows'⟩
  | _ => exact ⟨cols, rows, h.apply_of_ne nofun⟩

theorem Valid.drive {t : Terminal} {cols rows : Nat} (h : t.Valid cols rows)
    (actions : List HostAction) :
    ∃ cols' rows', (actions.foldl HostAction.apply t).Valid cols' rows' := by
  induction actions generalizing t cols rows with
  | nil => exact ⟨cols, rows, h⟩
  | cons action actions ih =>
    obtain ⟨cols', rows', h'⟩ := h.apply action
    exact ih h'

/-- Every terminal that a host can hold is valid, whatever output it was fed. -/
theorem drive_valid (config : Config) (actions : List HostAction) :
    (drive config actions).Valid (drive config actions).cols (drive config actions).rows := by
  obtain ⟨cols, rows, h⟩ := (valid_new config).drive actions
  have hcols : (drive config actions).cols = cols := h.primary.cols_eq
  have hrows : (drive config actions).rows = rows := h.primary.rows_eq
  rw [hcols, hrows]
  exact h

end Terminal

end Teletype
