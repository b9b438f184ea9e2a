import Teletype.Multiplexer
import Teletype.Proofs.Terminal.Damage
import Teletype.Proofs.Terminal.Feed
import Teletype.Proofs.Terminal.Reachable
import Teletype.Sink.Pipe

/-!
# What a frame shows and the one before did not

Between two frames, rows of which the display comes to show other cells are marked, so that a
renderer that draws marked rows only shows what is there. There is one exception: output may move a
view that is scrolled back, and then leaves it without marks.
-/

namespace Teletype

/-- What a host does with a terminal that changes no row: it looks back, asks for a frame or takes
what is queued. -/
def HostAction.Looks : HostAction → Prop
  | .feed _ _ | .resize _ _ | .clearDirty => False
  | _ => True

namespace Terminal

/-- Output moved a view that was scrolled back, and a row that is displayed then has no mark. -/
structure Strays (t t' : Terminal) : Prop where
  screen : t'.screen = t.screen
  back : t.grid.view ≠ t.grid.offset
  moved : t'.grid.view ≠ t.grid.view
  unmarked : ∃ r ∈ t'.grid.displayed, r.dirty = false

instance (t t' : Terminal) : Decidable (t.Strays t') :=
  decidable_of_iff (t'.screen = t.screen ∧ t.grid.view ≠ t.grid.offset ∧
    t'.grid.view ≠ t.grid.view ∧
      ∃ r ∈ t'.grid.displayed, r.dirty = false)
    ⟨fun ⟨screen, back, moved, unmarked⟩ => ⟨screen, back, moved, unmarked⟩,
      fun h => ⟨h.screen, h.back, h.moved, h.unmarked⟩⟩

/-- No action of output strays. -/
def Steady (now : Instant) (t : Terminal) : List Control.Action → Prop
  | [] => True
  | action :: rest => ¬t.Strays (perform now t action) ∧ Steady now (perform now t action) rest

instance decidableSteady (now : Instant) (t : Terminal) :
    (actions : List Control.Action) → Decidable (Steady now t actions)
  | [] => inferInstanceAs (Decidable True)
  | action :: rest =>
    have := decidableSteady now (perform now t action) rest
    inferInstanceAs
      (Decidable (¬t.Strays (perform now t action) ∧ Steady now (perform now t action) rest))

/-- What does not stray marks what comes to be displayed. -/
theorem Damages.marks {t t' : Terminal} (h : t.Damages t') (hs : ¬t.Strays t') :
    t.grid.Marks t'.grid := by
  rcases h with hfresh | ⟨hscreen, hkeeps⟩
  · exact hfresh.marks
  · by_cases hview : t'.grid.view = t.grid.view
    · exact .inr ⟨hkeeps.rows, hkeeps.slots, hview⟩
    · refine .inl fun r hr => ?_
      cases hd : r.dirty with
      | true => rfl
      | false =>
        have back : t.grid.view ≠ t.grid.offset := fun hbottom => hview (hkeeps.view hbottom).1
        exact absurd ⟨hscreen, back, hview, r, hr, hd⟩ hs

theorem marks_foldl_perform (now : Instant) {t : Terminal} {actions : List Control.Action}
    (h : Steady now t actions) : t.grid.Marks (actions.foldl (perform now) t).grid := by
  induction actions generalizing t with
  | nil => exact .refl _
  | cons action rest ih =>
    obtain ⟨hfirst, hrest⟩ := h
    exact ((damages_perform t now action).marks hfirst).trans (ih hrest)

theorem marks_feed {t : Terminal} {bytes : List UInt8} {now : Instant}
    (h : Steady now (t.reading bytes) (t.decoder.feed bytes).2.toList) :
    t.grid.Marks (t.feed bytes now).grid := by
  have fed := marks_foldl_perform now h
  rw [feed_eq]
  dsimp only
  split <;> exact fed

/-- The host marks what it comes to look at. -/
theorem marks_apply (t : Terminal) {action : HostAction} (h : action.Looks) :
    t.grid.Marks (action.apply t).grid := by
  have looked {f : Grid → Grid} (hf : f t.grid = t.grid ∨ (f t.grid).Fresh) :
      t.grid.Marks (t.modifyGrid f).grid := by
    rw [grid_modifyGrid]
    rcases hf with hsame | hfresh
    · rw [hsame]
      exact .refl _
    · exact hfresh.marks
  cases action with
  | feed bytes now => exact h.elim
  | resize cols rows => exact h.elim
  | clearDirty => exact h.elim
  | viewUp n => exact looked (f := fun g => (g.viewUp n).1) (t.grid.viewUp_eq_or_fresh n)
  | viewDown n => exact looked (f := fun g => (g.viewDown n).1) (t.grid.viewDown_eq_or_fresh n)
  | viewToBottom => exact looked t.grid.viewToBottom_eq_or_fresh
  | previousPrompt =>
    exact looked (f := fun g => g.previousPrompt.1) t.grid.previousPrompt_eq_or_fresh
  | nextPrompt => exact looked (f := fun g => g.nextPrompt.1) t.grid.nextPrompt_eq_or_fresh
  | poll now => exact .refl _
  | requestImmediate => exact .refl _
  | setClipboard data => exact .refl _
  | startImages => exact .refl _
  | takeReplies => exact .refl _
  | takeEvents => exact .refl _
  | takeReports => exact .refl _
  | takeImages => exact .refl _

end Terminal

namespace Session

variable {ω : Type} [Sink ω]

/-- What can happen to a session while no frame is drawn and its size stays: it is fed output that
does not stray, looked at, and served before a frame is due. -/
inductive Unframed : Session ω → Session ω → Prop
  | refl (s : Session ω) : Unframed s s
  | feed {s s' : Session ω} (bytes : List UInt8) (now : Instant) : Unframed s s' →
    Terminal.Steady now (s'.terminal.reading bytes) (s'.terminal.decoder.feed bytes).2.toList →
    Unframed s (s'.feed bytes now).value
  | host {s s' : Session ω} (action : HostAction) : Unframed s s' → action.Looks →
    Unframed s { s' with terminal := action.apply s'.terminal }
  | serve {s s' : Session ω} (id : Nat) (now : Instant) : Unframed s s' →
    (s'.serve id now).value.2 = none → Unframed s (s'.serve id now).value.1

/-- Offering replies leaves the screens alone. -/
theorem grid_flush (s : Session ω) : s.flush.value.terminal.grid = s.terminal.grid := by
  unfold Session.flush
  split
  · rfl
  · dsimp only
    split <;> rfl

theorem grid_feed (s : Session ω) (bytes : List UInt8) (now : Instant) :
    (s.feed bytes now).value.terminal.grid = (s.terminal.feed bytes now).grid :=
  grid_flush _

/-- Serving either draws the grid in use and takes the marks off, or leaves the grid as it is. -/
theorem serve_cases (s : Session ω) (id : Nat) (now : Instant) :
    ((s.serve id now).value.2 = none ∧ (s.serve id now).value.1.terminal.grid = s.terminal.grid) ∨
      ∃ frame, (s.serve id now).value.2 = some frame ∧ frame.lines = s.terminal.grid.displayed ∧
        (s.serve id now).value.1.terminal.grid = s.terminal.grid.clearDirty := by
  have flushed : (if s.armed then s.flush else ⟨s, []⟩).value.terminal.grid = s.terminal.grid := by
    split
    · exact s.grid_flush
    · rfl
  unfold Session.serve
  dsimp only
  generalize (if s.armed then s.flush else ⟨s, []⟩) = served at flushed ⊢
  rw [← flushed]
  split
  · refine .inr ⟨_, rfl, rfl, ?_⟩
    exact Terminal.grid_modifyGrid _ _
  · exact .inl ⟨rfl, rfl⟩

theorem Unframed.marks {s s' : Session ω} (h : Unframed s s') :
    s.terminal.grid.Marks s'.terminal.grid := by
  induction h with
  | refl => exact .refl _
  | feed bytes now _ hsteady ih =>
    rw [grid_feed]
    exact ih.trans (Terminal.marks_feed hsteady)
  | host action _ hlooks ih => exact ih.trans (Terminal.marks_apply _ hlooks)
  | @serve s' id now _ hnone ih =>
    rcases s'.serve_cases id now with ⟨-, hgrid⟩ | ⟨frame, hframe, -⟩
    · rw [hgrid]
      exact ih
    · rw [hnone] at hframe
      exact absurd hframe (by simp)

/-- Taking the marks off leaves the cells. -/
theorem displayed_clearDirty {g : Grid} {i : Nat} {r : Row}
    (h : g.clearDirty.displayed[i]? = some r) :
    ∃ r', g.displayed[i]? = some r' ∧ r'.cells = r.cells := by
  rw [Grid.getElem?_displayed, Grid.capacity, Grid.clearDirty, Array.size_map] at h
  rw [Grid.getElem?_displayed]
  split at h
  · rename_i hi
    rw [Array.getElem?_map] at h
    obtain ⟨r', hr', rfl⟩ := Option.map_eq_some_iff.1 h
    exact ⟨r', by rw [if_pos hi]; exact hr', rfl⟩
  · exact absurd h (by simp)

/-- From one frame of a session to the next, a row that is displayed with other cells is marked, as
long as no output strays. -/
theorem dirty_of_cells_ne {s s' : Session ω} {id id' : Nat} {now now' : Instant}
    {first next : Frame} (hfirst : (s.serve id now).value.2 = some first)
    (hrun : Unframed (s.serve id now).value.1 s')
    (hnext : (s'.serve id' now').value.2 = some next) {i : Nat} {old new : Row}
    (hold : first.lines[i]? = some old) (hnew : next.lines[i]? = some new)
    (hne : new.cells ≠ old.cells) : new.dirty = true := by
  have drawn {s : Session ω} {id : Nat} {now : Instant} {frame : Frame}
      (h : (s.serve id now).value.2 = some frame) : frame.lines = s.terminal.grid.displayed ∧
        (s.serve id now).value.1.terminal.grid = s.terminal.grid.clearDirty := by
    rcases s.serve_cases id now with ⟨hnone, -⟩ | ⟨frame', hframe, hlines, hgrid⟩
    · rw [h] at hnone
      exact absurd hnone (by simp)
    · obtain rfl : frame = frame' := Option.some.inj (h.symm.trans hframe)
      exact ⟨hlines, hgrid⟩
  obtain ⟨hlines, hgrid⟩ := drawn hfirst
  rw [hlines] at hold
  rw [(drawn hnext).1] at hnew
  cases hd : new.dirty with
  | true => rfl
  | false =>
    have before := hrun.marks.displayed hnew hd
    rw [hgrid] at before
    obtain ⟨r, hr, hcells⟩ := displayed_clearDirty before
    obtain rfl : r = old := Option.some.inj (hr.symm.trans hold)
    exact absurd hcells.symm hne

/-- The cells and the marks of the rows that a frame shows, if one is drawn. -/
def shown (s : Session ω) (now : Instant) : Option (List (Array Cell × Bool)) :=
  (s.serve 1 now).value.2.map (·.lines.map fun r => (r.cells, r.dirty))

/-- The cells that show a character each. -/
def column (text : List Char) : List (Array Cell) := text.map fun c => #[.ofChar c]

/-- A session of a terminal with one column, two rows and room for two lines of scrollback. It was
fed four lines, and its view shows the first two. -/
def lookingBack : Session Pipe :=
  let fed := ((Terminal.new { size := ⟨1, 2⟩, scrollback := 2, lowerDelay := 0 }).feed
    [0x61, 0x0d, 0x0a, 0x62, 0x0d, 0x0a, 0x63, 0x0d, 0x0a, 0x64] 0)
  { terminal := HostAction.apply fed (.viewUp 2), sink := { limit := 1, room := 1 } }

/-- Back at the screen, another line is printed, and the rows are marked. -/
theorem dirty_of_cells_ne_lookingBack :
    ∃ (s' : Session Pipe) (first next : Frame) (old new : Row),
      (lookingBack.serve 1 0).value.2 = some first ∧ Unframed (lookingBack.serve 1 0).value.1 s' ∧
        (s'.serve 1 0).value.2 = some next ∧ first.lines[0]? = some old ∧
        next.lines[0]? = some new ∧ new.cells ≠ old.cells ∧ new.dirty = true := by
  let looked : Session Pipe := { (lookingBack.serve 1 0).value.1 with
    terminal := HostAction.apply (lookingBack.serve 1 0).value.1.terminal .viewToBottom }
  have run : Unframed (lookingBack.serve 1 0).value.1 (looked.feed [0x65] 0).value :=
    .feed [0x65] 0 (.host .viewToBottom (.refl _) trivial) (by decide +kernel)
  obtain ⟨first, hfirst⟩ := Option.isSome_iff_exists.1
    (show (lookingBack.serve 1 0).value.2.isSome by decide +kernel)
  obtain ⟨next, hnext⟩ := Option.isSome_iff_exists.1
    (show ((looked.feed [0x65] 0).value.serve 1 0).value.2.isSome by decide +kernel)
  have before : lookingBack.shown 0 = some ((column ['a', 'b']).map (·, true)) := by decide +kernel
  have after : (looked.feed [0x65] 0).value.shown 0 = some ((column ['d', 'e']).map (·, true)) := by
    decide +kernel
  rw [shown, hfirst] at before
  rw [shown, hnext] at after
  obtain ⟨old, rest, hlines, hold, -⟩ := List.map_eq_cons_iff.1 (Option.some.inj before)
  obtain ⟨new, rest', hlines', hnew, -⟩ := List.map_eq_cons_iff.1 (Option.some.inj after)
  have hne : new.cells ≠ old.cells := by
    rw [show old.cells = #[.ofChar 'a'] from congrArg Prod.fst hold,
      show new.cells = #[.ofChar 'd'] from congrArg Prod.fst hnew]
    decide
  have hold' : first.lines[0]? = some old := by
    rw [hlines]
    rfl
  have hnew' : next.lines[0]? = some new := by
    rw [hlines']
    rfl
  exact ⟨_, first, next, old, new, hfirst, run, hnext, hold', hnew', hne,
    dirty_of_cells_ne hfirst run hnext hold' hnew' hne⟩

/-- In the view that is scrolled back, a line feed with the scrollback full or erasing the
scrollback brings other rows to be displayed, and no row is marked. -/
theorem unmarked_lookingBack :
    lookingBack.shown 0 = some ((column ['a', 'b']).map (·, true)) ∧
      ((lookingBack.serve 1 0).value.1.feed [0x0a] 0).value.shown 0 =
        some ((column ['b', 'c']).map (·, false)) ∧
      ((lookingBack.serve 1 0).value.1.feed [0x1b, 0x5b, 0x33, 0x4a] 0).value.shown 0 =
        some ((column ['c', 'd']).map (·, false)) :=
  ⟨by decide +kernel, by decide +kernel, by decide +kernel⟩

end Session

end Teletype
