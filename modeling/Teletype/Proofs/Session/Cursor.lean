import Teletype.Proofs.Grid.Pinned
import Teletype.Proofs.Session.Damage
import Teletype.Proofs.Terminal.SoundRun

/-!
# Where a frame shows the cursor

A frame holds the rows that are in view, and the place of the cursor on the screen. The view may be
above the screen, and then the cursor's row is further down in the frame than the place says, or not
in it at all.
-/

namespace Teletype

namespace Grid

variable {T : Tables} {kind : ScreenKind} {cols rows : Nat} {g : Grid}

/-- Rows of the ring with one number are in one slot. -/
theorem slot_eq_of_seq_eq {next i j : Nat} {r r' : Row} (h : Numbered g.slots.toList next)
    (hi : g.slots[i]? = some r) (hj : g.slots[j]? = some r') (heq : r.seq = r'.seq) : i = j := by
  have seqs (k : Nat) (r : Row) (hk : g.slots[k]? = some r) :
      (g.slots.toList.map Row.seq)[k]? = some r.seq := by
    rw [List.getElem?_map, Array.getElem?_toList, hk]
    rfl
  refine (List.getElem?_inj (List.getElem?_eq_some_iff.1 (seqs i r hi)).1 h.nodup).1 ?_
  rw [seqs i r hi, seqs j r' hj, heq]

/-- A row of the screen is in view as many rows further down as the view is above the screen. -/
theorem Sound.displayed_iff (h : g.Sound T kind cols rows) {i row : Nat} {shown held : Row}
    (hshown : g.displayed[i]? = some shown) (hheld : g.row? row = some held) :
    (shown.seq = held.seq ∧ shown.cells = held.cells) ↔ i = row + g.viewDistance := by
  have top := view_add_viewDistance h.view_lt
  have held_slot : g.slotOf row = (g.view + (row + g.viewDistance)) % g.capacity := by
    rw [Nat.add_comm row, ← Nat.add_assoc]
    exact (top.add_right row).symm
  rw [getElem?_displayed] at hshown
  unfold row? at hheld
  split at hshown
  · split at hheld
    · have lt : i < g.capacity ∧ row + g.viewDistance < g.capacity := by
        have := h.rows_eq
        have := h.view_le
        have := h.room
        omega
      rw [held_slot] at hheld
      constructor
      · rintro ⟨hseq, -⟩
        have slots := slot_eq_of_seq_eq h.numbered hshown hheld hseq
        exact (Nat.ModEq.add_left_cancel' _ slots).eq_of_lt_of_lt lt.1 lt.2
      · rintro rfl
        obtain rfl := Option.some.inj (hshown.symm.trans hheld)
        exact ⟨rfl, rfl⟩
    · exact absurd hheld (by simp)
  · exact absurd hshown (by simp)

end Grid

namespace Session

variable {ω : Type} [Sink ω]

/-- The sessions that can come about: a new one, and what output, the host, service and the other
end of the sink make of it. -/
inductive Reachable : Session ω → Prop
  | new (config : Config) (sink : ω) (client : Option Nat) (hold : Bool) :
    Reachable { terminal := .new config, sink, client, hold }
  | feed {s : Session ω} (bytes : List UInt8) (now : Instant) : Reachable s →
    Reachable (s.feed bytes now).value
  | host {s : Session ω} (action : HostAction) : Reachable s →
    Reachable { s with terminal := action.apply s.terminal }
  | serve {s : Session ω} (id : Nat) (now : Instant) : Reachable s →
    Reachable (s.serve id now).value.1
  /-- Something happens that leaves the terminal alone. -/
  | beside {s s' : Session ω} : Reachable s → s'.terminal = s.terminal → Reachable s'

/-- Offering replies takes them from the queue. -/
theorem retains_flush (s : Session ω) : s.terminal.Retains s.flush.value.terminal := by
  unfold Session.flush
  split
  · exact .refl _
  · dsimp only
    split <;> exact .of_alters (Terminal.alters_replies _ _) rfl

/-- Serving offers replies and asks for a frame. If one is due, it shows the terminal as it is then,
and the marks are taken off. -/
theorem serve_spec (s : Session ω) (id : Nat) (now : Instant) : ∃ t : Terminal,
    s.terminal.Retains t ∧ t.grid = s.terminal.grid ∧
      ((s.serve id now).value.2 = none ∧ (s.serve id now).value.1.terminal = t ∨
        (s.serve id now).value.2 = some (.capture id t) ∧
          (s.serve id now).value.1.terminal = t.modifyGrid Grid.clearDirty) := by
  have flushed : s.terminal.Retains (if s.armed then s.flush else ⟨s, []⟩).value.terminal ∧
      (if s.armed then s.flush else ⟨s, []⟩).value.terminal.grid = s.terminal.grid := by
    split
    · exact ⟨s.retains_flush, s.grid_flush⟩
    · exact ⟨.refl _, rfl⟩
  unfold Session.serve
  dsimp only
  generalize (if s.armed then s.flush else ⟨s, []⟩).value = served at flushed ⊢
  obtain ⟨retains, grid⟩ := flushed
  refine ⟨{ served.terminal with schedule := (served.terminal.schedule.poll now).value.1 },
    retains.trans (.of_alters (Terminal.alters_schedule _ _) rfl), grid, ?_⟩
  split
  · exact .inr ⟨rfl, rfl⟩
  · exact .inl ⟨rfl, rfl⟩

/-- The terminal of every session that can come about is sound. -/
theorem Reachable.sound {s : Session ω} (h : s.Reachable) :
    ∃ cols rows, s.terminal.Sound cols rows := by
  induction h with
  | new config sink client hold => exact ⟨_, _, Terminal.sound_new config⟩
  | @feed s bytes now _ ih =>
    obtain ⟨cols, rows, sound⟩ := ih
    have taken : (s.terminal.feed bytes now).Retains (s.terminal.feed bytes now).takeReports.1 :=
      .of_alters (Terminal.alters_apply _ .takeReports) rfl
    exact ⟨cols, rows,
      (taken.trans (retains_flush (s.withTerminal (s.terminal.feed bytes now)).value)).sound
      (sound.feed bytes now)⟩
  | host action _ ih =>
    obtain ⟨cols, rows, sound⟩ := ih
    exact sound.apply action
  | @serve s id now _ ih =>
    obtain ⟨cols, rows, sound⟩ := ih
    obtain ⟨t, retains, -, ⟨-, same⟩ | ⟨-, drawn⟩⟩ := s.serve_spec id now
    · exact ⟨cols, rows, same ▸ retains.sound sound⟩
    · have cleared := retains.trans (t.retains_modifyGrid fun hg => hg.clearDirty)
      exact ⟨cols, rows, drawn ▸ cleared.sound sound⟩
  | beside _ same ih => exact same ▸ ih

/-- In every frame of a session, the row at the cursor's place is there, and it is the row that
holds the cursor just if the view shows the screen. In any case the row that holds it is the one as
many rows further down as the view is above the screen, if the frame has it at all. -/
theorem cursor_displayed_iff {s : Session ω} (hs : s.Reachable) {id : Nat} {now : Instant}
    {frame : Frame} (hframe : (s.serve id now).value.2 = some frame) :
    let g := s.terminal.grid
    ∃ shown held, frame.lines[frame.cursor.row]? = some shown ∧ g.row? g.cursor.row = some held ∧
      ((shown.seq = held.seq ∧ shown.cells = held.cells) ↔ g.viewAtBottom = true) ∧
      ∀ i r, frame.lines[i]? = some r →
        ((r.seq = held.seq ∧ r.cells = held.cells) ↔ i = frame.cursor.row + g.viewDistance) := by
  intro g
  obtain ⟨cols, rows, sound⟩ := hs.sound
  have hg : g.Sound s.terminal.tables s.terminal.screen cols rows := sound.grid
  have captured : frame.lines = g.displayed ∧ frame.cursor = g.cursor := by
    obtain ⟨t, -, grid, ⟨none, -⟩ | ⟨drawn, -⟩⟩ := s.serve_spec id now
    · rw [hframe] at none
      exact absurd none (by simp)
    · obtain rfl := Option.some.inj (hframe.symm.trans drawn)
      exact ⟨congrArg Grid.displayed grid, congrArg Grid.cursor grid⟩
  rw [captured.1, captured.2]
  have hrow : g.cursor.row < g.rows := hg.rows_eq ▸ hg.cursor_row
  have present (k : Nat) : ∃ r, g.slots[k % g.capacity]? = some r := by
    have lt : k % g.capacity < g.slots.size := Nat.mod_lt _ (Nat.zero_lt_of_lt hg.view_lt)
    exact ⟨_, Array.getElem?_eq_getElem lt⟩
  obtain ⟨shown, hshown⟩ := present (g.view + g.cursor.row)
  obtain ⟨held, hheld⟩ := present (g.offset + g.cursor.row)
  have hshown : g.displayed[g.cursor.row]? = some shown := by
    rw [Grid.getElem?_displayed, if_pos hrow, hshown]
  have hheld : g.row? g.cursor.row = some held := by rw [Grid.row?, if_pos hrow, Grid.slotOf, hheld]
  refine ⟨shown, held, hshown, hheld, ?_, fun i r hr => hg.displayed_iff hr hheld⟩
  rw [hg.displayed_iff hshown hheld, ← hg.viewDistance_eq_zero_iff]
  omega

/-- A host can do with the terminal of a session whatever it can do with a terminal. -/
theorem reachable_drive (config : Config) (actions : List HostAction) (sink : ω) :
    Reachable { terminal := .drive config actions, sink } := by
  have more (t : Terminal) (h : Reachable { terminal := t, sink }) (actions : List HostAction) :
      Reachable { terminal := actions.foldl HostAction.apply t, sink } := by
    induction actions generalizing t with
    | nil => exact h
    | cons action actions ih => exact ih _ (h.host action)
  exact more _ (.new config sink none false) actions

/-- A session of a terminal with one column and two rows. It was fed three lines, the cursor was
sent to the second one, at the top of the screen, and the view shows the first two. -/
def glancingBack : Session Pipe where
  terminal := Terminal.drive { size := ⟨1, 2⟩, scrollback := 2, lowerDelay := 0 }
    [.feed [0x61, 0x0d, 0x0a, 0x62, 0x0d, 0x0a, 0x63, 0x1b, 0x5b, 0x48] 0, .viewUp 1]
  sink := { limit := 1, room := 1 }

/-- The row that holds the cursor is the second one of the frame. -/
theorem cursor_displayed_iff_glancingBack :
    ∃ frame held r, (glancingBack.serve 1 0).value.2 = some frame ∧
      glancingBack.terminal.grid.row? glancingBack.terminal.grid.cursor.row = some held ∧
      frame.lines[1]? = some r ∧ r.seq = held.seq ∧ r.cells = held.cells := by
  have due : (glancingBack.serve 1 0).value.2.isSome := by decide +kernel
  have second : (glancingBack.serve 1 0).value.2.all fun frame => frame.lines[1]?.isSome ∧
      1 = frame.cursor.row + glancingBack.terminal.grid.viewDistance := by
    decide +kernel
  obtain ⟨frame, hframe⟩ := Option.isSome_iff_exists.1 due
  obtain ⟨_, held, -, hheld, -, further⟩ :=
    cursor_displayed_iff (s := glancingBack) (reachable_drive _ _ _) hframe
  rw [hframe, Option.all_some, decide_eq_true_eq] at second
  obtain ⟨r, hr⟩ := Option.isSome_iff_exists.1 second.1
  obtain ⟨hseq, hcells⟩ := (further 1 r hr).2 second.2
  exact ⟨frame, held, r, hframe, hheld, hr, hseq, hcells⟩

/-- The frame has a visible cursor in its first row, and the row that holds the cursor is another
one. -/
theorem cursor_misplaced_glancingBack :
    glancingBack.Reachable ∧
      (glancingBack.serve 1 0).value.2.map (fun frame =>
        (frame.cursorVisible, frame.cursor.row, frame.lines.map Row.cells)) =
          some (true, 0, column ['a', 'b']) ∧
      (glancingBack.terminal.grid.row? glancingBack.terminal.grid.cursor.row).map Row.cells =
        some #[.ofChar 'b'] :=
  ⟨reachable_drive _ _ _, by decide +kernel, by decide +kernel⟩

end Session

end Teletype
