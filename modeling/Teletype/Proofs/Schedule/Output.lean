import Teletype.Proofs.Schedule.Calls

/-!
# How long output can be kept from being drawn

Output that arrives while no update is open is drawn once the longer delay has passed, unless an
update is open then. Nothing else bounds the time: an update that is begun anew, whether the last
one was ended or not, is granted the whole timeout again and puts off what was pending.
-/

namespace Teletype.Schedule

/-- No frame is drawn at any of the calls. -/
def Undrawn (s : Schedule) : List Call → Prop
  | [] => True
  | call :: calls => call.draws s = false ∧ (call.apply s).Undrawn calls

instance decidableUndrawn (s : Schedule) : (calls : List Call) → Decidable (s.Undrawn calls)
  | [] => inferInstanceAs (Decidable True)
  | call :: calls =>
    have := decidableUndrawn (call.apply s) calls
    inferInstanceAs (Decidable (call.draws s = false ∧ (call.apply s).Undrawn calls))

/-- When the update was begun that is open after a call, if one is, and if no frame is drawn. -/
def Call.begun (since : Option Instant) : Call → Option Instant
  | .beginSync now => some now
  | .endSync => none
  | .output _ | .requestImmediate | .poll _ | .frameRendered => since

/-- When the update was begun that calls leave open, if they leave one open. -/
def openSince (calls : List Call) : Option Instant := calls.foldl Call.begun none

/-- A frame is owed for output: either an update is open, begun when `since` tells, or something is
pending that comes due by the given instant. -/
def Owes (s : Schedule) (limit : Instant) : Option Instant → Prop
  | some begun => s.sync = some (begun + s.syncTimeout)
  | none => s.sync = none ∧ (s.immediate = true ∨ ∃ upper, s.upper = some upper ∧ upper ≤ limit)

variable {s : Schedule} {limit now : Instant}

/-- Output that arrives while no update is open is owed a frame. -/
theorem Bounded.owes_onOutput (h : s.Bounded now) (hclosed : s.isSyncing = false) :
    (s.onOutput now).Owes (now + s.upperDelay) none := by
  have closed := isSyncing_eq_false.1 hclosed
  by_cases hzero : s.lowerDelay = 0 ∨ s.upperDelay = 0
  · rw [onOutput_at_once hclosed hzero]
    exact ⟨closed, .inl rfl⟩
  · rw [onOutput_delayed hclosed hzero]
    refine ⟨closed, .inr ⟨_, rfl, ?_⟩⟩
    cases hupper : s.upper with
    | none => exact Int.le_refl _
    | some upper => exact h.upper_le upper hupper

/-- As long as no frame is drawn, each call leaves the frame owed. -/
theorem Owes.apply {since : Option Instant} (h : s.Owes limit since) {call : Call}
    (hdraws : call.draws s = false) : (call.apply s).Owes limit (call.begun since) := by
  cases since with
  | some begun =>
    have opened : s.isSyncing = true := isSyncing_of_some h
    cases call with
    | output now => rwa [Call.apply, onOutput_open opened]
    | beginSync now => rfl
    | endSync =>
      rw [Call.apply, endSync_open opened]
      exact ⟨rfl, .inl rfl⟩
    | requestImmediate => rwa [Call.apply, requestImmediate_open opened]
    | poll now => rwa [Call.apply, poll_of_not_drawn hdraws]
    | frameRendered => cases hdraws
  | none =>
    have closed := isSyncing_eq_false.2 h.1
    cases call with
    | output now =>
      by_cases hzero : s.lowerDelay = 0 ∨ s.upperDelay = 0
      · rw [Call.apply, onOutput_at_once closed hzero]
        exact ⟨h.1, .inl rfl⟩
      · rw [Call.apply, onOutput_delayed closed hzero]
        refine ⟨h.1, h.2.imp_right ?_⟩
        rintro ⟨upper, hupper, hle⟩
        exact ⟨upper, by simp [hupper], hle⟩
    | beginSync now => rfl
    | endSync => rwa [Call.apply, endSync_closed closed]
    | requestImmediate =>
      rw [Call.apply, requestImmediate_closed closed]
      exact ⟨h.1, .inl rfl⟩
    | poll now => rwa [Call.apply, poll_of_not_drawn hdraws]
    | frameRendered => cases hdraws

theorem Owes.run {since : Option Instant} (h : s.Owes limit since) {calls : List Call}
    (hundrawn : s.Undrawn calls) : (s.run calls).Owes limit (calls.foldl Call.begun since) := by
  induction calls generalizing s since with
  | nil => exact h
  | cons call calls ih => exact ih (h.apply hundrawn.1) hundrawn.2

/-- What is owed is drawn at the limit, unless an update is open that has not timed out. -/
theorem Owes.drawn_iff {since : Option Instant} (h : s.Owes limit since) (hnow : limit ≤ now) :
    (s.poll now).value.2 = true ↔ ∀ begun, since = some begun → begun + s.syncTimeout ≤ now := by
  cases since with
  | some begun => simp [drawn_of_open h]
  | none =>
    rw [drawn_of_closed h.1]
    refine iff_of_true ?_ (fun _ hnone => by cases hnone)
    rcases h.2 with himmediate | ⟨upper, hupper, hle⟩
    · exact .inl himmediate
    · exact .inr (.inr (expired_iff.2 ⟨upper, hupper, Int.le_trans hle hnow⟩))

/-- Output that came while no update was open, and was not drawn since, is drawn at any instant
after the longer delay, unless an update is open that was begun less than its timeout before. -/
theorem drawn_after_output_iff (config : Config) (earlier later : List Call) (start now : Instant)
    (hordered : Ordered (earlier ++ .output start :: later))
    (hclosed : ((ofConfig config).run earlier).isSyncing = false)
    (hundrawn : (((ofConfig config).run earlier).onOutput start).Undrawn later)
    (hnow : start + config.upperDelay ≤ now) :
    (((ofConfig config).run (earlier ++ .output start :: later)).poll now).value.2 = true ↔
      ∀ begun, openSince later = some begun → begun + config.syncTimeout ≤ now := by
  have before : ∀ instant ∈ instants earlier, instant ≤ start := by
    intro instant hinstant
    rw [Ordered, instants_append, List.pairwise_append] at hordered
    exact hordered.2.2 instant hinstant start List.mem_cons_self
  have upperDelay : ((ofConfig config).run earlier).upperDelay = config.upperDelay :=
    congrArg (·.2.1) (delays_run (ofConfig config) earlier)
  have syncTimeout : ((ofConfig config).run (earlier ++ .output start :: later)).syncTimeout =
      config.syncTimeout :=
    congrArg (·.2.2) (delays_run (ofConfig config) (earlier ++ .output start :: later))
  have owed := (bounded_run config before).owes_onOutput hclosed
  rw [upperDelay] at owed
  rw [run_append] at syncTimeout ⊢
  rw [← syncTimeout]
  exact (owed.run hundrawn).drawn_iff hnow

/-- An update is begun and ended after some output, and another one is begun before a frame is
drawn. It holds the frame back until it times out. -/
theorem drawn_after_output_iff_updates :
    (((ofConfig {}).run [.output 0, .poll 500000, .output 600000, .beginSync 600000, .endSync,
        .beginSync 20000000]).poll 1020000000).value.2 = true ∧
      (((ofConfig {}).run [.output 0, .poll 500000, .output 600000, .beginSync 600000, .endSync,
        .beginSync 20000000]).poll 1019999999).value.2 = false := by
  have hundrawn : (((ofConfig {}).run [.output 0, .poll 500000]).onOutput 600000).Undrawn
      [.beginSync 600000, .endSync, .beginSync 20000000] := by decide
  have drawn (now : Instant) (hnow : (600000 : Instant) + (16666666 : Nat) ≤ now) :=
    drawn_after_output_iff {} [.output 0, .poll 500000] [.beginSync 600000, .endSync,
      .beginSync 20000000] 600000 now (by decide) (by decide) hundrawn hnow
  constructor
  · exact (drawn 1020000000 (by decide)).2 (by rintro begun h; cases h; decide)
  · refine Bool.eq_false_iff.2 fun hdrawn => ?_
    exact absurd ((drawn 1019999999 (by decide)).1 hdrawn 20000000 rfl) (by decide)

/-- An update that is begun again before it times out keeps output from being drawn for longer than
the longer delay and the timeout. -/
theorem undrawn_of_begun_again :
    Ordered [.output 0, .beginSync 0, .beginSync 900000000] ∧
      ((ofConfig {}).onOutput 0).Undrawn [.beginSync 0, .beginSync 900000000] ∧
      (0 : Instant) + ({} : Config).upperDelay + ({} : Config).syncTimeout ≤ 1016666666 ∧
      (((ofConfig {}).run [.output 0, .beginSync 0, .beginSync 900000000]).poll
        1016666666).value.2 = false := by
  decide

end Teletype.Schedule
