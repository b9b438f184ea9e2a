import Mathlib.Tactic.Common
import Teletype.Terminal.Basic

/-!
# What a schedule promises

A terminal tells its schedule of output and of synchronized updates, and the host asks it for
frames. It gives a frame exactly if its earliest deadline has passed, so that a host can sleep until
then. This rests on one fact: while an update is open, nothing but its own timeout is pending.
-/

namespace Teletype

/-- The deadline has come at the given instant. -/
def Deadline.Due (now : Instant) : Deadline → Prop
  | .none => False
  | .now => True
  | .at instant => instant ≤ now

instance (now : Instant) : (deadline : Deadline) → Decidable (deadline.Due now)
  | .none => inferInstanceAs (Decidable False)
  | .now => inferInstanceAs (Decidable True)
  | .at instant => inferInstanceAs (Decidable (instant ≤ now))

namespace Schedule

/-- What is done with a schedule. -/
inductive Call where
  | output (now : Instant)
  | beginSync (now : Instant)
  | endSync
  | requestImmediate
  | poll (now : Instant)
  | frameRendered
  deriving DecidableEq

namespace Call

/-- The instant of a call, if it depends on one. -/
def instant? : Call → Option Instant
  | .output now | .beginSync now | .poll now => some now
  | .endSync | .requestImmediate | .frameRendered => none

/-- The schedule after a call. -/
def apply (s : Schedule) : Call → Schedule
  | .output now => s.onOutput now
  | .beginSync now => s.beginSync now
  | .endSync => s.endSync
  | .requestImmediate => s.requestImmediate
  | .poll now => (s.poll now).value.1
  | .frameRendered => s.frameRendered

/-- A frame is drawn at the call. -/
def draws (s : Schedule) : Call → Bool
  | .poll now => (s.poll now).value.2
  | .frameRendered => true
  | .output _ | .beginSync _ | .endSync | .requestImmediate => false

end Call

/-- The schedule after calls. -/
def run (s : Schedule) (calls : List Call) : Schedule := calls.foldl Call.apply s

/-- The instants of calls, one after the other. -/
def instants (calls : List Call) : List Instant := calls.filterMap Call.instant?

/-- Time does not go back from one call to the next. -/
def Ordered (calls : List Call) : Prop := (instants calls).Pairwise (· ≤ ·)

instance (calls : List Call) : Decidable (Ordered calls) :=
  inferInstanceAs (Decidable ((instants calls).Pairwise (· ≤ ·)))

variable {s : Schedule} {now : Instant}

theorem run_append (s : Schedule) (calls calls' : List Call) :
    s.run (calls ++ calls') = (s.run calls).run calls' :=
  List.foldl_append

theorem instants_append (calls calls' : List Call) :
    instants (calls ++ calls') = instants calls ++ instants calls' :=
  List.filterMap_append

/-! ## What each call does -/

theorem isSyncing_eq_false : s.isSyncing = false ↔ s.sync = none := by
  cases hsync : s.sync <;> simp [isSyncing, hsync]

theorem isSyncing_of_some {timeout : Instant} (h : s.sync = some timeout) : s.isSyncing = true := by
  simp [isSyncing, h]

theorem onOutput_open (h : s.isSyncing = true) (now : Instant) : s.onOutput now = s := by
  simp [onOutput, h]

theorem onOutput_at_once (h : s.isSyncing = false) (hzero : s.lowerDelay = 0 ∨ s.upperDelay = 0)
    (now : Instant) : s.onOutput now = { s with immediate := true } := by
  simp [onOutput, h, hzero]

theorem onOutput_delayed (h : s.isSyncing = false) (hpos : ¬(s.lowerDelay = 0 ∨ s.upperDelay = 0))
    (now : Instant) :
    s.onOutput now =
      { s with
        lower := some (now + s.lowerDelay)
        upper := some (s.upper.getD (now + s.upperDelay)) } := by
  simp [onOutput, h, hpos]

theorem endSync_open (h : s.isSyncing = true) :
    s.endSync = { s with sync := none, immediate := true } := by
  simp [endSync, h]

theorem endSync_closed (h : s.isSyncing = false) : s.endSync = s := by
  simp [endSync, h]

theorem requestImmediate_open (h : s.isSyncing = true) : s.requestImmediate = s := by
  simp [requestImmediate, h]

theorem requestImmediate_closed (h : s.isSyncing = false) :
    s.requestImmediate = { s with immediate := true } := by
  simp [requestImmediate, h]

theorem expired_iff {deadline : Option Instant} :
    expired now deadline = true ↔ ∃ instant, deadline = some instant ∧ instant ≤ now := by
  cases deadline with
  | none => simp [expired]
  | some instant => simp [expired]

theorem poll_open {timeout : Instant} (h : s.sync = some timeout) :
    (s.poll now).value = if now < timeout then (s, false) else (s.endSync.frameRendered, true) := by
  simp only [poll, h]
  split <;> rfl

theorem poll_closed (h : s.sync = none) :
    (s.poll now).value =
      if s.immediate || expired now s.lower || expired now s.upper then (s.frameRendered, true)
      else (s, false) := by
  simp only [poll, h]
  split <;> rfl

theorem drawn_of_open {timeout : Instant} (h : s.sync = some timeout) :
    (s.poll now).value.2 = true ↔ timeout ≤ now := by
  rw [poll_open h]
  split <;> simp_all

theorem drawn_of_closed (h : s.sync = none) :
    (s.poll now).value.2 = true ↔
      s.immediate = true ∨ expired now s.lower = true ∨ expired now s.upper = true := by
  rw [poll_closed h, ← Bool.or_eq_true, ← Bool.or_eq_true, ← Bool.or_assoc]
  split <;> simp_all

/-- Without a frame nothing changes. -/
theorem poll_of_not_drawn (h : (s.poll now).value.2 = false) : (s.poll now).value.1 = s := by
  cases hsync : s.sync with
  | none =>
    rw [poll_closed hsync] at h ⊢
    split
    · simp_all
    · rfl
  | some timeout =>
    rw [poll_open hsync] at h ⊢
    split
    · rfl
    · simp_all

/-- A frame takes all that was pending. -/
theorem poll_of_drawn (h : (s.poll now).value.2 = true) :
    (s.poll now).value.1 =
      { s with lower := none, upper := none, sync := none, immediate := false } := by
  cases hsync : s.sync with
  | none =>
    rw [poll_closed hsync] at h ⊢
    split
    · simp [frameRendered, hsync]
    · simp_all
  | some timeout =>
    rw [poll_open hsync] at h ⊢
    split
    · simp_all
    · simp [frameRendered, endSync_open (isSyncing_of_some hsync)]

theorem deadline_of_drawn (h : (s.poll now).value.2 = true) :
    (s.poll now).value.1.deadline = .none := by
  rw [poll_of_drawn h]
  rfl

/-! ## The invariant -/

/-- While an update is open, nothing else is pending. What is pending comes no later than its delay
after the given instant. -/
structure Bounded (s : Schedule) (now : Instant) : Prop where
  alone : s.isSyncing = true → s.lower = none ∧ s.upper = none ∧ s.immediate = false
  upper_le : ∀ instant, s.upper = some instant → instant ≤ now + s.upperDelay
  sync_le : ∀ instant, s.sync = some instant → instant ≤ now + s.syncTimeout

theorem bounded_ofConfig (config : Config) (now : Instant) : (ofConfig config).Bounded now where
  alone h := by cases h
  upper_le _ h := by cases h
  sync_le _ h := by cases h

/-- Nothing is pending but the timeout of an update that was open before. -/
theorem Bounded.of_cleared (h : s.Bounded now) {s' : Schedule} (hlower : s'.lower = none)
    (hupper : s'.upper = none) (himmediate : s'.immediate = false)
    (hsync : s'.sync = none ∨ s'.sync = s.sync)
    (htimeout : s'.syncTimeout = s.syncTimeout) : s'.Bounded now where
  alone _ := ⟨hlower, hupper, himmediate⟩
  upper_le instant hinstant := by simp [hupper] at hinstant
  sync_le instant hinstant := by
    rcases hsync with hsync | hsync
    · simp [hsync] at hinstant
    · rw [htimeout]
      exact h.sync_le instant (hsync ▸ hinstant)

/-- A frame is due at once, and no update is open. -/
theorem Bounded.of_immediate (h : s.Bounded now) :
    ({ s with sync := none, immediate := true } : Schedule).Bounded now where
  alone := by intro hsync; cases hsync
  upper_le := h.upper_le
  sync_le := by intro instant hinstant; cases hinstant

theorem Bounded.onOutput (h : s.Bounded now) {instant : Instant} (hle : instant ≤ now) :
    (s.onOutput instant).Bounded now := by
  cases hsync : s.isSyncing with
  | true => rwa [onOutput_open hsync]
  | false =>
    have closed := isSyncing_eq_false.1 hsync
    by_cases hzero : s.lowerDelay = 0 ∨ s.upperDelay = 0
    · rw [onOutput_at_once hsync hzero]
      simpa [closed] using h.of_immediate
    · rw [onOutput_delayed hsync hzero]
      refine ⟨fun hopen => by simp [isSyncing, closed] at hopen, ?_, h.sync_le⟩
      intro upper hupper
      rw [← Option.some.inj hupper]
      cases hearlier : s.upper with
      | none => exact Int.add_le_add_right hle _
      | some earlier => exact h.upper_le earlier hearlier

theorem bounded_beginSync (s : Schedule) {instant : Instant} (hle : instant ≤ now) :
    (s.beginSync instant).Bounded now where
  alone _ := ⟨rfl, rfl, rfl⟩
  upper_le _ hinstant := by cases hinstant
  sync_le _ hinstant := by
    rw [← Option.some.inj hinstant]
    exact Int.add_le_add_right hle _

theorem Bounded.endSync (h : s.Bounded now) : s.endSync.Bounded now := by
  cases hsync : s.isSyncing with
  | true =>
    rw [endSync_open hsync]
    exact h.of_immediate
  | false => rwa [endSync_closed hsync]

theorem Bounded.requestImmediate (h : s.Bounded now) : s.requestImmediate.Bounded now := by
  cases hsync : s.isSyncing with
  | true => rwa [requestImmediate_open hsync]
  | false =>
    rw [requestImmediate_closed hsync]
    simpa [isSyncing_eq_false.1 hsync] using h.of_immediate

/-- Each call that is made by then keeps the bounds. -/
theorem Bounded.apply (h : s.Bounded now) {call : Call}
    (hcall : ∀ instant ∈ call.instant?, instant ≤ now) : (call.apply s).Bounded now := by
  cases call with
  | output instant => exact h.onOutput (hcall instant rfl)
  | beginSync instant => exact bounded_beginSync s (hcall instant rfl)
  | endSync => exact h.endSync
  | requestImmediate => exact h.requestImmediate
  | poll instant =>
    cases hdrawn : (s.poll instant).value.2 with
    | false => rwa [Call.apply, poll_of_not_drawn hdrawn]
    | true =>
      rw [Call.apply, poll_of_drawn hdrawn]
      exact h.of_cleared rfl rfl rfl (.inl rfl) rfl
  | frameRendered => exact h.of_cleared rfl rfl rfl (.inr rfl) rfl

theorem forall_instants_cons {call : Call} {calls : List Call} {P : Instant → Prop} :
    (∀ instant ∈ instants (call :: calls), P instant) ↔
      (∀ instant ∈ call.instant?, P instant) ∧ ∀ instant ∈ instants calls, P instant := by
  cases hcall : call.instant? <;> simp [instants, hcall]

theorem Bounded.run (h : s.Bounded now) {calls : List Call}
    (hcalls : ∀ instant ∈ instants calls, instant ≤ now) : (s.run calls).Bounded now := by
  induction calls generalizing s with
  | nil => exact h
  | cons call calls ih =>
    obtain ⟨first, rest⟩ := forall_instants_cons.1 hcalls
    exact ih (h.apply first) rest

/-- Calls that begin with nothing pending keep the bounds of every instant that they do not pass. -/
theorem bounded_run (config : Config) {calls : List Call}
    (h : ∀ instant ∈ instants calls, instant ≤ now) : ((ofConfig config).run calls).Bounded now :=
  (bounded_ofConfig config now).run h

/-- Some instant is not passed by calls. -/
theorem exists_forall_instants_le (calls : List Call) :
    ∃ now, ∀ instant ∈ instants calls, instant ≤ now := by
  induction instants calls with
  | nil => exact ⟨0, List.forall_mem_nil _⟩
  | cons instant rest ih =>
    obtain ⟨now, hnow⟩ := ih
    refine ⟨max instant now, List.forall_mem_cons.2 ⟨Int.le_max_left _ _, ?_⟩⟩
    intro other hother
    exact Int.le_trans (hnow other hother) (Int.le_max_right _ _)

/-- The delays of a schedule. -/
def delays (s : Schedule) : Nat × Nat × Nat := (s.lowerDelay, s.upperDelay, s.syncTimeout)

theorem delays_apply (s : Schedule) (call : Call) : (call.apply s).delays = s.delays := by
  cases call with
  | output instant => simp only [Call.apply, onOutput]; split <;> (try split) <;> rfl
  | beginSync instant => rfl
  | endSync => simp only [Call.apply, endSync]; split <;> rfl
  | requestImmediate => simp only [Call.apply, requestImmediate]; split <;> rfl
  | poll instant =>
    cases hdrawn : (s.poll instant).value.2 with
    | false => rw [Call.apply, poll_of_not_drawn hdrawn]
    | true => rw [Call.apply, poll_of_drawn hdrawn]; rfl
  | frameRendered => rfl

theorem delays_run (s : Schedule) (calls : List Call) : (s.run calls).delays = s.delays := by
  induction calls generalizing s with
  | nil => rfl
  | cons call calls ih => exact (ih (call.apply s)).trans (delays_apply s call)

/-! ## The earliest deadline -/

theorem expired_earlier (now : Instant) (a b : Option Instant) :
    expired now (earlier a b) = (expired now a || expired now b) := by
  cases a with
  | none => simp [earlier, expired]
  | some a =>
    cases b with
    | none => simp [earlier, expired]
    | some b =>
      have either : min a b ≤ now ↔ a ≤ now ∨ b ≤ now := by
        rcases Int.le_total a b with hab | hba
        · rw [Int.min_eq_left hab]
          exact ⟨.inl, fun h => h.elim id (Int.le_trans hab)⟩
        · rw [Int.min_eq_right hba]
          exact ⟨.inr, fun h => h.elim (Int.le_trans hba) id⟩
      simp [earlier, expired, either]

theorem due_deadline_of_closed (h : s.sync = none) :
    s.deadline.Due now ↔ s.immediate = true ∨ expired now s.lower = true ∨
      expired now s.upper = true := by
  cases himmediate : s.immediate with
  | true => simp [deadline, isSyncing, h, himmediate, Deadline.Due]
  | false =>
    have instants : expired now (earlier s.lower (earlier s.upper s.sync)) =
        (expired now s.lower || expired now s.upper) := by
      rw [expired_earlier, expired_earlier, h]
      simp [expired]
    rw [← Bool.or_eq_true, ← instants]
    cases hearliest : earlier s.lower (earlier s.upper s.sync) with
    | none => simp [deadline, himmediate, hearliest, Deadline.Due, expired]
    | some instant => simp [deadline, himmediate, hearliest, Deadline.Due, expired]

theorem Bounded.deadline_of_open (h : s.Bounded now) {timeout : Instant}
    (hsync : s.sync = some timeout) : s.deadline = .at timeout := by
  obtain ⟨hlower, hupper, himmediate⟩ := h.alone (isSyncing_of_some hsync)
  simp [deadline, hlower, hupper, himmediate, hsync, earlier]

/-- A frame is drawn exactly if the earliest deadline has come. -/
theorem Bounded.drawn_iff {clock : Instant} (h : s.Bounded clock) (now : Instant) :
    (s.poll now).value.2 = true ↔ s.deadline.Due now := by
  cases hsync : s.sync with
  | none => rw [drawn_of_closed hsync, due_deadline_of_closed hsync]
  | some timeout =>
    rw [drawn_of_open hsync, h.deadline_of_open hsync]
    rfl

/-- Once a schedule was asked for a frame, nothing is due. -/
theorem Bounded.not_due_poll {clock : Instant} (h : s.Bounded clock) (now : Instant) :
    ¬(s.poll now).value.1.deadline.Due now := by
  cases hdrawn : (s.poll now).value.2 with
  | false =>
    rw [poll_of_not_drawn hdrawn, ← h.drawn_iff, hdrawn]
    exact Bool.false_ne_true
  | true =>
    rw [deadline_of_drawn hdrawn]
    exact id

/-- Output has something come due within the longest of the delays. -/
theorem Bounded.due_onOutput (h : s.Bounded now) :
    (s.onOutput now).deadline.Due (now + max s.lowerDelay (max s.upperDelay s.syncTimeout)) := by
  have within {delay : Nat} (hle : delay ≤ max s.lowerDelay (max s.upperDelay s.syncTimeout)) :
      now + delay ≤ now + (max s.lowerDelay (max s.upperDelay s.syncTimeout) : Nat) :=
    Int.add_le_add_left (Int.ofNat_le.2 hle) now
  cases hsync : s.sync with
  | some timeout =>
    rw [onOutput_open (isSyncing_of_some hsync), h.deadline_of_open hsync]
    exact Int.le_trans (h.sync_le timeout hsync) (within (by omega))
  | none =>
    have closed := isSyncing_eq_false.2 hsync
    by_cases hzero : s.lowerDelay = 0 ∨ s.upperDelay = 0
    · rw [onOutput_at_once closed hzero]
      exact (due_deadline_of_closed (s := { s with immediate := true }) hsync).2 (.inl rfl)
    · rw [onOutput_delayed closed hzero]
      apply (due_deadline_of_closed ?_).2
      · exact .inr (.inl (expired_iff.2 ⟨_, rfl, within (by omega)⟩))
      · exact hsync

/-! ## Open updates -/

/-- While an update that was begun at an instant is neither ended nor timed out, no call closes
it. -/
theorem sync_run {begun : Instant}
    (h : ∃ timeout, s.sync = some timeout ∧ begun + s.syncTimeout ≤ timeout) {calls : List Call}
    (hend : .endSync ∉ calls)
    (hcalls : ∀ instant ∈ instants calls, begun ≤ instant ∧ instant < begun + s.syncTimeout) :
    ∃ timeout, (s.run calls).sync = some timeout ∧ begun + s.syncTimeout ≤ timeout := by
  induction calls generalizing s with
  | nil => exact h
  | cons call calls ih =>
    obtain ⟨timeout, hsync, hle⟩ := h
    obtain ⟨hfirst, hcalls⟩ := forall_instants_cons.1 hcalls
    have opened := isSyncing_of_some hsync
    have same : (call.apply s).syncTimeout = s.syncTimeout := congrArg (·.2.2) (delays_apply s call)
    have next : ∃ timeout, (call.apply s).sync = some timeout ∧
        begun + s.syncTimeout ≤ timeout := by
      cases call with
      | output instant => exact ⟨timeout, by rwa [Call.apply, onOutput_open opened], hle⟩
      | beginSync instant => exact ⟨_, rfl, Int.add_le_add_right (hfirst instant rfl).1 _⟩
      | endSync => exact absurd List.mem_cons_self hend
      | requestImmediate => exact ⟨timeout, by rwa [Call.apply, requestImmediate_open opened], hle⟩
      | poll instant =>
        have early : instant < timeout := Int.lt_of_lt_of_le (hfirst instant rfl).2 hle
        exact ⟨timeout, by rwa [Call.apply, poll_open hsync, if_pos early], hle⟩
      | frameRendered => exact ⟨timeout, hsync, hle⟩
    rw [← same] at next hcalls ⊢
    exact ih next (List.not_mem_of_not_mem_cons hend) hcalls

/-- An update holds frames back until it is ended or times out. -/
theorem not_drawn_of_begun (config : Config) {before after : List Call} {begun : Instant}
    (hordered : Ordered (before ++ .beginSync begun :: after)) (hend : .endSync ∉ after)
    (hpast : ∀ instant ∈ instants (before ++ .beginSync begun :: after), instant ≤ now)
    (hnow : now < begun + config.syncTimeout) :
    (((ofConfig config).run (before ++ .beginSync begun :: after)).poll now).value.2 = false := by
  have timeout : ((ofConfig config).run before).syncTimeout = config.syncTimeout :=
    congrArg (·.2.2) (delays_run (ofConfig config) before)
  rw [← timeout] at hnow
  have within : ∀ instant ∈ instants after,
      begun ≤ instant ∧ instant < begun + ((ofConfig config).run before).syncTimeout := by
    intro instant hinstant
    rw [Ordered, instants_append, List.pairwise_append] at hordered
    rw [instants_append] at hpast
    have passed := hpast instant (List.mem_append_right _ (List.mem_cons_of_mem begun hinstant))
    exact ⟨List.rel_of_pairwise_cons hordered.2.1 hinstant, Int.lt_of_le_of_lt passed hnow⟩
  obtain ⟨timesOut, hopen, hle⟩ := sync_run (s := ((ofConfig config).run before).beginSync begun)
    ⟨_, rfl, Int.le_refl _⟩ hend within
  rw [run_append]
  refine Bool.eq_false_iff.2 fun hdrawn => ?_
  exact Int.not_le.2 hnow (Int.le_trans hle ((drawn_of_open hopen).1 hdrawn))

/-- What a schedule promises after calls. -/
structure Punctual (config : Config) (calls : List Call) : Prop where
  /-- A frame is drawn exactly if the earliest deadline has come. -/
  drawn_iff : ∀ now, (((ofConfig config).run calls).poll now).value.2 = true ↔
    ((ofConfig config).run calls).deadline.Due now
  /-- After a frame nothing is pending. -/
  cleared : ∀ now, (((ofConfig config).run calls).poll now).value.2 = true →
    (((ofConfig config).run calls).poll now).value.1.deadline = .none
  /-- No frame is drawn while an update is open that has not timed out. -/
  held : ∀ before begun after now, calls = before ++ .beginSync begun :: after → .endSync ∉ after →
    (∀ instant ∈ instants calls, instant ≤ now) → now < begun + config.syncTimeout →
    (((ofConfig config).run calls).poll now).value.2 = false
  /-- Output has something come due within the longest of the delays. -/
  prompt : ∀ now, (∀ instant ∈ instants calls, instant ≤ now) →
    (((ofConfig config).run calls).onOutput now).deadline.Due
      (now + max config.lowerDelay (max config.upperDelay config.syncTimeout))

theorem punctual_run (config : Config) {calls : List Call} (hordered : Ordered calls) :
    Punctual config calls := by
  obtain ⟨clock, hclock⟩ := exists_forall_instants_le calls
  have bounded := bounded_run config hclock
  have delays := delays_run (ofConfig config) calls
  refine ⟨bounded.drawn_iff, fun now hdrawn => deadline_of_drawn hdrawn, ?_, ?_⟩
  · rintro before begun after now rfl hend hpast hnow
    exact not_drawn_of_begun config hordered hend hpast hnow
  · intro now hpast
    have lower : ((ofConfig config).run calls).lowerDelay = config.lowerDelay :=
      congrArg (·.1) delays
    have upper : ((ofConfig config).run calls).upperDelay = config.upperDelay :=
      congrArg (·.2.1) delays
    have timeout : ((ofConfig config).run calls).syncTimeout = config.syncTimeout :=
      congrArg (·.2.2) delays
    rw [← lower, ← upper, ← timeout]
    exact (bounded_run config hpast).due_onOutput

end Schedule

end Teletype
