import Teletype.Proofs.Schedule.Calls
import Teletype.Proofs.Session.Delivery
import Teletype.Proofs.Terminal.Reachable
import Teletype.Proofs.Terminal.Switches
import Teletype.Server

/-!
# How long sessions can be left alone

After all sessions were served nothing is due, so the multiplexer is to be left alone for some time,
and no frame falls due in that time. This needs that what is pending comes from calls of the
schedules, as it does in every multiplexer that a server comes to hold.
-/

namespace Teletype

/-- How long a schedule can be left alone, at most `longest`. -/
def Schedule.untilDue (s : Schedule) (now : Instant) (longest : Nat) : Nat :=
  match s.deadline with
  | .none => longest
  | .now => 0
  | .at instant => min longest (instant - now).toNat

namespace Schedule

variable {s : Schedule} {now : Instant}

theorem untilDue_le_of_due {later : Instant} (h : s.deadline.Due later) (now : Instant)
    (longest : Nat) : s.untilDue now longest ≤ (later - now).toNat := by
  unfold untilDue
  cases hdeadline : s.deadline with
  | none =>
    rw [hdeadline] at h
    exact h.elim
  | now => exact Nat.zero_le _
  | «at» instant =>
    rw [hdeadline] at h
    exact Nat.le_trans (Nat.min_le_right _ _) (Int.toNat_le_toNat (Int.sub_le_sub_right h now))

theorem untilDue_pos (h : ¬s.deadline.Due now) {longest : Nat} (hlongest : 0 < longest) :
    0 < s.untilDue now longest := by
  unfold untilDue
  cases hdeadline : s.deadline with
  | none => exact hlongest
  | now =>
    rw [hdeadline] at h
    exact absurd trivial h
  | «at» instant =>
    rw [hdeadline] at h
    have positive : 0 < (instant - now).toNat :=
      Int.pos_iff_toNat_pos.1 (Int.sub_pos_of_lt (Int.not_le.1 h))
    exact Nat.lt_min.2 ⟨hlongest, positive⟩

end Schedule

/-! ## Schedules of terminals -/

namespace Terminal

/-- What is pending in the second terminal comes from calls of the first one's schedule. -/
def Calls (t u : Terminal) : Prop := ∃ calls, u.schedule = t.schedule.run calls

variable {t u v : Terminal}

theorem Calls.refl (t : Terminal) : t.Calls t := ⟨[], rfl⟩

theorem Calls.trans (h : t.Calls u) (h' : u.Calls v) : t.Calls v := by
  obtain ⟨calls, hu⟩ := h
  obtain ⟨more, hv⟩ := h'
  exact ⟨calls ++ more, by rw [hv, hu, Schedule.run_append]⟩

theorem Calls.ite {p : Prop} [Decidable p] {a b : Terminal} (ha : t.Calls a) (hb : t.Calls b) :
    t.Calls (if p then a else b) := by
  split
  · exact ha
  · exact hb

theorem calls_foldl {α : Type} {f : Terminal → α → Terminal}
    (hf : ∀ (t : Terminal) (a : α), t.Calls (f t a)) (l : List α) (t : Terminal) :
    t.Calls (l.foldl f t) :=
  List.foldlRecOn l f (.refl t) fun u hu a _ => hu.trans (hf u a)

theorem Calls.of_call (call : Schedule.Call) (h : u.schedule = call.apply t.schedule) : t.Calls u :=
  ⟨[call], h⟩

theorem Calls.of_alters {aspects : List Aspect} (h : t.Alters aspects u)
    (hapart : Aspect.apart [.schedule] aspects = true) : t.Calls u :=
  ⟨[], h.of_apart hapart (a := .schedule) (by decide)⟩

variable (t) (now : Instant)

theorem calls_setDecMode (on : Bool) (number : Nat) : t.Calls (setDecMode now on t number) := by
  by_cases sync : number = 2026
  · obtain rfl := sync
    exact .ite (.of_call (.beginSync now) rfl) (.of_call .endSync rfl)
  · refine .of_alters (t.alters_setDecMode now on number)
      (Aspect.apart_iff.2 fun a ha altered => ?_)
    obtain rfl := List.mem_singleton.1 ha
    by_cases screens : number ∈ screenNumbers
    · simp only [screenNumbers, List.mem_cons, List.not_mem_nil, or_false] at screens
      rcases screens with rfl | rfl | rfl | rfl <;> exact absurd altered (by decide)
    · simpa [sync] using mem_ofDecMode screens altered

theorem calls_restoreDecMode (number : Nat) : t.Calls (restoreDecMode now t number) := by
  refine .ite (.of_alters t.alters_restoreCursor rfl) ?_
  split
  · exact t.calls_setDecMode now _ number
  · exact .of_alters (t.alters_note ..) rfl

theorem calls_hardReset : t.Calls t.hardReset := by
  have left : t.Calls (t.leaveAlternate false) := .of_alters (t.alters_leaveAlternate false) rfl
  exact left.trans ⟨[.endSync, .requestImmediate], rfl⟩

theorem calls_run (command : Command) : t.Calls (t.run now command) := by
  cases command with
  | setDecModes numbers on => exact calls_foldl (fun t n => t.calls_setDecMode now on n) numbers t
  | restoreDecModes numbers =>
    exact calls_foldl (fun t n => t.calls_restoreDecMode now n) numbers t
  | softReset => exact .of_call .endSync ((alters_grid _ _).kept .schedule rfl)
  | hardReset => exact t.calls_hardReset
  | _ => exact .of_alters (t.alters_run now _) rfl

theorem calls_serve (r : Control.DeviceRequest) : t.Calls (serve now t r) := by
  cases r with
  | setting name => exact .of_alters (t.alters_give _) rfl
  | capabilities names => exact .of_alters (alters_foldl (fun t r => t.alters_give r) _ t) rfl
  | beginSync => exact .of_call (.beginSync now) rfl
  | endSync => exact .of_call .endSync rfl

theorem calls_perform (action : Control.Action) : t.Calls (perform now t action) := by
  have apart : t.Calls { t with composeAt := none } := .of_alters (t.alters_composeAt none) rfl
  cases action with
  | execute | escape | control => exact apart.trans (calls_run _ now _)
  | request r => exact apart.trans (calls_serve _ now r)
  | _ => exact .of_alters (t.alters_perform now _) rfl

theorem calls_feed (bytes : List UInt8) : t.Calls (t.feed bytes now) := by
  have read : t.Calls (t.reading bytes) := .of_alters (t.alters_reading bytes) rfl
  have performed := read.trans
    (calls_foldl (fun t a => t.calls_perform now a) (t.decoder.feed bytes).2.toList _)
  rw [feed_eq]
  exact .ite performed (performed.trans (.of_call (.output now) rfl))

theorem calls_resize (cols rows : Nat) : t.Calls (t.resize cols rows) := by
  unfold resize
  refine .ite (.refl t) (.trans (u := { t with
    tabs := t.tabsFor (max cols 1)
    primary := t.primary.resize (max rows 1) (max cols 1) t.config.reflow
    alternate := t.alternate.resize (max rows 1) (max cols 1) false
    composeAt := none
    schedule := t.schedule.requestImmediate }) (.of_call .requestImmediate rfl) ?_)
  exact .of_alters ((alters_repaint _).trans ((alters_note ..).mono rfl)) rfl

/-- A host sets no deadline but by calls of the schedule. -/
theorem calls_apply (action : HostAction) : t.Calls (action.apply t) := by
  cases action with
  | feed bytes now => exact t.calls_feed now bytes
  | resize cols rows => exact t.calls_resize cols rows
  | poll now => exact .of_call (.poll now) rfl
  | requestImmediate => exact .of_call .requestImmediate rfl
  | _ => exact .of_alters (t.alters_apply _) rfl

end Terminal

/-! ## Sessions -/

namespace Session

variable {ω : Type}

theorem wait_eq (s : Session ω) (now : Instant) (longest : Nat) :
    s.wait now longest =
      if s.armed then min (s.terminal.schedule.untilDue now longest) Multiplexer.armedWait
      else s.terminal.schedule.untilDue now longest :=
  rfl

/-- A session is left alone no longer than until its deadline. -/
theorem wait_le_of_due {s : Session ω} {later : Instant}
    (h : s.terminal.schedule.deadline.Due later) (now : Instant) (longest : Nat) :
    s.wait now longest ≤ (later - now).toNat := by
  have untilDue := Schedule.untilDue_le_of_due h now longest
  rw [wait_eq]
  split
  · exact Nat.le_trans (Nat.min_le_left _ _) untilDue
  · exact untilDue

/-- A session of which nothing is due can be left alone for a while. -/
theorem wait_pos {s : Session ω} {now : Instant} (h : ¬s.terminal.schedule.deadline.Due now)
    {longest : Nat} (hlongest : 0 < longest) : 0 < s.wait now longest := by
  have untilDue := Schedule.untilDue_pos h hlongest
  rw [wait_eq]
  split
  · exact Nat.lt_min.2 ⟨untilDue, by decide⟩
  · exact untilDue

/-- What is pending in the session comes from calls of its schedule. -/
def Scheduled (s : Session ω) : Prop :=
  ∃ config calls, s.terminal.schedule = (Schedule.ofConfig config).run calls

theorem scheduled_new (config : Config) (sink : ω) (client : Option Nat) (hold : Bool) :
    Scheduled { terminal := .new config, sink, client, hold } := ⟨config, [], rfl⟩

theorem Scheduled.of_calls {s s' : Session ω} (h : s.Scheduled)
    (hc : s.terminal.Calls s'.terminal) : s'.Scheduled := by
  obtain ⟨config, calls, hs⟩ := h
  obtain ⟨more, hs'⟩ := hc
  exact ⟨config, calls ++ more, by rw [hs', hs, Schedule.run_append]⟩

variable [Sink ω]

/-- Offering replies leaves the schedule alone. -/
theorem schedule_flush (s : Session ω) : s.flush.value.terminal.schedule = s.terminal.schedule := by
  simp only [flush]
  split
  · rfl
  · split <;> rfl

/-- Serving asks the schedule for a frame. -/
theorem schedule_serve (s : Session ω) (id : Nat) (now : Instant) :
    (s.serve id now).value.1.terminal.schedule = (s.terminal.schedule.poll now).value.1 := by
  have offered : (if s.armed then s.flush else ⟨s, []⟩).value.terminal.schedule =
      s.terminal.schedule := by
    split
    · exact schedule_flush s
    · rfl
  simp only [serve]
  rw [offered]
  split
  · simp only [Terminal.modifyGrid]
    split <;> rfl
  · rfl

theorem calls_feed (s : Session ω) (bytes : List UInt8) (now : Instant) :
    s.terminal.Calls (s.feed bytes now).value.terminal := by
  have fed := s.terminal.calls_feed now bytes
  have taken := fed.trans (Terminal.calls_apply _ .takeReports)
  exact taken.trans ⟨[], schedule_flush (s.withTerminal (s.terminal.feed bytes now)).value⟩

end Session

/-! ## All sessions -/

namespace Multiplexer

variable {ω : Type}

/-- What is pending in each session comes from calls of its schedule. -/
def Scheduled (m : Multiplexer ω) : Prop :=
  ∀ entry ∈ m.sessions, ∃ config calls, entry.2.terminal.schedule =
    (Schedule.ofConfig config).run calls

theorem mem_place {id : Nat} {s : Session ω} {l : List (Nat × Session ω)} {entry : Nat × Session ω}
    (h : entry ∈ place id s l) : entry = (id, s) ∨ entry ∈ l := by
  induction l with
  | nil => exact .inl (List.mem_singleton.1 h)
  | cons first l ih =>
    obtain ⟨k, other⟩ := first
    unfold place at h
    split at h
    · exact List.mem_cons.1 h
    · split at h
      · exact (List.mem_cons.1 h).imp_right (List.mem_cons_of_mem _)
      · rcases List.mem_cons.1 h with rfl | h
        · exact .inr List.mem_cons_self
        · exact (ih h).imp_right (List.mem_cons_of_mem _)

theorem Scheduled.insert {m : Multiplexer ω} (h : m.Scheduled) (id : Nat) {s : Session ω}
    (hs : s.Scheduled) : (m.insert id s).Scheduled := by
  intro entry hentry
  rcases mem_place hentry with rfl | held
  · exact hs
  · exact h entry held

theorem Scheduled.update? {m : Multiplexer ω} (h : m.Scheduled) {id : Nat}
    {f : Session ω → Reported (Session ω)}
    (hf : ∀ s : Session ω, s.terminal.Calls (f s).value.terminal) {r : Reported (Multiplexer ω)}
    (hr : m.update? id f = some r) : r.value.Scheduled := by
  obtain ⟨s, hs, rfl⟩ := Option.map_eq_some_iff.1 hr
  have held : s.Scheduled := h _ (mem_of_find? hs)
  exact h.insert id (held.of_calls (hf s))

/-- Going over sessions of which nothing is due leaves some time to wait. -/
theorem foldl_wait_pos {now : Instant} {l : List (Nat × Session ω)} {longest : Nat}
    (hlongest : 0 < longest) (h : ∀ entry ∈ l, ¬entry.2.terminal.schedule.deadline.Due now) :
    0 < l.foldl (fun longest entry => entry.2.wait now longest) longest := by
  induction l generalizing longest with
  | nil => exact hlongest
  | cons entry l ih =>
    obtain ⟨hentry, hl⟩ := List.forall_mem_cons.1 h
    exact ih (Session.wait_pos hentry hlongest) hl

theorem wait_pos {m : Multiplexer ω} {now : Instant}
    (h : ∀ entry ∈ m.sessions, ¬entry.2.terminal.schedule.deadline.Due now) : 0 < m.wait now :=
  foldl_wait_pos (by decide) h

/-- No session has anything come due while all are left alone. -/
theorem not_due_of_lt_wait {m : Multiplexer ω} {now later : Instant} (hpos : 0 < m.wait now)
    (hlater : later < now + m.wait now) {entry : Nat × Session ω} (h : entry ∈ m.sessions) :
    ¬entry.2.terminal.schedule.deadline.Due later := by
  have beyond (now later : Int) (length : Nat) (hpos : 0 < length) (hlater : later < now + length) :
      ¬length ≤ (later - now).toNat := by
    omega
  intro hdue
  exact beyond now later (m.wait now) hpos hlater
    (wait_le_of_mem h (Session.wait_le_of_due hdue now))

variable [Sink ω]

theorem mem_serveAll {now : Instant} {l : List (Nat × Session ω)} {frames : Nat}
    {entry : Nat × Session ω} (h : entry ∈ (serveAll now frames l).value.1) :
    ∃ s, (entry.1, s) ∈ l ∧ entry.2 = (s.serve entry.1 now).value.1 := by
  induction l generalizing frames with
  | nil => cases h
  | cons first l ih =>
    obtain ⟨id, s⟩ := first
    rcases List.mem_cons.1 h with rfl | hrest
    · exact ⟨s, List.mem_cons_self, rfl⟩
    · obtain ⟨s', hs', heq⟩ := ih hrest
      exact ⟨s', List.mem_cons_of_mem _ hs', heq⟩

theorem mem_serve {m : Multiplexer ω} {now : Instant} {entry : Nat × Session ω}
    (h : entry ∈ (m.serve now).value.1.sessions) :
    ∃ s, (entry.1, s) ∈ m.sessions ∧ entry.2 = (s.serve entry.1 now).value.1 :=
  mem_serveAll h

/-- Once all sessions are served nothing is due. -/
theorem Scheduled.not_due_serve {m : Multiplexer ω} (h : m.Scheduled) (now : Instant) :
    ∀ entry ∈ (m.serve now).value.1.sessions, ¬entry.2.terminal.schedule.deadline.Due now := by
  intro entry hentry
  obtain ⟨s, hs, hserved⟩ := mem_serve hentry
  obtain ⟨config, calls, hschedule⟩ := h _ hs
  obtain ⟨clock, hclock⟩ := Schedule.exists_forall_instants_le calls
  rw [hserved, Session.schedule_serve, hschedule]
  exact (Schedule.bounded_run config hclock).not_due_poll now

theorem Scheduled.serve {m : Multiplexer ω} (h : m.Scheduled) (now : Instant) :
    (m.serve now).value.1.Scheduled := by
  intro entry hentry
  obtain ⟨s, hs, hserved⟩ := mem_serve hentry
  obtain ⟨config, calls, hschedule⟩ := h _ hs
  refine ⟨config, calls ++ [.poll now], ?_⟩
  rw [hserved, Session.schedule_serve, hschedule, Schedule.run_append]
  rfl

theorem Scheduled.feed {m : Multiplexer ω} (h : m.Scheduled) (id : Nat) (bytes : List UInt8)
    (now : Instant) : (m.feed id bytes now).value.1.Scheduled := by
  unfold Multiplexer.feed
  split
  · exact h
  · rename_i s hs
    have held : s.Scheduled := h _ (mem_of_find? hs)
    exact h.insert id (held.of_calls ((s.calls_feed bytes now).trans
      (Terminal.calls_apply _ .takeEvents)))

/-- The multiplexers that can come about: one without sessions, and what requests for terminals,
output of children, the host and service make of it. -/
inductive Reachable : Multiplexer ω → Prop
  | empty : Reachable {}
  | insert {m : Multiplexer ω} (id : Nat) (config : Config) (sink : ω) (client : Option Nat)
    (hold : Bool) : Reachable m →
    Reachable (m.insert id { terminal := .new config, sink, client, hold })
  | feed {m : Multiplexer ω} (id : Nat) (bytes : List UInt8) (now : Instant) : Reachable m →
    Reachable (m.feed id bytes now).value.1
  | host {m : Multiplexer ω} {r : Reported (Multiplexer ω)} (id : Nat) (action : HostAction) :
    Reachable m →
    m.update? id (fun s => ⟨{ s with terminal := action.apply s.terminal }, []⟩) = some r →
    Reachable r.value
  | serve {m : Multiplexer ω} (now : Instant) : Reachable m → Reachable (m.serve now).value.1
  /-- Sessions are removed, or something happens that leaves their terminals alone. -/
  | beside {m m' : Multiplexer ω} : Reachable m →
    (∀ entry ∈ m'.sessions, ∃ other ∈ m.sessions, entry.2.terminal = other.2.terminal) →
    Reachable m'

/-- Whatever comes about, what is pending comes from calls of the schedules. -/
theorem Reachable.scheduled {m : Multiplexer ω} (h : m.Reachable) : m.Scheduled := by
  induction h with
  | empty => exact List.forall_mem_nil _
  | insert id config sink client hold _ ih =>
    exact ih.insert id (Session.scheduled_new config sink client hold)
  | feed id bytes now _ ih => exact ih.feed id bytes now
  | host id action _ hr ih => exact ih.update? (fun s => s.terminal.calls_apply action) hr
  | serve now _ ih => exact ih.serve now
  | beside _ same ih =>
    intro entry hentry
    obtain ⟨other, hother, terminal⟩ := same entry hentry
    rw [terminal]
    exact ih other hother

/-- Frames are drawn at their deadlines. When all sessions were served, the multiplexer is to be
left alone for some time, and no frame falls due in it. -/
theorem frames_on_time :
    (∀ config calls, Schedule.Ordered calls → Schedule.Punctual config calls) ∧
      ∀ (m : Multiplexer ω) (now : Instant), m.Scheduled →
        0 < (m.serve now).value.1.wait now ∧
          ∀ entry ∈ (m.serve now).value.1.sessions, ∀ later < now + (m.serve now).value.1.wait now,
            (entry.2.terminal.schedule.poll later).value.2 = false := by
  refine ⟨fun config calls hordered => Schedule.punctual_run config hordered, ?_⟩
  intro m now hscheduled
  have waits := wait_pos (hscheduled.not_due_serve now)
  refine ⟨waits, ?_⟩
  intro entry hentry later hlater
  obtain ⟨config, calls, hschedule⟩ := hscheduled.serve now entry hentry
  obtain ⟨clock, hclock⟩ := Schedule.exists_forall_instants_le calls
  have notDue := not_due_of_lt_wait waits hlater hentry
  rw [hschedule] at notDue ⊢
  rw [← (Schedule.bounded_run config hclock).drawn_iff later] at notDue
  exact Bool.eq_false_iff.2 notDue

/-- One terminal got output after an update that was ended, the other one has an update open. -/
def updating : Multiplexer Script where
  sessions := [
    (1, {
      terminal := (((Terminal.new { size := ⟨4, 1⟩ }).feed
        [0x1b, 0x5b, 0x3f, 0x32, 0x30, 0x32, 0x36, 0x68] 3).feed
          [0x1b, 0x5b, 0x3f, 0x32, 0x30, 0x32, 0x36, 0x6c] 5).feed [0x61] 7
      sink := ⟨[]⟩ }),
    (2, {
      terminal := ((Terminal.new { size := ⟨4, 1⟩, lowerDelay := 0 }).feed [0x61] 3).feed
        [0x1b, 0x5b, 0x3f, 0x32, 0x30, 0x32, 0x36, 0x68] 9
      sink := ⟨[]⟩ })]

theorem frames_on_time_updating :
    Schedule.Punctual {} [.output 3, .beginSync 3, .output 3, .endSync, .poll 8] ∧
      updating.Scheduled ∧ 0 < (updating.serve 10).value.1.wait 10 ∧
      ∀ entry ∈ (updating.serve 10).value.1.sessions,
        ∀ later < (10 : Instant) + (updating.serve 10).value.1.wait 10,
          (entry.2.terminal.schedule.poll later).value.2 = false := by
  have scheduled : updating.Scheduled := by
    refine List.forall_mem_cons.2 ⟨⟨{}, ?_⟩, List.forall_mem_singleton.2 ⟨{ lowerDelay := 0 }, ?_⟩⟩
    · exact ⟨[.beginSync 3, .output 3, .endSync, .output 5, .output 7], by decide +kernel⟩
    · exact ⟨[.output 3, .beginSync 9], by decide +kernel⟩
  obtain ⟨punctual, waits⟩ := frames_on_time (ω := Script)
  exact ⟨punctual _ _ (by decide), scheduled, waits updating 10 scheduled⟩

end Multiplexer

/-! ## The sessions of a server -/

namespace Server

open Multiplexer (Reachable)

variable {ω : Type} [Sink ω] {s : Server ω}

omit [Sink ω] in
theorem sessions_forget (s : Server ω) (connections : List Nat) :
    (connections.foldl forget s).sessions = s.sessions :=
  List.foldlRecOn (motive := fun u => u.sessions = s.sessions) connections forget rfl
    fun u hu connection _ => show (u.forget connection).sessions = s.sessions from hu

theorem reachable_erase {m : Multiplexer ω} (h : m.Reachable) (id : Nat) : (m.erase id).Reachable :=
  h.beside fun entry hentry => ⟨entry, (List.mem_filter.1 hentry).1, rfl⟩

theorem reachable_accept (h : s.sessions.Reachable) (connection : Nat) (r : Request)
    (launch : Child → List String → Except ServiceError ω) :
    (s.accept connection r launch).server.sessions.Reachable := by
  have counted : s.sessions.takeId.1.Reachable := h.beside fun entry hentry => ⟨entry, hentry, rfl⟩
  unfold accept
  dsimp only
  split
  · exact h
  · exact counted.insert ..

theorem reachable_childEnded (h : s.sessions.Reachable) (id : Nat) (code : ExitCode) :
    (s.childEnded id code).server.sessions.Reachable := by
  unfold childEnded
  split
  · exact h
  · rename_i session hsession
    dsimp only
    rw [sessions_forget]
    split
    · refine h.beside fun entry hentry => ?_
      rcases Multiplexer.mem_place hentry with rfl | held
      · exact ⟨_, Multiplexer.mem_of_find? hsession, rfl⟩
      · exact ⟨entry, held, rfl⟩
    · exact reachable_erase h id

theorem reachable_clientLeft (h : s.sessions.Reachable) (connection : Nat) :
    (s.clientLeft connection).server.sessions.Reachable := by
  unfold clientLeft
  split
  · exact h
  · rename_i id _
    dsimp only
    cases hclosed : (s.forget connection).close? id with
    | none => exact h
    | some closed =>
      obtain ⟨session, -, rfl⟩ := Option.map_eq_some_iff.1 hclosed
      dsimp only [Option.getD_some, withSessions]
      rw [sessions_forget]
      exact reachable_erase h id

theorem reachable_shutdown (h : s.sessions.Reachable) : s.shutdown.server.sessions.Reachable :=
  h.beside (List.forall_mem_nil _)

/-- Whatever comes in, the sessions of a server are some that can come about. -/
theorem reachable_handle (h : s.sessions.Reachable) (now : Instant)
    (launch : Child → List String → Except ServiceError ω) (incoming : Incoming) :
    (s.handle now launch incoming).1.server.sessions.Reachable := by
  cases incoming with
  | request connection r => exact reachable_accept h connection r launch
  | output id bytes => exact h.feed id bytes now
  | closed id code => exact reachable_childEnded h id code
  | hangup connection => exact reachable_clientLeft h connection
  | shutdown => exact h

end Server

end Teletype
