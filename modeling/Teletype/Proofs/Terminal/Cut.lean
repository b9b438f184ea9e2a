import Teletype.Proofs.Control.Feed
import Teletype.Proofs.Schedule.Calls
import Teletype.Proofs.Terminal.AlikeRun

/-!
# Output may be cut anywhere

How output is cut into reads makes no difference to the terminal. The decoder goes on where it was.
The schedule hears of output once for each read, but hearing of it in between comes to the same at
the end, whatever is done in the second part. Only the order of the reports can differ: the
decoder's come before those of the terminal in each read.
-/

namespace Teletype

/-! ## The decoder -/

namespace Control.Decoder

/-- The reports that were there before have no effect. -/
theorem step_reports (d : Decoder) (reports : List Report) (b : UInt8) :
    { d with reports := d.reports ++ reports }.step b =
      ({ (d.step b).1 with reports := (d.step b).1.reports ++ reports }, (d.step b).2) := by
  refine Prod.ext ?_ rfl
  unfold step
  dsimp only
  unfold note
  split
  · rfl
  · split
    · split <;> rfl
    · rfl

theorem feed_reports (d : Decoder) (reports : List Report) (bytes : List UInt8) :
    { d with reports := d.reports ++ reports }.feed bytes =
      ({ (d.feed bytes).1 with reports := (d.feed bytes).1.reports ++ reports },
        (d.feed bytes).2) := by
  induction bytes generalizing d with
  | nil => rfl
  | cons b bytes ih =>
    have first (d : Decoder) : d.feed (b :: bytes) =
        (((d.step b).1.feed bytes).1, #[] ++ (d.step b).2 ++ ((d.step b).1.feed bytes).2) :=
      foldl_advance (d.step b).1 (#[] ++ (d.step b).2) bytes
    rw [first, first, step_reports, ih]

/-- Reading on where reading stopped completes what is left, though the reports were taken in
between. -/
theorem feed_append_taken (d : Decoder) (a b : List UInt8) :
    let cut := (d.feed a).1.takeReports
    let rest := (cut.1.feed b).1.takeReports
    (d.feed (a ++ b)).1.takeReports = (rest.1, cut.2 ++ rest.2) ∧
      (d.feed (a ++ b)).2 = (d.feed a).2 ++ (cut.1.feed b).2 := by
  intro cut rest
  have taken := feed_reports cut.1 (d.feed a).1.reports b
  rw [show { cut.1 with reports := cut.1.reports ++ (d.feed a).1.reports } = (d.feed a).1 from rfl]
    at taken
  rw [feed_append, taken]
  exact ⟨Prod.ext rfl List.reverse_append, rfl⟩

end Control.Decoder

/-! ## The schedule -/

namespace Schedule

variable {s s' : Schedule} {now : Instant}

/-- Schedules that output makes the same. -/
def Level (now : Instant) (s s' : Schedule) : Prop := s.onOutput now = s'.onOutput now

theorem onOutput_onOutput (s : Schedule) (now : Instant) :
    (s.onOutput now).onOutput now = s.onOutput now := by
  cases hopen : s.isSyncing with
  | true => rw [onOutput_open hopen, onOutput_open hopen]
  | false =>
    have hopen' := (isSyncing_onOutput s now).trans hopen
    by_cases hzero : s.lowerDelay = 0 ∨ s.upperDelay = 0
    · rw [onOutput_at_once hopen hzero] at hopen' ⊢
      exact onOutput_at_once hopen' hzero now
    · rw [onOutput_delayed hopen hzero] at hopen' ⊢
      exact onOutput_delayed hopen' hzero now

theorem Level.isSyncing (h : Level now s s') : s.isSyncing = s'.isSyncing := by
  rw [← isSyncing_onOutput s now, h, isSyncing_onOutput]

/-- With an update open, output has no effect, so the schedules are the same. -/
theorem Level.eq_of_open (h : Level now s s') (hopen : s.isSyncing = true) : s = s' := by
  have hopen' := h.isSyncing.symm.trans hopen
  rwa [Level, onOutput_open hopen, onOutput_open hopen'] at h

theorem beginSync_onOutput (s : Schedule) (now : Instant) :
    (s.onOutput now).beginSync now = s.beginSync now := by
  unfold onOutput
  split
  · rfl
  · split <;> rfl

theorem Level.beginSync (h : Level now s s') : Level now (s.beginSync now) (s'.beginSync now) := by
  rw [← beginSync_onOutput s, h, beginSync_onOutput]
  rfl

theorem Level.endSync (h : Level now s s') : Level now s.endSync s'.endSync := by
  cases hopen : s.isSyncing with
  | true =>
    rw [h.eq_of_open hopen]
    rfl
  | false =>
    have hopen' := h.isSyncing.symm.trans hopen
    unfold Schedule.endSync
    rw [hopen, hopen']
    exact h

theorem onOutput_requestImmediate (hopen : s.isSyncing = false) :
    s.requestImmediate.onOutput now = { s.onOutput now with immediate := true } := by
  have hopen' := (isSyncing_requestImmediate s).trans hopen
  have request : s.requestImmediate = { s with immediate := true } := by
    rw [requestImmediate, hopen, if_neg Bool.false_ne_true]
  rw [request] at hopen' ⊢
  by_cases hzero : s.lowerDelay = 0 ∨ s.upperDelay = 0
  · rw [onOutput_at_once hopen hzero]
    exact onOutput_at_once hopen' hzero now
  · rw [onOutput_delayed hopen hzero]
    exact onOutput_delayed hopen' hzero now

theorem Level.requestImmediate (h : Level now s s') :
    Level now s.requestImmediate s'.requestImmediate := by
  cases hopen : s.isSyncing with
  | true =>
    rw [h.eq_of_open hopen]
    rfl
  | false =>
    unfold Level
    rw [onOutput_requestImmediate hopen,
      onOutput_requestImmediate (h.isSyncing.symm.trans hopen), h]

end Schedule

/-! ## The terminal -/

namespace Terminal

open Schedule

/-- The terminal with another decoder, another schedule and other reports. No operation depends on
these, but for whether an update is open. -/
def dressed (t : Terminal) (d : Control.Decoder) (s : Schedule) (r : Array Report) : Terminal :=
  { t with
    decoder := d
    schedule := s
    reports := r }

/-- Two terminals that are the same but for their decoders, `d` and `e`, for their schedules, which
output makes the same, and for reports, of which the first has some more. -/
inductive Twin (now : Instant) (d e : Control.Decoder) (more : List Report) :
    Terminal → Terminal → Prop
  | intro (t : Terminal) {s s' : Schedule} {r r' : Array Report} (level : Level now s s')
      (reports : r.toList.Perm (r'.toList ++ more)) :
      Twin now d e more (t.dressed d s r) (t.dressed e s' r')

namespace Twin

variable {now : Instant} {d e : Control.Decoder} {more : List Report} {t u : Terminal}

/-! ### What every operation is made of -/

theorem ite {p : Prop} [Decidable p] {t' u' : Terminal} (h : Twin now d e more t u)
    (h' : Twin now d e more t' u') :
    Twin now d e more (if p then t else t') (if p then u else u') := by
  split
  · exact h
  · exact h'

theorem foldl {α : Type} {f : Terminal → α → Terminal} (h : Twin now d e more t u)
    (hf : ∀ {t u} a, Twin now d e more t u → Twin now d e more (f t a) (f u a)) (l : List α) :
    Twin now d e more (l.foldl f t) (l.foldl f u) := by
  induction l generalizing t u with
  | nil => exact h
  | cons a l ih => exact ih (hf a h)

/-- What has no regard to the dress. -/
theorem map (h : Twin now d e more t u) (f : Terminal → Terminal)
    (hf : ∀ t d s r, f (dressed t d s r) = (f t).dressed d s r) :
    Twin now d e more (f t) (f u) := by
  obtain ⟨t, level, reports⟩ := h
  rw [hf, hf]
  exact ⟨_, level, reports⟩

theorem dressed_modifyGrid (t : Terminal) (d : Control.Decoder) (s : Schedule) (r : Array Report)
    (f : Grid → Grid) : (t.dressed d s r).modifyGrid f = (t.modifyGrid f).dressed d s r := by
  unfold Terminal.modifyGrid dressed
  dsimp only
  split <;> rfl

theorem modifyGrid (h : Twin now d e more t u) (f : Grid → Grid) :
    Twin now d e more (t.modifyGrid f) (u.modifyGrid f) :=
  h.map (·.modifyGrid f) fun t d s r => dressed_modifyGrid t d s r f

theorem noteAll (h : Twin now d e more t u) (rs : List Report) :
    Twin now d e more (t.noteAll rs) (u.noteAll rs) := by
  obtain ⟨t, level, reports⟩ := h
  refine ⟨t, level, ?_⟩
  rw [Array.toList_appendList, Array.toList_appendList]
  refine (reports.append_right rs).trans ?_
  rw [List.append_assoc, List.append_assoc]
  exact List.perm_append_comm.append_left _

theorem note (h : Twin now d e more t u) (severity : Severity) (message : String)
    (fields : List (String × String)) :
    Twin now d e more (t.note severity message fields) (u.note severity message fields) := by
  have noted := h.noteAll [⟨severity, message, fields⟩]
  simpa [Terminal.noteAll, Terminal.note] using noted

theorem emit (h : Twin now d e more t u) (event : Event) :
    Twin now d e more (t.emit event) (u.emit event) :=
  h.map (·.emit event) fun _ _ _ _ => rfl

theorem reply (h : Twin now d e more t u) (r : Reply) : Twin now d e more (t.reply r) (u.reply r) :=
  h.map (·.reply r) fun _ _ _ _ => rfl

theorem setTitle (h : Twin now d e more t u) (title : String) :
    Twin now d e more (t.setTitle title) (u.setTitle title) := by
  obtain ⟨t, level, reports⟩ := h
  unfold Terminal.setTitle
  exact .ite ⟨t, level, reports⟩ ⟨{ t with title := title }.emit (.title title), level, reports⟩

/-! ### Motions -/

theorem lineFeed (h : Twin now d e more t u) :
    Twin now d e more t.lineFeed u.lineFeed := by
  obtain ⟨t, level, reports⟩ := h
  unfold Terminal.lineFeed
  exact Twin.modifyGrid ⟨t, level, reports⟩ _

theorem reverseIndex (h : Twin now d e more t u) :
    Twin now d e more t.reverseIndex u.reverseIndex := by
  obtain ⟨t, level, reports⟩ := h
  unfold Terminal.reverseIndex
  exact Twin.modifyGrid ⟨t, level, reports⟩ _

theorem carriageReturn (h : Twin now d e more t u) :
    Twin now d e more t.carriageReturn u.carriageReturn :=
  h.modifyGrid _

theorem backspace (h : Twin now d e more t u) :
    Twin now d e more t.backspace u.backspace := by
  obtain ⟨t, level, reports⟩ := h
  unfold Terminal.backspace
  exact Twin.modifyGrid ⟨t, level, reports⟩ _

theorem putCursor (h : Twin now d e more t u) (cursor : Cursor) :
    Twin now d e more (t.putCursor cursor) (u.putCursor cursor) := h.modifyGrid _

theorem tabForward (h : Twin now d e more t u) (n : Nat) :
    Twin now d e more (t.tabForward n) (u.tabForward n) := by
  obtain ⟨t, level, reports⟩ := h
  unfold Terminal.tabForward
  exact Twin.putCursor ⟨t, level, reports⟩ _

theorem tabBackward (h : Twin now d e more t u) (n : Nat) :
    Twin now d e more (t.tabBackward n) (u.tabBackward n) := by
  obtain ⟨t, level, reports⟩ := h
  unfold Terminal.tabBackward
  exact Twin.putCursor ⟨t, level, reports⟩ _

theorem setTab (h : Twin now d e more t u) : Twin now d e more t.setTab u.setTab := by
  obtain ⟨t, level, reports⟩ := h
  unfold Terminal.setTab
  exact .ite ⟨t, level, reports⟩
    ⟨{ t with tabs := t.tabs.filter (· < t.cursor.col) ++ t.cursor.col ::
      t.tabs.filter (t.cursor.col < ·) }, level, reports⟩

theorem goTo (h : Twin now d e more t u) (row col : Nat) :
    Twin now d e more (t.goTo row col) (u.goTo row col) := by
  obtain ⟨t, level, reports⟩ := h
  unfold Terminal.goTo
  exact Twin.modifyGrid ⟨t, level, reports⟩ _

theorem cursorUp (h : Twin now d e more t u) (n : Nat) :
    Twin now d e more (t.cursorUp n) (u.cursorUp n) := by
  obtain ⟨t, level, reports⟩ := h
  unfold Terminal.cursorUp
  exact Twin.modifyGrid ⟨t, level, reports⟩ _

theorem cursorDown (h : Twin now d e more t u) (n : Nat) :
    Twin now d e more (t.cursorDown n) (u.cursorDown n) := by
  obtain ⟨t, level, reports⟩ := h
  unfold Terminal.cursorDown
  exact Twin.modifyGrid ⟨t, level, reports⟩ _

/-! ### Printing -/

theorem grid (h : Twin now d e more t u) : t.grid = u.grid := by
  obtain ⟨t, -, -⟩ := h
  rfl

theorem cursor (h : Twin now d e more t u) : t.cursor = u.cursor := congrArg Grid.cursor h.grid

theorem modes (h : Twin now d e more t u) : t.modes = u.modes := by
  obtain ⟨t, -, -⟩ := h
  rfl

theorem config (h : Twin now d e more t u) : t.config = u.config := by
  obtain ⟨t, -, -⟩ := h
  rfl

theorem clusters (h : Twin now d e more t u) : t.clusters = u.clusters := by
  obtain ⟨t, -, -⟩ := h
  rfl

theorem wrapLine (h : Twin now d e more t u) : Twin now d e more t.wrapLine u.wrapLine := by
  unfold Terminal.wrapLine
  rw [h.cursor]
  have fed := (h.modifyGrid (·.modifyRow u.cursor.row ({ · with wrapped := true }))).lineFeed
  dsimp only
  rw [fed.cursor]
  exact fed.putCursor _

theorem makeRoom (h : Twin now d e more t u) (width : Nat) :
    Twin now d e more (t.makeRoom width).1 (u.makeRoom width).1 ∧
      (t.makeRoom width).2 = (u.makeRoom width).2 := by
  unfold Terminal.makeRoom
  rw [h.modes, h.cursor]
  dsimp only
  have wrapped := Twin.ite (p := (u.cursor.pendingWrap && u.modes.dec.autowrap) = true) h.wrapLine h
  generalize (if u.cursor.pendingWrap && u.modes.dec.autowrap then t.wrapLine else t) =
    t' at wrapped ⊢
  generalize (if u.cursor.pendingWrap && u.modes.dec.autowrap then u.wrapLine else u) =
    u' at wrapped ⊢
  rw [wrapped.cursor, wrapped.grid]
  split
  · split
    · exact ⟨wrapped.wrapLine, rfl⟩
    · exact ⟨wrapped, rfl⟩
  · exact ⟨wrapped, rfl⟩

theorem placeGlyph (h : Twin now d e more t u) (c : Char) (width col : Nat) :
    Twin now d e more (t.placeGlyph c width col) (u.placeGlyph c width col) := by
  obtain ⟨t, level, reports⟩ := h
  unfold Terminal.placeGlyph
  exact Twin.modifyGrid ⟨t, level, reports⟩ _

theorem printGlyph (h : Twin now d e more t u) (c : Char) (width : Nat) :
    Twin now d e more (t.printGlyph c width) (u.printGlyph c width) := by
  obtain ⟨room, col⟩ := h.makeRoom width
  unfold Terminal.printGlyph
  rw [h.grid]
  refine .ite (h.note ..) ?_
  dsimp only
  rw [col, room.cursor]
  exact (room.placeGlyph c width _).map ({ · with lastPrinted := some c, composeAt := _ })
    fun _ _ _ _ => rfl

theorem compose (h : Twin now d e more t u) (row col : Nat) (c : Char) :
    Twin now d e more (t.compose row col c) (u.compose row col c) := by
  have method : t.config.widthMethod = u.config.widthMethod := by rw [h.config]
  unfold Terminal.compose
  rw [h.grid, h.clusters, method]
  split
  · exact h
  · rename_i cell _
    have joined :=
      (h.map ({ · with clusters := (u.clusters.append cell.key c u.config.widthMethod).value.1 })
        fun _ _ _ _ => rfl).noteAll (u.clusters.append cell.key c u.config.widthMethod).reports
    dsimp only
    split
    · exact joined
    · exact joined.modifyGrid _

theorem attaches (h : Twin now d e more t u) (row col : Nat) (c : Char) (width : Nat) :
    t.attaches row col c width = u.attaches row col c width := by
  unfold Terminal.attaches
  rw [h.grid, h.modes, h.clusters]

theorem print (h : Twin now d e more t u) (c : Char) :
    Twin now d e more (t.print c) (u.print c) := by
  have composeAt : t.composeAt = u.composeAt := by
    obtain ⟨t, -, -⟩ := h
    rfl
  have charsets : t.charsets = u.charsets := by
    obtain ⟨t, -, -⟩ := h
    rfl
  have shifted :
      Twin now d e more { t with charsets := (u.charsets.translate c).1, composeAt := u.composeAt }
      { u with charsets := (u.charsets.translate c).1 } :=
    h.map ({ · with charsets := (u.charsets.translate c).1, composeAt := u.composeAt })
      fun _ _ _ _ => rfl
  unfold Terminal.print
  rw [charsets, composeAt]
  dsimp only
  simp only [shifted.attaches]
  split
  · exact shifted.compose _ _ _
  · exact .ite shifted (shifted.printGlyph _ _)

theorem repeatLast (h : Twin now d e more t u) (n : Nat) :
    Twin now d e more (t.repeatLast n) (u.repeatLast n) := by
  have lastPrinted : t.lastPrinted = u.lastPrinted := by
    obtain ⟨t, -, -⟩ := h
    rfl
  unfold Terminal.repeatLast
  rw [lastPrinted]
  split
  · exact h
  · refine .ite h ?_
    induction n with
    | zero => exact h
    | succ n ih => exact ih.printGlyph _ _

/-! ### Screens and modes -/

theorem saveCursor (h : Twin now d e more t u) : Twin now d e more t.saveCursor u.saveCursor := by
  obtain ⟨t, level, reports⟩ := h
  unfold Terminal.saveCursor
  exact Twin.modifyGrid ⟨t, level, reports⟩ _

theorem restoreCursor (h : Twin now d e more t u) :
    Twin now d e more t.restoreCursor u.restoreCursor := by
  unfold Terminal.restoreCursor
  rw [h.grid]
  refine Twin.modifyGrid ?_ _
  exact h.map (fun t => { t with
    rendition := u.grid.saved.rendition
    charsets := u.grid.saved.charsets
    modes := { t.modes with
      dec := { t.modes.dec with
        origin := u.grid.saved.origin, autowrap := u.grid.saved.autowrap } } })
    fun _ _ _ _ => rfl

theorem isAlternate (h : Twin now d e more t u) : t.isAlternate = u.isAlternate := by
  obtain ⟨t, -, -⟩ := h
  rfl

theorem enterAlternate (h : Twin now d e more t u) (save : Bool) :
    Twin now d e more (t.enterAlternate save) (u.enterAlternate save) := by
  have saved :
      Twin now d e more (if save then t.saveCursor else t) (if save then u.saveCursor else u) :=
    .ite h.saveCursor h
  unfold Terminal.enterAlternate
  rw [h.isAlternate]
  refine .ite h ?_
  dsimp only
  generalize (if save then t.saveCursor else t) = t' at saved ⊢
  generalize (if save then u.saveCursor else u) = u' at saved ⊢
  refine Twin.note ?_ ..
  obtain ⟨t', level, reports⟩ := saved
  exact ⟨{ t' with screen := .alternate, alternate := _ }, level, reports⟩

theorem leaveAlternate (h : Twin now d e more t u) (restore : Bool) :
    Twin now d e more (t.leaveAlternate restore) (u.leaveAlternate restore) := by
  obtain ⟨t, level, reports⟩ := h
  have left := Twin.intro (d := d) (e := e) { t with
    screen := .primary
    primary := (t.primary.setRegion t.alternate.region.top t.alternate.region.bottom).setCursor
      t.alternate.cursor.row t.alternate.cursor.col } level reports
  have restored := Twin.ite (p := restore = true) left.restoreCursor left
  unfold Terminal.leaveAlternate
  refine .ite (Twin.note ?_ ..) ⟨t, level, reports⟩
  exact restored.map (fun t => { t with primary := t.primary.markAllDirty }) fun _ _ _ _ => rfl

theorem softReset (h : Twin now d e more t u) : Twin now d e more t.softReset u.softReset := by
  obtain ⟨t, level, reports⟩ := h
  unfold Terminal.softReset
  exact Twin.modifyGrid ⟨{ t with modes := _, rendition := {}, charsets := {}, link := 0 },
    level.endSync, reports⟩ _

theorem hardReset (h : Twin now d e more t u) : Twin now d e more t.hardReset u.hardReset := by
  have left := h.leaveAlternate false
  unfold Terminal.hardReset
  dsimp only
  generalize t.leaveAlternate false = t' at left ⊢
  generalize u.leaveAlternate false = u' at left ⊢
  obtain ⟨t, level, reports⟩ := left
  exact ⟨{ t with
    primary := _, alternate := _, rendition := {}, charsets := {}, modes := _, tabs := _,
    clusters := _, links := {}, link := 0, colors := _, titleStack := [], cursorShape := _,
      cursorBlink := _,
    lastPrinted := none, savedModes := [] }, level.endSync.requestImmediate, reports⟩

theorem alignmentTest (h : Twin now d e more t u) :
    Twin now d e more t.alignmentTest u.alignmentTest := by
  obtain ⟨t, level, reports⟩ := h
  unfold Terminal.alignmentTest
  exact Twin.modifyGrid ⟨t, level, reports⟩ _

theorem switchDec (h : Twin now d e more t u) (mode : DecMode) (on : Bool) :
    Twin now d e more (t.switchDec mode on) (u.switchDec mode on) :=
  h.map (·.switchDec mode on) fun _ _ _ _ => rfl

theorem beginSync (h : Twin now d e more t u) :
    Twin now d e more (t.beginSync now) (u.beginSync now) := by
  obtain ⟨t, level, reports⟩ := h
  exact Twin.note ⟨t, level.beginSync, reports⟩ ..

theorem endSync (h : Twin now d e more t u) : Twin now d e more t.endSync u.endSync := by
  obtain ⟨t, level, reports⟩ := h
  exact Twin.note ⟨t, level.endSync, reports⟩ ..

theorem setDecMode (h : Twin now d e more t u) (on : Bool) (number : Nat) :
    Twin now d e more (setDecMode now on t number) (setDecMode now on u number) := by
  unfold Terminal.setDecMode
  split
  · exact (h.switchDec _ on).modifyGrid _
  · exact (h.switchDec _ on).goTo 0 0
  · exact (h.switchDec _ on).modifyGrid _
  · exact .ite (h.note ..) h
  · exact .ite (h.note ..) h
  · exact .ite (h.note ..) h
  · exact .ite (h.enterAlternate false) (h.leaveAlternate false)
  · exact .ite (h.enterAlternate false) (h.leaveAlternate false)
  · exact .ite h.saveCursor h.restoreCursor
  · exact .ite (h.enterAlternate true) (h.leaveAlternate true)
  · exact .ite h.beginSync h.endSync
  · split
    · exact h.switchDec _ on
    · exact .ite (h.note ..) (h.note ..)

theorem decModeStatus (h : Twin now d e more t u) (number : Nat) :
    t.decModeStatus number = u.decModeStatus number := by
  have syncing : t.schedule.isSyncing = u.schedule.isSyncing := by
    obtain ⟨t, level, -⟩ := h
    exact level.isSyncing
  unfold Terminal.decModeStatus
  rw [h.isAlternate, syncing, h.modes, h.config]

theorem saveDecMode (h : Twin now d e more t u) (number : Nat) :
    Twin now d e more (t.saveDecMode number) (u.saveDecMode number) := by
  unfold Terminal.saveDecMode
  rw [h.decModeStatus]
  refine .ite h.saveCursor ?_
  split
  · exact h.map (·.keepMode number true) fun _ _ _ _ => rfl
  · exact h.map (·.keepMode number false) fun _ _ _ _ => rfl
  · exact h.note ..

theorem restoreDecMode (h : Twin now d e more t u) (number : Nat) :
    Twin now d e more (restoreDecMode now t number) (restoreDecMode now u number) := by
  have savedModes : t.savedModes = u.savedModes := by
    obtain ⟨t, -, -⟩ := h
    rfl
  unfold Terminal.restoreDecMode
  rw [savedModes]
  refine .ite h.restoreCursor ?_
  split
  · exact h.setDecMode _ number
  · exact h.note ..

theorem setAnsiMode (h : Twin now d e more t u) (on : Bool) (number : Nat) :
    Twin now d e more (setAnsiMode on t number) (setAnsiMode on u number) := by
  unfold Terminal.setAnsiMode
  split
  · rename_i mode _
    exact h.map (fun t => { t with modes := t.modes.setAnsi mode on }) fun _ _ _ _ => rfl
  · exact .ite (h.note ..) (h.note ..)

/-! ### Answers and settings -/

theorem answerStatus (h : Twin now d e more t u) (what : Nat) :
    Twin now d e more (t.answerStatus what) (u.answerStatus what) := by
  have position : t.reportedPosition = u.reportedPosition := by
    obtain ⟨t, -, -⟩ := h
    rfl
  unfold Terminal.answerStatus
  rw [position]
  split
  · exact h.reply _
  · exact h.reply _
  · exact h.note ..

theorem answerPrivatePosition (h : Twin now d e more t u) :
    Twin now d e more t.answerPrivatePosition u.answerPrivatePosition := by
  obtain ⟨t, level, reports⟩ := h
  exact Twin.reply ⟨t, level, reports⟩ _

theorem popTitle (h : Twin now d e more t u) : Twin now d e more t.popTitle u.popTitle := by
  have titles : t.titleStack = u.titleStack := by
    obtain ⟨t, -, -⟩ := h
    rfl
  unfold Terminal.popTitle
  rw [titles]
  split
  · exact h
  · rename_i title rest _
    exact (h.map ({ · with titleStack := rest }) fun _ _ _ _ => rfl).setTitle title

theorem ignoreWindowOperation (h : Twin now d e more t u) (op : Nat) :
    Twin now d e more (t.ignoreWindowOperation op) (u.ignoreWindowOperation op) :=
  .ite (h.note ..) (h.note ..)

theorem windowOperation (h : Twin now d e more t u) (op arg : Nat) :
    Twin now d e more (t.windowOperation op arg) (u.windowOperation op arg) := by
  have rows : t.rows = u.rows := by
    obtain ⟨t, -, -⟩ := h
    rfl
  have cols : t.cols = u.cols := by
    obtain ⟨t, -, -⟩ := h
    rfl
  unfold Terminal.windowOperation
  rw [rows, cols, h.config]
  split
  · exact h.reply _
  · exact .ite (h.reply _) (h.ignoreWindowOperation _)
  · exact h.reply _
  · exact h.reply _
  · exact h.reply _
  · exact h.reply _
  · exact h.reply _
  · exact .ite (h.map pushTitle fun _ _ _ _ => rfl) (h.ignoreWindowOperation _)
  · exact .ite h.popTitle (h.ignoreWindowOperation _)
  · exact h.ignoreWindowOperation _

theorem chooseCursor (h : Twin now d e more t u) (style : Nat) :
    Twin now d e more (t.chooseCursor style) (u.chooseCursor style) := by
  have choose (shape : CursorShape) :=
    h.map ({ · with cursorShape := shape, cursorBlink := style % 2 = 1 }) fun _ _ _ _ => rfl
  unfold Terminal.chooseCursor
  split
  · exact h.map
      (fun t => { t with cursorShape := t.config.cursorShape, cursorBlink := t.config.cursorBlink })
      fun _ _ _ _ => rfl
  · exact choose .block
  · exact choose .block
  · exact choose .underline
  · exact choose .underline
  · exact choose .beam
  · exact choose .beam
  · exact h.note ..

theorem give (h : Twin now d e more t u) (r : Reported Reply) :
    Twin now d e more (t.give r) (u.give r) :=
  (h.reply _).noteAll _

theorem serve (h : Twin now d e more t u) (r : Control.DeviceRequest) :
    Twin now d e more (serve now t r) (serve now u r) := by
  have settings : t.settings = u.settings := by
    obtain ⟨t, -, -⟩ := h
    rfl
  cases r with
  | setting name =>
    unfold Terminal.serve
    rw [settings]
    exact h.give _
  | capabilities names =>
    unfold Terminal.serve
    rw [h.config]
    exact h.foldl (fun r ht => ht.give r) _
  | beginSync => exact h.beginSync
  | endSync => exact h.endSync

/-! ### Operating system commands -/

theorem repaint (h : Twin now d e more t u) :
    Twin now d e more t.repaint u.repaint := h.modifyGrid _

theorem setColors (h : Twin now d e more t u) (f : Config → Colors → Colors) :
    Twin now d e more { t with colors := f t.config t.colors }
      { u with colors := f u.config u.colors } :=
  h.map (fun t => { t with colors := f t.config t.colors }) fun _ _ _ _ => rfl

theorem setColor (h : Twin now d e more t u) (item : ColorItem) (value : Nat) :
    Twin now d e more (t.setColor item value) (u.setColor item value) := by
  cases item with
  | palette index =>
    exact (h.setColors fun _ c => { c with palette := c.palette.setIfInBounds index value }).repaint
  | foreground => exact (h.setColors fun _ c => { c with foreground := value }).repaint
  | background => exact (h.setColors fun _ c => { c with background := value }).repaint
  | cursor =>
    exact h.setColors fun _ c => { c with cursor := if value = 0 then none else some value }

theorem colorCommand (h : Twin now d e more t u) (item : ColorItem) (payload : List UInt8)
    (terminator : Terminator) :
    Twin now d e more (t.colorCommand item payload terminator)
      (u.colorCommand item payload terminator) := by
  have color : t.colorOf item = u.colorOf item := by
    obtain ⟨t, -, -⟩ := h
    rfl
  unfold Terminal.colorCommand
  rw [color]
  refine .ite (h.reply _) ?_
  split
  · exact h.setColor item _
  · exact h
  · exact h.map ({ · with fault := true }) fun _ _ _ _ => rfl

theorem paletteCommand (h : Twin now d e more t u) (terminator : Terminator)
    (items : List (List UInt8)) :
    Twin now d e more (paletteCommand terminator t items) (paletteCommand terminator u items) := by
  fun_induction Terminal.paletteCommand terminator t items generalizing u with
  | case1 t index payload rest hindex =>
    rw [Terminal.paletteCommand, hindex]
    exact h
  | case2 t index payload rest i hindex hi =>
    rw [Terminal.paletteCommand, hindex]
    dsimp only
    rw [if_pos hi]
    exact h.note ..
  | case3 t index payload rest i hindex hi ih =>
    rw [Terminal.paletteCommand, hindex]
    dsimp only
    rw [if_neg hi]
    exact ih (h.colorCommand _ _ _)
  | case4 t items hitems =>
    rw [Terminal.paletteCommand]
    · exact h
    · exact hitems

theorem resetPaletteEntry (h : Twin now d e more t u) (index : List UInt8) :
    Twin now d e more (t.resetPaletteEntry index) (u.resetPaletteEntry index) := by
  unfold Terminal.resetPaletteEntry
  split
  · exact h.note ..
  · rename_i i _
    exact .ite (h.note ..) (h.setColors fun config c =>
      { c with palette := c.palette.setIfInBounds i (config.palette.toArray.getD i 0) })

theorem resetPalette (h : Twin now d e more t u) (payload : List UInt8) :
    Twin now d e more (t.resetPalette payload) (u.resetPalette payload) := by
  unfold Terminal.resetPalette
  refine Twin.repaint (.ite (h.setColors fun config c => { c with palette := config.palette }) ?_)
  exact h.foldl (fun index ht => ht.resetPaletteEntry index) _

theorem directoryCommand (h : Twin now d e more t u) (payload : List UInt8) :
    Twin now d e more (t.directoryCommand payload) (u.directoryCommand payload) := by
  have put (path : String) := h.map ({ · with directory := some path }) fun _ _ _ _ => rfl
  have hostname : t.config.hostname = u.config.hostname := by rw [h.config]
  unfold Terminal.directoryCommand Terminal.isLocal
  rw [hostname]
  dsimp only
  split
  · exact h.note ..
  · exact .ite ((put _).emit _) (h.note ..)

theorem linkCommand (h : Twin now d e more t u) (payload : List UInt8) :
    Twin now d e more (t.linkCommand payload) (u.linkCommand payload) := by
  have links : t.links = u.links := by
    obtain ⟨t, -, -⟩ := h
    rfl
  have put (links : Links) (link : Nat) := h.map ({ · with links := links, link := link })
    fun _ _ _ _ => rfl
  unfold Terminal.linkCommand
  rw [links]
  split
  · exact h.note ..
  · exact (put _ _).noteAll _

theorem clipboardCommand (h : Twin now d e more t u) (payload : List UInt8)
    (terminator : Terminator) :
    Twin now d e more (t.clipboardCommand payload terminator)
      (u.clipboardCommand payload terminator) := by
  have clipboard : t.clipboard = u.clipboard := by
    obtain ⟨t, -, -⟩ := h
    rfl
  have put (data : List UInt8) := h.map ({ · with clipboard := some data }) fun _ _ _ _ => rfl
  unfold Terminal.clipboardCommand
  rw [clipboard]
  split
  · exact h.note ..
  · refine .ite (h.reply _) ?_
    split
    · exact (put _).emit _
    · exact h.note ..

theorem notifyCommand (h : Twin now d e more t u) (payload : List UInt8) :
    Twin now d e more (t.notifyCommand payload) (u.notifyCommand payload) :=
  .ite (h.emit _) (h.note ..)

theorem partCommand (h : Twin now d e more t u) (payload : List UInt8) :
    Twin now d e more (t.partCommand payload) (u.partCommand payload) := by
  have pending : t.pendingNotification = u.pendingNotification := by
    obtain ⟨t, -, -⟩ := h
    rfl
  have put (part : Option (String × String)) := h.map ({ · with pendingNotification := part })
    fun _ _ _ _ => rfl
  unfold Terminal.partCommand
  rw [pending]
  exact .ite ((put none).emit _) (put _)

theorem promptCommand (h : Twin now d e more t u) (payload : List UInt8) :
    Twin now d e more (t.promptCommand payload) (u.promptCommand payload) := by
  unfold Terminal.promptCommand
  rw [h.cursor]
  exact .ite (h.modifyGrid _) h

theorem operate (h : Twin now d e more t u) (data : List UInt8) (bell : Bool) :
    Twin now d e more (t.operate data bell) (u.operate data bell) := by
  unfold Terminal.operate
  generalize (Text.cutAt? 0x3b data).getD (data, []) = parts
  dsimp only
  split
  · exact h.note ..
  · split
    · exact h.setTitle _
    · exact h.setTitle _
    · exact h
    · exact h
    · exact h.paletteCommand _ _
    · exact h.directoryCommand _
    · exact h.linkCommand _
    · exact h.emit _
    · exact h.colorCommand _ _ _
    · exact h.colorCommand _ _ _
    · exact h.colorCommand _ _ _
    · exact h.map ({ · with pointerShape := some (Text.Utf8.decodeLenient parts.2) })
        fun _ _ _ _ => rfl
    · exact h.clipboardCommand _ _
    · exact h.partCommand _
    · exact h.resetPalette _
    · exact h.setColors fun config c => { c with foreground := config.foreground }
    · exact h.setColors fun config c => { c with background := config.background }
    · exact h.setColors fun _ c => { c with cursor := none }
    · exact h.promptCommand _
    · exact h.emit _
    · exact h.notifyCommand _
    · exact h.note ..

/-! ### Commands -/

theorem modifyGridReported (h : Twin now d e more t u) (f : Grid → Reported Grid) :
    Twin now d e more (t.modifyGridReported f) (u.modifyGridReported f) := by
  unfold Terminal.modifyGridReported
  rw [h.grid]
  exact (h.modifyGrid _).noteAll _

theorem clearTab (h : Twin now d e more t u) (mode : Nat) :
    Twin now d e more (t.clearTab mode) (u.clearTab mode) := by
  unfold Terminal.clearTab
  rw [h.cursor]
  split
  · exact h.map (fun t => { t with tabs := t.tabs.filter (· ≠ u.cursor.col) }) fun _ _ _ _ => rfl
  · exact h.map ({ · with tabs := [] }) fun _ _ _ _ => rfl
  · exact h.note ..

theorem rendition (h : Twin now d e more t u) : t.rendition = u.rendition := by
  obtain ⟨t, -, -⟩ := h
  rfl

theorem editLines (h : Twin now d e more t u) (edit : Grid → Nat → Color → Grid) (n : Nat) :
    Twin now d e more (t.editLines edit n) (u.editLines edit n) := by
  unfold Terminal.editLines
  rw [h.rendition]
  exact h.modifyGrid _

theorem scrollBy (h : Twin now d e more t u) (scroll : Grid → Nat → Color → Grid) (n : Nat) :
    Twin now d e more (t.scrollBy scroll n) (u.scrollBy scroll n) := by
  unfold Terminal.scrollBy
  rw [h.rendition]
  exact h.modifyGrid _

theorem editCells (h : Twin now d e more t u) (edit : Grid → Nat → Color → Grid) (n : Nat) :
    Twin now d e more (t.editCells edit n) (u.editCells edit n) := by
  unfold Terminal.editCells
  rw [h.rendition]
  exact h.modifyGrid _

theorem eraseBy (h : Twin now d e more t u) (erase : Grid → Nat → Color → Reported Grid)
    (mode : Nat) : Twin now d e more (t.eraseBy erase mode) (u.eraseBy erase mode) := by
  unfold Terminal.eraseBy
  rw [h.rendition]
  exact (h.modifyGridReported _).modifyGrid _

theorem chooseRegion (h : Twin now d e more t u) (top bottom : Nat) :
    Twin now d e more (t.chooseRegion top bottom) (u.chooseRegion top bottom) := by
  unfold Terminal.chooseRegion
  rw [h.grid]
  exact .ite ((h.modifyGrid _).goTo 0 0) h

theorem selectRendition (h : Twin now d e more t u) (params : Control.Params) :
    Twin now d e more (t.selectRendition params) (u.selectRendition params) := by
  unfold Terminal.selectRendition
  rw [h.rendition]
  exact (h.map ({ · with rendition := _ }) fun _ _ _ _ => rfl).noteAll _

theorem run (h : Twin now d e more t u) (command : Command) :
    Twin now d e more (t.run now command) (u.run now command) := by
  cases command with
  | nothing => exact h
  | bell => exact h.map (fun t => { t with bells := t.bells + 1 }.emit .bell) fun _ _ _ _ => rfl
  | backspace => exact h.backspace
  | carriageReturn => exact h.carriageReturn
  | lineFeed =>
    unfold Terminal.run
    rw [h.modes]
    exact .ite h.lineFeed.carriageReturn h.lineFeed
  | index => exact h.lineFeed
  | reverseIndex => exact h.reverseIndex
  | nextRow => exact h.carriageReturn.lineFeed
  | setTab => exact h.setTab
  | clearTab mode => exact h.clearTab mode
  | tabForward n => exact h.tabForward n
  | tabBackward n => exact h.tabBackward n
  | cursorUp n => exact h.cursorUp n
  | cursorDown n => exact h.cursorDown n
  | cursorRight n => exact h.modifyGrid fun g => g.setCursor g.cursor.row (g.cursor.col + n)
  | cursorLeft n => exact h.modifyGrid fun g => g.setCursor g.cursor.row (g.cursor.col - n)
  | cursorNextLine n => exact (h.cursorDown n).carriageReturn
  | cursorPreviousLine n => exact (h.cursorUp n).carriageReturn
  | toColumn col => exact h.modifyGrid fun g => g.setCursor g.cursor.row col
  | toRow row =>
    unfold Terminal.run
    rw [h.cursor]
    exact h.goTo row _
  | toPlace row col => exact h.goTo row col
  | insertChars n => exact h.editCells _ n
  | deleteChars n => exact h.editCells _ n
  | eraseChars n => exact h.editCells _ n
  | insertLines n => exact h.editLines _ n
  | deleteLines n => exact h.editLines _ n
  | eraseDisplay mode => exact h.eraseBy _ mode
  | eraseLine mode => exact h.eraseBy _ mode
  | scrollUp n => exact h.scrollBy _ n
  | scrollDown n => exact h.scrollBy _ n
  | repeatLast n => exact h.repeatLast n
  | setRegion top bottom => exact h.chooseRegion top bottom
  | saveCursor => exact h.saveCursor
  | restoreCursor => exact h.restoreCursor
  | selectCharset slot =>
    exact h.map (fun t => { t with charsets := t.charsets.select slot }) fun _ _ _ _ => rfl
  | shiftOnce slot =>
    exact h.map (fun t => { t with charsets := t.charsets.shiftOnce slot }) fun _ _ _ _ => rfl
  | designate slot set =>
    exact h.map (fun t => { t with charsets := t.charsets.designate slot set }) fun _ _ _ _ => rfl
  | appKeypad on => exact h.switchDec _ on
  | selectRendition params => exact h.selectRendition params
  | setAnsiModes numbers on => exact h.foldl (fun n ht => ht.setAnsiMode on n) numbers
  | setDecModes numbers on => exact h.foldl (fun n ht => ht.setDecMode on n) numbers
  | saveDecModes numbers => exact h.foldl (fun n ht => ht.saveDecMode n) numbers
  | restoreDecModes numbers => exact h.foldl (fun n ht => ht.restoreDecMode n) numbers
  | cursorStyle style => exact h.chooseCursor style
  | windowOperation op arg => exact h.windowOperation op arg
  | alignmentTest => exact h.alignmentTest
  | softReset => exact h.softReset
  | hardReset => exact h.hardReset
  | askPrimaryAttributes =>
    exact h.map (fun t => t.reply (.primaryAttributes t.config.sixel)) fun _ _ _ _ => rfl
  | askSecondaryAttributes | askTertiaryAttributes | askVersion => exact h.reply _
  | askStatus what => exact h.answerStatus what
  | askPrivatePosition => exact h.answerPrivatePosition
  | askDecMode number =>
    show Twin now d e more (t.reply (.decMode number (t.decModeStatus number)))
      (u.reply (.decMode number (u.decModeStatus number)))
    rw [h.decModeStatus]
    exact h.reply _
  | askAnsiMode number =>
    exact h.map (fun t => t.reply (.ansiMode number (t.modes.ansiStatus number))) fun _ _ _ _ => rfl
  | marginsUnsupported s | overflowed s | unknownEscape s | unknownSequence s => exact h.note ..
  | unknownControl byte => exact h.note ..

theorem sendImage (h : Twin now d e more t u) (item : ImageItem) :
    Twin now d e more (t.sendImage item) (u.sendImage item) :=
  h.map (·.sendImage item) fun _ _ _ _ => rfl

theorem act (h : Twin now d e more t u) (action : Control.Action) :
    Twin now d e more (act now t action) (act now u action) := by
  cases action with
  | print c => exact h
  | execute byte => exact h.run _
  | escape s => exact h.run _
  | control s => exact h.run _
  | command data bell => exact h.operate data bell
  | imageStart p1 p2 p3 => exact h.sendImage _
  | imageData byte => exact h.sendImage _
  | imageEnd => exact h.sendImage _
  | request r => exact h.serve r

/-- An action does the same to terminals that differ in dress only. -/
theorem perform (h : Twin now d e more t u) (action : Control.Action) :
    Twin now d e more (perform now t action) (perform now u action) := by
  unfold Terminal.perform
  split
  · exact h.print _
  · exact Twin.act (h.map ({ · with composeAt := none }) fun _ _ _ _ => rfl) action

/-! ### Reading -/

/-- The terminal that heard of output in between. -/
theorem onOutput (h : Twin now d e more t u) :
    Twin now d e more t { u with schedule := u.schedule.onOutput now } := by
  obtain ⟨t, level, reports⟩ := h
  exact ⟨t, level.trans (onOutput_onOutput _ now).symm, reports⟩

/-- The second decoder catches up with the first, and there are no more reports. -/
theorem catchUp (h : Twin now d e more t u) :
    Twin now d d [] t ({ u with decoder := d }.noteAll more) := by
  obtain ⟨t, level, reports⟩ := h
  refine ⟨t, level, ?_⟩
  rw [Array.toList_appendList, List.append_nil]
  exact reports

/-- Once both heard of output, only the order of reports differs. -/
theorem eq_of_onOutput (h : Twin now d d [] t u) :
    { u with schedule := u.schedule.onOutput now } =
        { t with schedule := t.schedule.onOutput now, reports := u.reports } ∧
      u.reports.toList.Perm t.reports.toList := by
  obtain ⟨t, level, reports⟩ := h
  refine ⟨?_, ?_⟩
  · unfold dressed
    dsimp only
    rw [level]
  · rw [List.append_nil] at reports
    exact reports.symm

theorem decoder (h : Twin now d e more t u) : u.decoder = e := by
  obtain ⟨t, -, -⟩ := h
  rfl

theorem replies (h : Twin now d e more t u) : t.replies = u.replies := by
  obtain ⟨t, -, -⟩ := h
  rfl

theorem colors (h : Twin now d e more t u) : t.colors = u.colors := by
  obtain ⟨t, -, -⟩ := h
  rfl

end Twin

/-- Before the cut, one decoder has read the rest, and the other has it before it. -/
theorem twin_reading (t : Terminal) (a b : List UInt8) (now : Instant) :
    let cut := (t.decoder.feed a).1.takeReports
    let rest := (cut.1.feed b).1.takeReports
    Twin now rest.1 cut.1 rest.2 (t.reading (a ++ b)) (t.reading a) := by
  intro cut rest
  have whole :
      t.reading (a ++ b) = t.dressed rest.1 t.schedule (t.reports ++ (cut.2 ++ rest.2)) := by
    unfold reading
    rw [(t.decoder.feed_append_taken a b).1]
    rfl
  have reports :
      (t.reports ++ (cut.2 ++ rest.2)).toList = (t.reports ++ cut.2).toList ++ rest.2 := by
    simp
  rw [whole]
  exact Twin.intro t rfl (.of_eq reports)

theorem twin_feed (t : Terminal) (a b : List UInt8) (now : Instant) :
    let cut := (t.decoder.feed a).1.takeReports
    let rest := (cut.1.feed b).1.takeReports
    Twin now rest.1 cut.1 rest.2
      ((t.decoder.feed a).2.toList.foldl (perform now) (t.reading (a ++ b))) (t.feed a now) := by
  intro cut rest
  have run :=
    (twin_reading t a b now).foldl (fun action h => h.perform action) (t.decoder.feed a).2.toList
  rw [feed_eq]
  dsimp only
  split
  · exact run
  · exact run.onOutput

/-- To read nothing changes nothing once the reports were taken. -/
theorem feed_nil {t : Terminal} (h : t.decoder.reports = []) (now : Instant) :
    t.feed [] now = t := by
  have taken : (t.decoder.feed []).1.takeReports = (t.decoder, []) := by
    rw [Control.Decoder.takeReports]
    refine Prod.ext ?_ (by rw [Control.Decoder.feed, List.foldl_nil, h]; rfl)
    show { t.decoder with reports := [] } = t.decoder
    rw [← h]
  rw [feed_eq, reading, taken]
  simp [noteAll, Control.Decoder.feed]

/-- Output that is read in two parts does the same as in one. Only reports may come in another
order. -/
theorem feed_feed (t : Terminal) (a b : List UInt8) (now : Instant) :
    ∃ reports : Array Report,
      (t.feed a now).feed b now = { t.feed (a ++ b) now with reports := reports } ∧
        reports.toList.Perm (t.feed (a ++ b) now).reports.toList := by
  have first := t.twin_feed a b now
  have actions := congrArg Array.toList (t.decoder.feed_append_taken a b).2
  dsimp only at first actions
  rw [Array.toList_append] at actions
  by_cases hb : b = []
  · subst hb
    refine ⟨(t.feed a now).reports, ?_, ?_⟩
    · rw [feed_nil (by rw [first.decoder]; rfl), List.append_nil]
    · rw [List.append_nil]
  have caught := first.catchUp
  rw [show Terminal.noteAll _ _ = (t.feed a now).reading b by unfold reading; rw [first.decoder]]
    at caught
  have second :=
    caught.foldl (fun action h => h.perform action) (((t.feed a now).decoder.feed b).2.toList)
  rw [← List.foldl_append] at second
  obtain ⟨same, reports⟩ := second.eq_of_onOutput
  rw [feed_eq (t.feed a now) b, feed_eq t (a ++ b), actions, ← first.decoder]
  dsimp only
  rw [if_neg (by simpa using hb), if_neg (by simp [hb])]
  exact ⟨_, same, reports⟩

end Terminal

end Teletype
