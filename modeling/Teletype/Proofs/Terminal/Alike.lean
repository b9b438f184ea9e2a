import Teletype.Proofs.Grid.Alike
import Teletype.Proofs.Grid.Damage
import Teletype.Terminal.Print
import Teletype.Terminal.Switch

/-!
# Terminals that show the same

Two terminals may have been told different titles, have drawn and reported different things and have
other replies queued, and still show the same, answer the same and do the same with whatever output
comes next.
-/

namespace Teletype

namespace Clusters

variable {table table' : Clusters}

theorem resolve?_congr (h : table.entries = table'.entries) (key : Nat) :
    table.resolve? key = table'.resolve? key := by
  unfold resolve?
  rw [h]

theorem extends?_congr (h : table.entries = table'.entries) (key : Nat) (next : Char) :
    table.extends? key next = table'.extends? key next := by
  unfold extends? text
  rw [resolve?_congr h]

theorem place_congr (h : table.entries = table'.entries) (chars : List Char) (tries number : Nat) :
    table.place chars tries number = table'.place chars tries number := by
  induction tries generalizing number with
  | zero => rfl
  | succ tries ih =>
    unfold place
    rw [h]
    simp only [ih]

/-- What a cluster becomes depends on the clusters that are known. -/
theorem append_congr (h : table.entries = table'.entries) (key : Nat) (c : Char)
    (method : WidthMethod) :
    (table.append key c method).value.1.entries = (table'.append key c method).value.1.entries ∧
      (table.append key c method).value.2 = (table'.append key c method).value.2 := by
  have base : table.base? key c = table'.base? key c := by
    unfold base?
    rw [resolve?_congr h]
  unfold append
  rw [base]
  split
  · exact ⟨h, rfl⟩
  · split
    · exact ⟨h, congrArg (Option.map Cluster.glyph) (resolve?_congr h key)⟩
    · have size : table.entries.size = table'.entries.size := by
        rw [h]
      dsimp only
      rw [place_congr h, size]
      split
      · exact ⟨h, rfl⟩
      · split <;> split <;> exact ⟨h, rfl⟩
      · split
        · split <;> split <;> exact ⟨h, rfl⟩
        · exact ⟨by dsimp only; rw [h], rfl⟩

end Clusters

namespace Schedule

/-- No synchronized update is open after one was closed. -/
theorem isSyncing_endSync (s : Schedule) : s.endSync.isSyncing = false := by
  unfold endSync
  split
  · rfl
  · simpa using ‹¬s.isSyncing = true›

theorem isSyncing_requestImmediate (s : Schedule) : s.requestImmediate.isSyncing = s.isSyncing := by
  unfold requestImmediate
  split <;> rfl

theorem isSyncing_onOutput (s : Schedule) (now : Instant) :
    (s.onOutput now).isSyncing = s.isSyncing := by
  unfold onOutput
  split
  · rfl
  · split <;> rfl

end Schedule

namespace Terminal

open Schedule

/-- A terminal `t` that queued what `past` has and from then on did the same as `u`, as long as no
more output is read. Titles, events, reports, images and deadlines are left out, and so are the
marks and numbers of rows. -/
structure Alike (past t u : Terminal) : Prop where
  config : t.config = past.config
  config' : u.config = { past.config with size := u.config.size }
  sixel : t.decoder.sixel = past.decoder.sixel
  sixel' : u.decoder.sixel = past.decoder.sixel
  state : t.decoder.state = past.decoder.state
  state' : u.decoder.state = past.decoder.state
  primary : Grid.Alike past.primary.format t.primary u.primary
  alternate : Grid.Alike past.alternate.format t.alternate u.alternate
  screen : t.screen = u.screen
  rendition : t.rendition = u.rendition
  charsets : t.charsets = u.charsets
  modes : t.modes = u.modes
  tabs : t.tabs = u.tabs
  clusters : t.clusters.entries = u.clusters.entries
  links : t.links = u.links
  link : t.link = u.link
  replies : t.replies = past.replies ++ u.replies
  syncing : t.schedule.isSyncing = u.schedule.isSyncing
  colors : t.colors = u.colors
  titles : t.titleStack.length = u.titleStack.length
  clipboard : t.clipboard = u.clipboard
  cursorShape : t.cursorShape = u.cursorShape
  cursorBlink : t.cursorBlink = u.cursorBlink
  lastPrinted : t.lastPrinted = u.lastPrinted
  composeAt : t.composeAt = u.composeAt
  savedModes : t.savedModes = u.savedModes
  fault : t.fault = (past.fault || u.fault)

namespace Alike

variable {past t u : Terminal}

/-! ## Reading -/

/-- The configurations differ in the first size only. -/
theorem setting (h : Alike past t u) {α : Type} (f : Config → α)
    (hf : ∀ config size, f { config with size := size } = f config) : f t.config = f u.config := by
  rw [h.config, h.config']
  exact (hf _ _).symm

theorem cols (h : Alike past t u) : t.cols = u.cols := h.primary.cols

theorem rows (h : Alike past t u) : t.rows = u.rows := h.primary.rows

theorem grid (h : Alike past t u) : Grid.Alike t.grid.format t.grid u.grid := by
  unfold Terminal.grid
  rw [h.screen]
  cases u.screen with
  | primary => exact h.primary.left ▸ h.primary
  | alternate => exact h.alternate.left ▸ h.alternate

theorem cursor (h : Alike past t u) : t.cursor = u.cursor := h.grid.cursor

theorem isAlternate (h : Alike past t u) : t.isAlternate = u.isAlternate := by
  rw [Terminal.isAlternate, Terminal.isAlternate, h.screen]

theorem addressableRows (h : Alike past t u) : t.addressableRows = u.addressableRows := by
  unfold Terminal.addressableRows
  dsimp only
  rw [h.modes, h.grid.region, h.grid.rows]

theorem reportedPosition (h : Alike past t u) : t.reportedPosition = u.reportedPosition := by
  unfold Terminal.reportedPosition
  rw [h.modes, h.grid.region, h.cursor]

theorem decModeStatus (h : Alike past t u) (number : Nat) :
    t.decModeStatus number = u.decModeStatus number := by
  unfold Terminal.decModeStatus
  rw [h.isAlternate, h.syncing, h.modes, h.setting Config.widthMethod fun _ _ => rfl]

theorem attaches (h : Alike past t u) (row col : Nat) (c : Char) (width : Nat) :
    t.attaches row col c width = u.attaches row col c width := by
  unfold Terminal.attaches
  rw [h.grid.cell?, h.modes]
  simp only [Clusters.extends?_congr h.clusters]

/-! ## Changing -/

theorem ite {p p' : Prop} [Decidable p] [Decidable p'] {t' u' : Terminal} (hp : p ↔ p')
    (ht : Alike past t u) (hu : Alike past t' u') :
    Alike past (if p then t else t') (if p' then u else u') := by
  by_cases h : p
  · rw [if_pos h, if_pos (hp.1 h)]
    exact ht
  · rw [if_neg h, if_neg (mt hp.2 h)]
    exact hu

theorem foldl {α : Type} {f f' : Terminal → α → Terminal} (h : Alike past t u)
    (hf : ∀ {t u} a, Alike past t u → Alike past (f t a) (f' u a)) (l : List α) :
    Alike past (l.foldl f t) (l.foldl f' u) := by
  induction l generalizing t u with
  | nil => exact h
  | cons a l ih => exact ih (hf a h)

theorem modifyGrid (h : Alike past t u) {f f' : Grid → Grid}
    (hf : ∀ {format g g'}, Grid.Alike format g g' → Grid.Alike format (f g) (f' g')) :
    Alike past (t.modifyGrid f) (u.modifyGrid f') := by
  have screen := h.screen
  unfold Terminal.modifyGrid
  cases ht : t.screen with
  | primary =>
    rw [ht] at screen
    rw [← screen]
    exact { h with
      primary := hf h.primary
      screen := rfl }
  | alternate =>
    rw [ht] at screen
    rw [← screen]
    exact { h with
      alternate := hf h.alternate
      screen := rfl }

theorem note (h : Alike past t u) (severity severity' : Severity) (message message' : String)
    (fields fields' : List (String × String)) :
    Alike past (t.note severity message fields) (u.note severity' message' fields') := { h with }

theorem noteAll (h : Alike past t u) (reports reports' : List Report) :
    Alike past (t.noteAll reports) (u.noteAll reports') := { h with }

theorem emit (h : Alike past t u) (e e' : Event) : Alike past (t.emit e) (u.emit e') := { h with }

theorem reply (h : Alike past t u) {r r' : Reply} (hr : r = r') :
    Alike past (t.reply r) (u.reply r') :=
  { h with
    replies := by
      show t.replies ++ r.encode = past.replies ++ (u.replies ++ r'.encode)
      rw [h.replies, hr, ← Array.toList_inj]
      simp }

/-- Titles may differ, and which title is new. -/
theorem setTitle (h : Alike past t u) (title title' : String) :
    Alike past (t.setTitle title) (u.setTitle title') := by
  unfold Terminal.setTitle
  split <;> split <;> exact { h with }

/-! ## Motions -/

theorem lineFeed (h : Alike past t u) : Alike past t.lineFeed u.lineFeed := by
  unfold Terminal.lineFeed
  rw [h.rendition]
  refine h.modifyGrid fun hg => Grid.Alike.clearPending ?_
  refine .ite ?_ (hg.scrollUp 1 _) (.ite ?_ (hg.putCursor ?_) hg)
  · rw [hg.cursor, hg.region]
  · rw [hg.cursor, hg.rows]
  · rw [hg.cursor]

theorem reverseIndex (h : Alike past t u) : Alike past t.reverseIndex u.reverseIndex := by
  unfold Terminal.reverseIndex
  rw [h.rendition]
  refine h.modifyGrid fun hg => Grid.Alike.clearPending ?_
  refine .ite ?_ (hg.scrollDown 1 _) (hg.putCursor ?_)
  · rw [hg.cursor, hg.region]
  · rw [hg.cursor]

theorem carriageReturn (h : Alike past t u) : Alike past t.carriageReturn u.carriageReturn :=
  h.modifyGrid fun hg => hg.toFirstColumn

theorem backspace (h : Alike past t u) : Alike past t.backspace u.backspace := by
  unfold Terminal.backspace
  rw [h.modes]
  refine h.modifyGrid fun hg => ?_
  refine .ite ?_ hg.clearPending (.ite ?_ (hg.putCursor ?_) (.ite ?_ (hg.putCursor ?_) hg))
  · rw [hg.cursor]
  · rw [hg.cursor]
  · rw [hg.cursor]
  · rw [hg.cursor]
  · rw [hg.cursor, hg.cols]

theorem putCursor (h : Alike past t u) {cursor cursor' : Cursor} (hc : cursor = cursor') :
    Alike past (t.putCursor cursor) (u.putCursor cursor') := h.modifyGrid fun hg => hg.putCursor hc

theorem tabForward (h : Alike past t u) (n : Nat) : Alike past (t.tabForward n) (u.tabForward n) :=
  h.putCursor (by rw [h.cursor, h.tabs, h.grid.cols])

theorem tabBackward (h : Alike past t u) (n : Nat) :
    Alike past (t.tabBackward n) (u.tabBackward n) := h.putCursor (by rw [h.cursor, h.tabs])

theorem setTab (h : Alike past t u) : Alike past t.setTab u.setTab := by
  unfold Terminal.setTab
  refine .ite ?_ h { h with tabs := ?_ }
  · rw [h.tabs, h.cursor]
  · dsimp only
    rw [h.tabs, h.cursor]

theorem goTo (h : Alike past t u) (row col : Nat) :
    Alike past (t.goTo row col) (u.goTo row col) := by
  unfold Terminal.goTo
  rw [h.addressableRows]
  exact h.modifyGrid fun hg => hg.setCursor _ _

/-- Operations that go to a place that depends on where the cursor is do the same to terminals that
go on alike. -/
theorem moveCursor (h : Alike past t u) (place : Cursor → Nat × Nat) :
    Alike past (t.modifyGrid fun g => g.setCursor (place g.cursor).1 (place g.cursor).2)
      (u.modifyGrid fun g => g.setCursor (place g.cursor).1 (place g.cursor).2) := by
  refine h.modifyGrid fun {_ g g'} hg => ?_
  have moved := hg.setCursor (place g.cursor).1 (place g.cursor).2
  rw [show place g'.cursor = place g.cursor by rw [hg.cursor]]
  exact moved

theorem cursorUp (h : Alike past t u) (n : Nat) : Alike past (t.cursorUp n) (u.cursorUp n) := by
  unfold Terminal.cursorUp
  rw [h.addressableRows]
  exact h.moveCursor fun c => (c.row - min n (c.row - u.addressableRows.1), c.col)

theorem cursorDown (h : Alike past t u) (n : Nat) :
    Alike past (t.cursorDown n) (u.cursorDown n) := by
  unfold Terminal.cursorDown
  rw [h.addressableRows]
  exact h.moveCursor fun c => (c.row + min n (u.addressableRows.2 - c.row), c.col)

/-! ## Printing -/

theorem wrapLine (h : Alike past t u) : Alike past t.wrapLine u.wrapLine := by
  unfold Terminal.wrapLine
  rw [h.cursor]
  have fed := Alike.lineFeed (h.modifyGrid fun hg =>
    hg.modifyRow u.cursor.row (f := ({ · with wrapped := true }))
      (k := ({ · with wrapped := true })) (Row.congruent_of_blind fun _ _ _ => rfl))
  exact fed.putCursor (by rw [fed.cursor])

theorem makeRoom (h : Alike past t u) (width : Nat) :
    Alike past (t.makeRoom width).1 (u.makeRoom width).1 ∧
      (t.makeRoom width).2 = (u.makeRoom width).2 := by
  have wrapped : Alike past (if t.cursor.pendingWrap && t.modes.dec.autowrap then t.wrapLine else t)
      (if u.cursor.pendingWrap && u.modes.dec.autowrap then u.wrapLine else u) :=
    .ite (by rw [h.cursor, h.modes]) h.wrapLine h
  unfold Terminal.makeRoom
  dsimp only
  rw [h.modes] at wrapped ⊢
  generalize (if t.cursor.pendingWrap && u.modes.dec.autowrap then t.wrapLine else t) =
    t' at wrapped ⊢
  generalize (if u.cursor.pendingWrap && u.modes.dec.autowrap then u.wrapLine else u) =
    u' at wrapped ⊢
  rw [wrapped.cursor, wrapped.grid.cols]
  split
  · split
    · exact ⟨wrapped.wrapLine, rfl⟩
    · exact ⟨wrapped, rfl⟩
  · exact ⟨wrapped, rfl⟩

theorem placeGlyph (h : Alike past t u) (c : Char) (width col : Nat) :
    Alike past (t.placeGlyph c width col) (u.placeGlyph c width col) := by
  unfold Terminal.placeGlyph
  rw [h.modes, h.rendition, h.link]
  refine h.modifyGrid fun {_ g g'} hg => ?_
  have pushed := Grid.Alike.ite (p := u.modes.insert = true) Iff.rfl
    ((hg.putCursor (c := { g.cursor with col := col }) (d := { g'.cursor with col := col })
      (by rw [hg.cursor])).insertChars width u.rendition.background) hg
  dsimp only
  rw [← hg.cursor] at pushed ⊢
  have written := pushed.write g.cursor.row col c.toNat width u.rendition u.link
  exact written.putCursor (by rw [written.cols])

theorem printGlyph (h : Alike past t u) (c : Char) (width : Nat) :
    Alike past (t.printGlyph c width) (u.printGlyph c width) := by
  obtain ⟨room, col⟩ := h.makeRoom width
  unfold Terminal.printGlyph
  refine .ite (by rw [h.grid.cols]) (h.note ..) ?_
  dsimp only
  rw [col, room.cursor]
  exact { room.placeGlyph c width _ with
    lastPrinted := rfl
    composeAt := rfl }

theorem composeGrid {format : Grid.Format} {g g' : Grid} (h : Grid.Alike format g g')
    (row col oldWidth : Nat) (glyph : Glyph) :
    Grid.Alike format (composeGrid g row col oldWidth glyph)
      (composeGrid g' row col oldWidth glyph) := by
  have composed := h.compose row col glyph.key glyph.width
  unfold Terminal.composeGrid
  dsimp only
  rw [h.compose_width]
  refine .ite Iff.rfl (.ite ?_ (composed.putCursor ?_) composed) composed
  · rw [composed.cols, composed.cursor]
  · rw [composed.cols]

theorem compose (h : Alike past t u) (row col : Nat) (c : Char) :
    Alike past (t.compose row col c) (u.compose row col c) := by
  unfold Terminal.compose
  rw [h.grid.cell?]
  split
  · exact h
  · rename_i cell _
    obtain ⟨entries, glyph⟩ := Clusters.append_congr h.clusters cell.key c t.config.widthMethod
    rw [h.setting Config.widthMethod fun _ _ => rfl] at entries glyph ⊢
    dsimp only
    rw [glyph]
    have joined := { h with clusters := entries : Alike past
      { t with clusters := (t.clusters.append cell.key c u.config.widthMethod).value.1 }
      { u with clusters := (u.clusters.append cell.key c u.config.widthMethod).value.1 } }
    split
    · exact joined.noteAll _ _
    · exact (joined.noteAll _ _).modifyGrid fun hg => composeGrid hg _ _ _ _

theorem print (h : Alike past t u) (c : Char) : Alike past (t.print c) (u.print c) := by
  unfold Terminal.print
  rw [h.charsets]
  generalize u.charsets.translate c = translated
  obtain ⟨charsets, c⟩ := translated
  have shifted : Alike past { t with charsets := charsets, composeAt := u.composeAt }
      { u with charsets := charsets } := { h with charsets := rfl, composeAt := rfl }
  dsimp only
  rw [h.composeAt]
  simp only [shifted.attaches]
  split
  · exact shifted.compose _ _ _
  · exact .ite Iff.rfl shifted (shifted.printGlyph _ _)

theorem repeatLast (h : Alike past t u) (n : Nat) :
    Alike past (t.repeatLast n) (u.repeatLast n) := by
  unfold Terminal.repeatLast
  rw [h.lastPrinted]
  split
  · exact h
  · refine .ite Iff.rfl h ?_
    induction n with
    | zero => exact h
    | succ n ih => exact ih.printGlyph _ _

/-! ## Screens and modes -/

theorem saveCursor (h : Alike past t u) : Alike past t.saveCursor u.saveCursor := by
  unfold Terminal.saveCursor
  rw [h.cursor, h.rendition, h.charsets, h.modes]
  exact h.modifyGrid fun hg => hg.save _

theorem restoreCursor (h : Alike past t u) : Alike past t.restoreCursor u.restoreCursor := by
  unfold Terminal.restoreCursor
  rw [h.grid.saved, h.modes]
  refine Alike.modifyGrid ?_ fun hg => ?_
  · exact { h with
      rendition := rfl
      charsets := rfl
      modes := rfl }
  · have moved := hg.setCursor u.grid.saved.cursor.row u.grid.saved.cursor.col
    exact .ite (by rw [moved.cursor]) (moved.putCursor (by rw [moved.cursor])) moved

theorem enterAlternate (h : Alike past t u) (save : Bool) :
    Alike past (t.enterAlternate save) (u.enterAlternate save) := by
  have saved : Alike past (if save then t.saveCursor else t) (if save then u.saveCursor else u) :=
    .ite Iff.rfl h.saveCursor h
  unfold Terminal.enterAlternate
  refine .ite (by rw [h.isAlternate]) h ?_
  dsimp only
  generalize (if save then t.saveCursor else t) = t' at saved ⊢
  generalize (if save then u.saveCursor else u) = u' at saved ⊢
  have placed :=
    (saved.alternate.setRegion t'.primary.region.top t'.primary.region.bottom).setCursor
      t'.primary.cursor.row t'.primary.cursor.col
  rw [← saved.primary.region, ← saved.primary.cursor, ← placed.rows]
  refine Alike.note ?_ ..
  exact { saved with
    screen := rfl
    alternate := (placed.eraseRows 0 _ .default).markAllDirty }

theorem leaveAlternate (h : Alike past t u) (restore : Bool) :
    Alike past (t.leaveAlternate restore) (u.leaveAlternate restore) := by
  unfold Terminal.leaveAlternate
  refine .ite (by rw [h.isAlternate]) ?_ h
  have placed := (h.primary.setRegion t.alternate.region.top t.alternate.region.bottom).setCursor
    t.alternate.cursor.row t.alternate.cursor.col
  dsimp only
  rw [← h.alternate.region, ← h.alternate.cursor]
  have left : Alike past { t with
      screen := .primary
      primary := (t.primary.setRegion t.alternate.region.top t.alternate.region.bottom).setCursor
        t.alternate.cursor.row t.alternate.cursor.col } { u with
      screen := .primary
      primary := (u.primary.setRegion t.alternate.region.top t.alternate.region.bottom).setCursor
        t.alternate.cursor.row t.alternate.cursor.col } := { h with
    screen := rfl
    primary := placed }
  have restored := Alike.ite (p := restore = true) Iff.rfl left.restoreCursor left
  refine Alike.note ?_ ..
  exact { restored with primary := restored.primary.markAllDirty }

theorem softReset (h : Alike past t u) : Alike past t.softReset u.softReset := by
  unfold Terminal.softReset
  dsimp only
  rw [h.modes, h.rows]
  refine Alike.modifyGrid ?_ fun hg => ((hg.setRegion 0 _).save _).clearPending
  exact { h with
    modes := rfl
    rendition := rfl
    charsets := rfl
    link := rfl
    syncing := by
      rw [isSyncing_endSync, isSyncing_endSync] }

theorem hardReset (h : Alike past t u) : Alike past t.hardReset u.hardReset := by
  have left := h.leaveAlternate false
  unfold Terminal.hardReset
  dsimp only
  rw [Grid.viewToBottom_clearAll, Grid.viewToBottom_clearAll]
  exact { left with
    primary := left.primary.clearAll
    alternate := left.alternate.clearAll
    rendition := rfl
    charsets := rfl
    modes := congrArg (fun on => ({ dec := { graphemeShaping := on } } : Modes))
      (left.setting Config.shaping fun _ _ => rfl)
    tabs := congrArg (standardTabs 0) left.cols
    clusters := rfl
    links := rfl
    link := rfl
    colors := left.setting Colors.ofConfig fun _ _ => rfl
    titles := rfl
    cursorShape := left.setting Config.cursorShape fun _ _ => rfl
    cursorBlink := left.setting Config.cursorBlink fun _ _ => rfl
    lastPrinted := rfl
    savedModes := rfl
    syncing := by
      rw [isSyncing_requestImmediate, isSyncing_requestImmediate, isSyncing_endSync,
        isSyncing_endSync] }

theorem alignmentTest (h : Alike past t u) : Alike past t.alignmentTest u.alignmentTest := by
  unfold Terminal.alignmentTest
  rw [h.rows]
  exact h.modifyGrid fun hg => ((hg.fill 'E').setRegion 0 _).setCursor 0 0

theorem switchDec (h : Alike past t u) (mode : DecMode) (on : Bool) :
    Alike past (t.switchDec mode on) (u.switchDec mode on) :=
  { h with
    modes := by
      show t.modes.setDec mode on = u.modes.setDec mode on
      rw [h.modes] }

theorem beginSync (h : Alike past t u) (now : Instant) :
    Alike past (t.beginSync now) (u.beginSync now) := { h with syncing := rfl }

theorem endSync (h : Alike past t u) : Alike past t.endSync u.endSync :=
  { h with syncing := (isSyncing_endSync _).trans (isSyncing_endSync _).symm }

theorem setDecMode (h : Alike past t u) (now : Instant) (on : Bool) (number : Nat) :
    Alike past (setDecMode now on t number) (setDecMode now on u number) := by
  unfold Terminal.setDecMode
  split
  · exact (h.switchDec _ on).modifyGrid fun hg => hg.markAllDirty
  · exact (h.switchDec _ on).goTo 0 0
  · exact (h.switchDec _ on).modifyGrid fun hg => hg.clearPending
  · exact .ite Iff.rfl (h.note ..) h
  · exact .ite Iff.rfl (h.note ..) h
  · exact .ite Iff.rfl (h.note ..) h
  · exact .ite Iff.rfl (h.enterAlternate false) (h.leaveAlternate false)
  · exact .ite Iff.rfl (h.enterAlternate false) (h.leaveAlternate false)
  · exact .ite Iff.rfl h.saveCursor h.restoreCursor
  · exact .ite Iff.rfl (h.enterAlternate true) (h.leaveAlternate true)
  · exact .ite Iff.rfl (h.beginSync now) h.endSync
  · split
    · exact h.switchDec _ on
    · exact .ite Iff.rfl (h.note ..) (h.note ..)

theorem keepMode (h : Alike past t u) (number : Nat) (on : Bool) :
    Alike past (t.keepMode number on) (u.keepMode number on) :=
  { h with
    savedModes := by
      show (number, on) :: t.savedModes.filter _ = (number, on) :: u.savedModes.filter _
      rw [h.savedModes] }

theorem saveDecMode (h : Alike past t u) (number : Nat) :
    Alike past (t.saveDecMode number) (u.saveDecMode number) := by
  unfold Terminal.saveDecMode
  rw [h.decModeStatus]
  refine .ite Iff.rfl h.saveCursor ?_
  split
  · exact h.keepMode number true
  · exact h.keepMode number false
  · exact h.note ..

theorem restoreDecMode (h : Alike past t u) (now : Instant) (number : Nat) :
    Alike past (restoreDecMode now t number) (restoreDecMode now u number) := by
  unfold Terminal.restoreDecMode
  rw [h.savedModes]
  refine .ite Iff.rfl h.restoreCursor ?_
  split
  · exact h.setDecMode now _ number
  · exact h.note ..

theorem setAnsiMode (h : Alike past t u) (on : Bool) (number : Nat) :
    Alike past (setAnsiMode on t number) (setAnsiMode on u number) := by
  unfold Terminal.setAnsiMode
  split
  · rename_i mode _
    exact { h with
      modes := by
        show t.modes.setAnsi mode on = u.modes.setAnsi mode on
        rw [h.modes] }
  · exact .ite Iff.rfl (h.note ..) (h.note ..)

end Alike

end Terminal

end Teletype
