import Teletype.Proofs.Grid.Framed
import Teletype.Proofs.Terminal.Joins
import Teletype.Proofs.Terminal.Spares

/-!
# Scroll regions

With the cursor in a region that is a part of the screen, printing, line feeds, motions by a line
and edits of rows and cells stay in the region. What is above and below it stays as it was, and so
does the scrollback, which no line joins.
-/

namespace Teletype

/-- Returns and feeds of lines, and edits at the cursor and of the region. Insert, newline and
autowrap mode may be switched in between. -/
def Command.isLocal : Command → Bool
  | .carriageReturn | .lineFeed | .index | .nextRow | .reverseIndex | .insertLines _
  | .deleteLines _ | .scrollUp _
  | .scrollDown _ | .insertChars _ | .deleteChars _ | .eraseChars _ | .eraseLine _
  | .setAnsiModes _ _ => true
  | .setDecModes numbers _ => numbers.all (· = 7)
  | _ => false

/-- Printing, and what is completed to a command at the cursor or of the region. -/
def Control.Action.isLocal : Control.Action → Bool
  | .print _ => true
  | .execute byte => (Command.ofControl byte).isLocal
  | .escape s => (Command.ofEscape s).isLocal
  | .control s => (Command.ofSequence s).isLocal
  | _ => false

namespace Terminal

/-- Between two states of a terminal the cursor stays in a region that is a part of the screen, and
nothing but the region changes. -/
structure Isolated (t₀ t : Terminal) : Prop where
  part : t₀.grid.region ≠ .full t₀.grid.rows
  spares : t₀.Spares t
  framed : t₀.grid.Framed t.grid
  inside : t.grid.Inside

variable {t₀ t t' : Terminal}

theorem Isolated.of_alters {aspects : List Aspect} (h : t₀.Isolated t) (ha : t.Alters aspects t')
    (hapart : Aspect.apart Aspect.screens aspects = true) : t₀.Isolated t' := by
  have grid : t'.grid = t.grid := ha.grid (Aspect.apart_mono hapart (by decide))
  exact ⟨h.part, h.spares.trans (.of_alters ha (Aspect.apart_mono hapart (by decide))),
    grid ▸ h.framed, grid ▸ h.inside⟩

theorem Isolated.ite {p : Prop} [Decidable p] {a b : Terminal} (ha : t₀.Isolated a)
    (hb : t₀.Isolated b) : t₀.Isolated (if p then a else b) := by
  split
  · exact ha
  · exact hb

theorem Isolated.modifyGrid (h : t₀.Isolated t) {f : Grid → Grid} (hf : t₀.grid.Framed (f t.grid))
    (hi : (f t.grid).Inside) : t₀.Isolated (t.modifyGrid f) where
  part := h.part
  spares := h.spares.trans (.of_alters (t.alters_grid f) rfl)
  framed := (grid_modifyGrid t f).symm ▸ hf
  inside := (grid_modifyGrid t f).symm ▸ hi

/-- A change that leaves the cursor in its row. -/
theorem Isolated.level (h : t₀.Isolated t) {f : Grid → Grid} (hf : t₀.grid.Framed (f t.grid))
    (hl : (f t.grid).level = t.grid.level) : t₀.Isolated (t.modifyGrid f) :=
  h.modifyGrid hf (h.inside.of_level hl)

theorem Isolated.bearings (h : t₀.Isolated t) {f : Grid → Grid} (hf : t₀.grid.Framed (f t.grid))
    (hb : (f t.grid).bearings = t.grid.bearings) : t₀.Isolated (t.modifyGrid f) :=
  h.level hf (Grid.level_of_bearings hb)

/-! ## Lines -/

/-- The region has rows, and it is not the whole screen. -/
theorem Isolated.region (h : t₀.Isolated t) :
    t.grid.region.top < t.grid.region.bottom ∧ t.grid.region ≠ .full t.grid.rows := by
  obtain ⟨low, high⟩ := Grid.inside_iff.1 h.inside
  refine ⟨Nat.lt_of_le_of_lt low high, ?_⟩
  rw [h.framed.region, h.framed.rows]
  exact h.part

theorem Isolated.lineFeed (h : t₀.Isolated t) : t₀.Isolated t.lineFeed := by
  obtain ⟨-, part⟩ := h.region
  refine ⟨h.part, h.spares.trans (.of_alters t.alters_lineFeed rfl), ?_, inside_lineFeed h.inside⟩
  unfold Terminal.lineFeed
  rw [grid_modifyGrid]
  have fed : t₀.grid.Framed
      (if t.grid.cursor.row + 1 = t.grid.region.bottom then t.grid.scrollUp 1 t.rendition.background
      else if t.grid.cursor.row + 1 < t.grid.rows then
        { t.grid with cursor := { t.grid.cursor with row := t.grid.cursor.row + 1 } }
      else t.grid) :=
    .ite (h.framed.scrollUp 1 _ part) (.ite (h.framed.moved _) h.framed)
  exact fed.moved _

theorem Isolated.reverseIndex (h : t₀.Isolated t) : t₀.Isolated t.reverseIndex := by
  refine ⟨h.part, h.spares.trans (.of_alters t.alters_reverseIndex rfl), ?_,
    inside_reverseIndex h.inside⟩
  unfold Terminal.reverseIndex
  rw [grid_modifyGrid]
  have moved : t₀.grid.Framed
      (if t.grid.cursor.row = t.grid.region.top then t.grid.scrollDown 1 t.rendition.background
      else { t.grid with cursor := { t.grid.cursor with row := t.grid.cursor.row - 1 } }) :=
    .ite (h.framed.scrollDown 1 _) (h.framed.moved _)
  exact moved.moved _

theorem Isolated.carriageReturn (h : t₀.Isolated t) :
    t₀.Isolated t.carriageReturn := h.level (h.framed.moved _) rfl

theorem Isolated.putCursor (h : t₀.Isolated t) {cursor : Cursor}
    (hrow : cursor.row = t.cursor.row) :
    t₀.Isolated (t.putCursor cursor) := h.level (h.framed.moved _) (Prod.ext rfl hrow)

/-! ## Printing -/

theorem Isolated.wrapLine (h : t₀.Isolated t) : t₀.Isolated t.wrapLine := by
  have marked :
      t₀.Isolated (t.modifyGrid (·.modifyRow t.cursor.row ({ · with wrapped := true }))) :=
    h.bearings (h.framed.modifyRow h.inside _) (Grid.bearings_modifyRow ..)
  exact marked.lineFeed.putCursor rfl

theorem Isolated.makeRoom (h : t₀.Isolated t) (width : Nat) : t₀.Isolated (t.makeRoom width).1 :=
  makeRoom_induction (p := t₀.Isolated) (fun _ hu => hu.wrapLine) h width

theorem Isolated.placeGlyph (h : t₀.Isolated t) (c : Char) (width col : Nat) :
    t₀.Isolated (t.placeGlyph c width col) := by
  refine ⟨h.part, h.spares.trans (.of_alters (t.alters_placeGlyph c width col) rfl), ?_,
    h.inside.of_level (t.level_placeGlyph c width col)⟩
  unfold Terminal.placeGlyph
  rw [grid_modifyGrid]
  dsimp only
  have framed := h.framed
  have inside := h.inside
  generalize t.grid = g at framed inside ⊢
  have pushed : t₀.grid.Framed (if t.modes.insert then
      ({ g with cursor := { g.cursor with col := col } } : Grid).insertChars width
        t.rendition.background else g) :=
    .ite ((framed.moved { g.cursor with col := col }).insertChars inside _ _) framed
  refine Grid.Framed.moved (pushed.write ?_ ..) _
  rw [pushed.region, ← framed.region]
  exact inside

theorem Isolated.printGlyph (h : t₀.Isolated t) (c : Char) (width : Nat) :
    t₀.Isolated (t.printGlyph c width) := by
  have placed := (h.makeRoom width).placeGlyph c width (t.makeRoom width).2
  exact .ite (h.of_alters (t.alters_note ..) rfl) (placed.of_alters (alters_lastPrinted ..) rfl)

theorem framed_composeGrid {g₀ g : Grid} (h : g₀.Framed g) {row : Nat}
    (hrow : g.region.contains row = true) (col oldWidth : Nat) (glyph : Glyph) :
    g₀.Framed (composeGrid g row col oldWidth glyph) := by
  have composed := h.compose hrow col glyph.key glyph.width
  unfold composeGrid
  generalize g.compose row col glyph.key glyph.width = r at composed ⊢
  exact .ite (.ite (composed.moved _) composed) composed

/-- A character joins one in the cursor's row. -/
theorem Isolated.compose (h : t₀.Isolated t) {row : Nat} (hrow : row = t.cursor.row) (col : Nat)
    (c : Char) : t₀.Isolated (t.compose row col c) := by
  unfold Terminal.compose
  split
  · exact h
  · rename_i cell _
    generalize t.clusters.append cell.key c t.config.widthMethod = r
    have added : t₀.Isolated ({ t with clusters := r.value.1 }.noteAll r.reports) :=
      (h.of_alters (t.alters_clusters _) rfl).of_alters (alters_noteAll ..) rfl
    dsimp only
    split
    · exact added
    · refine added.level (framed_composeGrid added.framed ?_ ..) (level_composeGrid _ hrow ..)
      rw [hrow]
      exact h.inside

theorem Isolated.print (h : t₀.Isolated t) (hj : t.Joins) (c : Char) : t₀.Isolated (t.print c) := by
  have shifted : t₀.Isolated { t with charsets := (t.charsets.translate c).1 } :=
    h.of_alters (t.alters_charsets _) rfl
  rcases t.print_cases c with ⟨row, col, c', hat, -, printed⟩ | printed | ⟨c', -, printed⟩
  · exact printed ▸ shifted.compose (hj _ hat) col c'
  · exact printed ▸ shifted
  · exact printed ▸ shifted.printGlyph c' _

/-! ## Commands -/

section

variable {edit : Grid → Nat → Color → Grid}

theorem Isolated.editLines (h : t₀.Isolated t)
    (hf : ∀ n background, t₀.grid.Framed (edit t.grid n background))
    (hl : ∀ n background, (edit t.grid n background).level = t.grid.level) (n : Nat) :
    t₀.Isolated (t.editLines edit n) := by
  unfold Terminal.editLines
  exact h.level (.ite (hf ..) h.framed) (t.grid.level_ite (hl ..) rfl)

theorem Isolated.editCells (h : t₀.Isolated t)
    (hf : ∀ n background, t₀.grid.Framed (edit t.grid n background))
    (hb : ∀ n background, (edit t.grid n background).bearings = t.grid.bearings) (n : Nat) :
    t₀.Isolated (t.editCells edit n) := by
  unfold Terminal.editCells
  refine h.level ((hf ..).moved _) ?_
  show (edit t.grid n t.rendition.background).level = t.grid.level
  exact Grid.level_of_bearings (hb ..)

theorem Isolated.scrollBy (h : t₀.Isolated t)
    (hf : ∀ n background, t₀.grid.Framed (edit t.grid n background))
    (hb : ∀ n background, (edit t.grid n background).bearings = t.grid.bearings) (n : Nat) :
    t₀.Isolated (t.scrollBy edit n) := by
  unfold Terminal.scrollBy
  exact h.bearings (hf ..) (hb ..)

end

theorem Isolated.eraseLine (h : t₀.Isolated t) (mode : Nat) :
    t₀.Isolated (t.eraseBy Grid.eraseLine mode) := by
  unfold Terminal.eraseBy Terminal.modifyGridReported
  have erased :
      t₀.Isolated (t.modifyGrid fun _ => (t.grid.eraseLine mode t.rendition.background).value) :=
    h.bearings (h.framed.eraseLine h.inside ..) (Grid.bearings_eraseLine ..)
  have noted : t₀.Isolated (noteAll _ (t.grid.eraseLine mode t.rendition.background).reports) :=
    erased.of_alters (alters_noteAll ..) rfl
  exact noted.level (noted.framed.moved _) rfl

theorem Isolated.foldl {α : Type} {f : Terminal → α → Terminal} (h : t₀.Isolated t) {l : List α}
    (hf : ∀ t, ∀ a ∈ l, t₀.Isolated t → t₀.Isolated (f t a)) : t₀.Isolated (l.foldl f t) :=
  List.foldlRecOn l f h fun u hu a ha => hf u a ha hu

/-- Switching autowrap mode drops a pending wrap. -/
theorem Isolated.setAutowrap (h : t₀.Isolated t) (now : Instant) (on : Bool) :
    t₀.Isolated (setDecMode now on t 7) := by
  have switched : t₀.Isolated (t.switchDec (.flag .autowrap) on) :=
    h.of_alters (t.alters_switchDec _ on) rfl
  exact switched.level (switched.framed.moved _) rfl

theorem Isolated.run (h : t₀.Isolated t) (now : Instant) {command : Command}
    (hc : command.isLocal = true) : t₀.Isolated (t.run now command) := by
  obtain ⟨-, part⟩ := h.region
  cases command with
  | carriageReturn => exact h.carriageReturn
  | lineFeed => exact .ite h.lineFeed.carriageReturn h.lineFeed
  | index => exact h.lineFeed
  | nextRow => exact h.carriageReturn.lineFeed
  | reverseIndex => exact h.reverseIndex
  | insertLines n => exact h.editLines h.framed.insertLines (Grid.level_insertLines _) n
  | deleteLines n => exact h.editLines h.framed.deleteLines (Grid.level_deleteLines _) n
  | scrollUp n => exact h.scrollBy (h.framed.scrollUp · · part) (Grid.bearings_scrollUp _) n
  | scrollDown n => exact h.scrollBy (h.framed.scrollDown · ·) (Grid.bearings_scrollDown _) n
  | insertChars n =>
    exact h.editCells (h.framed.insertChars h.inside) (Grid.bearings_insertChars _) n
  | deleteChars n =>
    exact h.editCells (h.framed.deleteChars h.inside) (Grid.bearings_deleteChars _) n
  | eraseChars n => exact h.editCells (h.framed.eraseChars h.inside) (Grid.bearings_eraseChars _) n
  | eraseLine mode => exact h.eraseLine mode
  | setAnsiModes numbers on => exact h.of_alters (t.alters_run now _) rfl
  | setDecModes numbers on =>
    refine h.foldl fun u number hnumber hu => ?_
    obtain rfl : number = 7 := of_decide_eq_true (List.all_eq_true.1 hc number hnumber)
    exact hu.setAutowrap now on
  | _ => exact absurd hc Bool.false_ne_true

/-! ## Output -/

theorem Isolated.perform (h : t₀.Isolated t) (hj : t.Joins) (now : Instant)
    {action : Control.Action} (ha : action.isLocal = true) :
    t₀.Isolated (perform now t action) := by
  have apart : t₀.Isolated { t with composeAt := none } := h.of_alters (t.alters_composeAt none) rfl
  cases action with
  | print c => exact h.print hj c
  | execute | escape | control => exact apart.run now ha
  | _ => exact absurd ha Bool.false_ne_true

/-- Output that asks for nothing else. -/
def IsLocal (t : Terminal) (bytes : List UInt8) : Prop :=
  ∀ action ∈ (t.decoder.feed bytes).2.toList, action.isLocal = true

instance (t : Terminal) (bytes : List UInt8) : Decidable (t.IsLocal bytes) :=
  inferInstanceAs (Decidable (∀ action ∈ (t.decoder.feed bytes).2.toList, action.isLocal = true))

theorem Isolated.feed (h : t₀.Isolated t) (hj : t.Joins) {bytes : List UInt8} (hb : t.IsLocal bytes)
    (now : Instant) : t₀.Isolated (t.feed bytes now) := by
  have read : t₀.Isolated (t.reading bytes) := h.of_alters (t.alters_reading bytes) rfl
  have fed : t₀.Isolated (t.feed bytes now) ∧ (t.feed bytes now).Joins := feed_induction
    (p := fun u => t₀.Isolated u ∧ u.Joins) ⟨read, hj⟩
    (fun u ⟨hu, hj⟩ action ha => ⟨hu.perform hj now (hb action ha), hj.perform now action⟩)
    fun u _ ⟨hu, hj⟩ => ⟨hu.of_alters (u.alters_schedule _) rfl, hj⟩
  exact fed.1

/-- A scroll region keeps to itself. In a terminal that a host can hold the region is a part of the
screen, and the cursor is in it. While output only prints, ends lines, moves by lines and edits
lines and cells, in any of the modes that bear on this, the cursor stays in the region, and the rows
outside of it, the scrollback and the other screen are exactly as they were. -/
theorem region_keeps_to_itself (config : Config) (host : List HostAction)
    (outputs : List (List UInt8 × Instant))
    (hpart : (drive config host).grid.region ≠ .full (drive config host).grid.rows)
    (hinside : (drive config host).grid.Inside)
    (hlocal : Throughout (fun t output => t.feed output.1 output.2)
      (fun t output => t.IsLocal output.1) (drive config host) outputs) :
    let t := drive config host
    let t' := outputs.foldl (fun t output => t.feed output.1 output.2) t
    t'.grid.Inside ∧ t'.grid.region = t.grid.region ∧
      (∀ row, t.grid.region.contains row = false → t'.grid.row? row = t.grid.row? row) ∧
      (∀ line < t.grid.history, t'.grid.line? line = t.grid.line? line) ∧
        t'.grid.history = t.grid.history ∧
      t'.screen = t.screen ∧ t'.hidden = t.hidden := by
  intro t t'
  have start : t.Isolated t := ⟨hpart, .refl t, (drive_valid config host).grid.framed, hinside⟩
  obtain ⟨⟨-, spares, framed, inside⟩, -⟩ := hlocal.foldl (p := fun u => t.Isolated u ∧ u.Joins)
    (fun _ output ⟨hu, hj⟩ hb => ⟨hu.feed hj hb output.2, hj.feed output.1 output.2⟩)
    ⟨start, joins_drive config host⟩
  exact ⟨inside, framed.region, fun _ => framed.row?_outside, fun _ => framed.line?_above,
    framed.history, spares.screen, spares.hidden⟩

open Text.Utf8 (encode)

/-- Four rows of text below one of the scrollback, with the middle ones for a region and the cursor
in it. -/
def middleRegion : List HostAction := [.feed (encode "a\r\nb\r\nc\r\nd\r\ne\x1b[2;3r\x1b[3;1H") 0]

/-- More text than the region has room for, and edits of all kinds. -/
def regionWork : List (List UInt8 × Instant) :=
  [(encode "xyz世w\r\n\x0b\x0c\x1bD\x1bE", 1), (encode "\x1bM\x1bM\x1b[L\x1b[2M\x1b[S\x1b[3T", 2),
    (encode "\x1b[4h\x1b[?7luvw\x1b[2@\x1b[P\x1b[X\x1b[1K", 3)]

theorem region_keeps_to_itself_middle :
    let config : Config := { size := ⟨4, 4⟩, scrollback := 4 }
    let t := drive config middleRegion
    let t' := regionWork.foldl (fun t output => t.feed output.1 output.2) t
    t.grid.region ≠ .full t.grid.rows ∧ t.grid.Inside ∧
      Throughout (fun t output => t.feed output.1 output.2) (fun t output => t.IsLocal output.1)
        t regionWork ∧
      t.grid.history = 1 ∧ t'.grid.row? 1 ≠ t.grid.row? 1 ∧ t'.grid.Inside ∧
        t'.grid.row? 0 = t.grid.row? 0 ∧
      t'.grid.row? 3 = t.grid.row? 3 ∧ t'.grid.line? 0 = t.grid.line? 0 ∧
        t'.grid.history = t.grid.history := by
  intro config t t'
  have part : t.grid.region ≠ .full t.grid.rows := by decide +kernel
  have inside : t.grid.Inside := by decide +kernel
  have work :
      Throughout (fun t output => t.feed output.1 output.2) (fun t output => t.IsLocal output.1) t
      regionWork := by
    decide +kernel
  have history : t.grid.history = 1 := by decide +kernel
  have changed : t'.grid.row? 1 ≠ t.grid.row? 1 := by decide +kernel
  have first : t.grid.region.contains 0 = false := by decide +kernel
  have last : t.grid.region.contains 3 = false := by decide +kernel
  obtain ⟨inside', -, rows, lines, history', -⟩ :=
    region_keeps_to_itself config middleRegion regionWork part inside work
  have kept := lines 0 (Nat.lt_of_lt_of_eq Nat.one_pos history.symm)
  exact ⟨part, inside, work, history, changed, inside', rows 0 first, rows 3 last, kept, history'⟩

end Terminal

end Teletype
