import Mathlib.Tactic.SplitIfs
import Teletype.Proofs.Grid.Bearings
import Teletype.Proofs.Grid.Sheet
import Teletype.Proofs.Terminal.Print
import Teletype.Terminal.Run

/-!
# What an operation can alter

A terminal has many aspects, and each operation alters only a few of them. Here it is said once of
each operation which aspects it can alter; that all the others stay as they are is what most of what
is proved of terminals needs to know of it.
-/

namespace Teletype

/-- What is told apart of a grid. -/
inductive Grid.Aspect where
  | size | region | cursor | saved
  /-- What the lines show, and how far the view is scrolled back. -/
  | text
  /-- The rows with their marks, and where the screen and the view are among them. -/
  | ring
  deriving DecidableEq

/-- What is told apart of a terminal, as far as output that is read later can depend on it. -/
inductive Terminal.Aspect where
  /-- An aspect of the grid in use. -/
  | grid (a : Grid.Aspect)
  /-- The grid that is not in use. -/
  | hidden
  | screen | rendition | charsets | modes
  /-- A private mode of its own. -/
  | flag (f : DecFlag)
  | tabs
  /-- The tables that cells refer to. -/
  | tables
  | link | replies | schedule
  /-- The colours of cells. -/
  | colors
  | cursorColor | titleStack | cursorStyle | lastPrinted | composeAt | savedModes | config
  deriving DecidableEq

/-- The number of a private mode. -/
def DecFlag.number : DecFlag → Nat
  | .appCursorKeys => 1
  | .reverseVideo => 5
  | .origin => 6
  | .autowrap => 7
  | .cursorBlink => 12
  | .cursorVisible => 25
  | .reverseWrap => 45
  | .appKeypad => 66
  | .focusEvents => 1004
  | .altScroll => 1007
  | .metaEightBit => 1034
  | .numLock => 1035
  | .metaEscape => 1036
  | .bellUrgent => 1042
  | .bracketedPaste => 2004
  | .graphemeShaping => 2027

theorem DecMode.eq_number {number : Nat} {f : DecFlag} (h : ofNumber? number = some (.flag f)) :
    number = f.number := by
  unfold ofNumber? at h
  split at h <;> cases h <;> rfl

/-! ## Grids -/

namespace Grid

/-- What an aspect of a grid is. -/
def Aspect.Value : Aspect → Type
  | size => Nat × Nat
  | region => Region
  | cursor => Cursor
  | saved => SavedCursor
  | text => List Line × Nat × Nat
  | ring => Grid

/-- An aspect of a grid. -/
def aspect (g : Grid) : (a : Aspect) → a.Value
  | .size => (g.cols, g.rows)
  | .region => g.region
  | .cursor => g.cursor
  | .saved => g.saved
  | .text => (g.lines.map Row.line, g.history, g.viewDistance)
  | .ring => { g with region := .full g.rows, cursor := {}, saved := {} }

/-- Between two states of a grid nothing but the aspects in the list is altered. -/
structure Alters (aspects : List Terminal.Aspect) (g g' : Grid) : Prop where
  kept : ∀ a, aspects.contains (.grid a) = false → g'.aspect a = g.aspect a

variable {aspects : List Terminal.Aspect} {g g' g'' : Grid}

theorem Alters.refl (aspects : List Terminal.Aspect) (g : Grid) : g.Alters aspects g :=
  ⟨fun _ _ => rfl⟩

theorem Alters.trans (h : g.Alters aspects g') (h' : g'.Alters aspects g'') :
    g.Alters aspects g'' :=
  ⟨fun a ha => (h'.kept a ha).trans (h.kept a ha)⟩

theorem Alters.ite {p : Prop} [Decidable p] {a b : Grid} (ha : g.Alters aspects a)
    (hb : g.Alters aspects b) : g.Alters aspects (if p then a else b) := by
  split
  · exact ha
  · exact hb

/-- A longer list may name aspects that are not altered. -/
theorem Alters.mono {more : List Terminal.Aspect} (h : g.Alters aspects g')
    (hmore : aspects.all more.contains = true) : g.Alters more g' := by
  refine ⟨fun a ha => h.kept a (Bool.eq_false_iff.2 fun named => ?_)⟩
  have kept := List.all_eq_true.1 hmore _ (List.contains_iff_mem.1 named)
  exact Bool.false_ne_true (ha.symm.trans kept)

section

variable (g : Grid)

theorem alters_cursor (cursor : Cursor) : g.Alters [.grid .cursor] { g with cursor := cursor } :=
  ⟨fun a ha => by cases a <;> first | rfl | cases ha⟩

theorem alters_saved (saved : SavedCursor) : g.Alters [.grid .saved] { g with saved := saved } :=
  ⟨fun a ha => by cases a <;> first | rfl | cases ha⟩

theorem alters_setRegion (top bottom : Nat) :
    g.Alters [.grid .region] (g.setRegion top bottom) := by
  unfold setRegion
  refine .ite ⟨fun a ha => ?_⟩ (.refl _ g)
  cases a <;> first | rfl | cases ha

/-- The bearings are all but the rows. -/
theorem alters_of_bearings {g g' : Grid} (h : g'.bearings = g.bearings) :
    g.Alters [.grid .text, .grid .ring] g' where
  kept a ha := by
    cases a with
    | size => exact congrArg (fun b : Bearings => (b.cols, b.rows)) h
    | region => exact congrArg Bearings.region h
    | cursor => exact congrArg Bearings.cursor h
    | saved => exact congrArg Bearings.saved h
    | text | ring => cases ha

theorem alters_insertLines (n : Nat) (background : Color) :
    g.Alters [.grid .cursor, .grid .text, .grid .ring] (g.insertLines n background) := by
  rcases g.bearings_insertLines n background with h | h
  · exact (alters_of_bearings h).mono rfl
  · exact ((g.alters_cursor _).mono rfl).trans
      ((alters_of_bearings (g := g.toFirstColumn) h).mono rfl)

theorem alters_deleteLines (n : Nat) (background : Color) :
    g.Alters [.grid .cursor, .grid .text, .grid .ring] (g.deleteLines n background) := by
  rcases g.bearings_deleteLines n background with h | h
  · exact (alters_of_bearings h).mono rfl
  · exact ((g.alters_cursor _).mono rfl).trans
      ((alters_of_bearings (g := g.toFirstColumn) h).mono rfl)

theorem alters_composeGrid (row col oldWidth : Nat) (glyph : Glyph) :
    g.Alters [.grid .cursor, .grid .text, .grid .ring]
      (Terminal.composeGrid g row col oldWidth glyph) := by
  have composed : g.Alters [.grid .cursor, .grid .text, .grid .ring]
      (g.compose row col glyph.key glyph.width).1 :=
      (alters_of_bearings (g.bearings_compose ..)).mono rfl
  unfold Terminal.composeGrid
  generalize g.compose row col glyph.key glyph.width = r at composed ⊢
  exact .ite (.ite (composed.trans ((r.1.alters_cursor _).mono rfl)) composed) composed

/-- A grid is all of its aspects. -/
theorem eq_of_aspects {g g' : Grid} (region : g'.region = g.region) (cursor : g'.cursor = g.cursor)
    (saved : g'.saved = g.saved) (ring : g'.aspect .ring = g.aspect .ring) : g' = g := by
  have whole (g : Grid) : g = { (g.aspect .ring : Grid) with
      region := g.region, cursor := g.cursor, saved := g.saved } := rfl
  rw [whole g', whole g, region, cursor, saved]
  exact congrArg (fun r : Grid =>
    ({ r with region := g.region, cursor := g.cursor, saved := g.saved } : Grid)) ring

/-- Marks are not seen. -/
theorem map_line_markAllDirty : g.markAllDirty.lines.map Row.line = g.lines.map Row.line := by
  have capacity : g.markAllDirty.capacity = g.capacity := Array.size_map
  have marked (line : Nat) :
      (g.markAllDirty.line? line).map Row.line = (g.line? line).map Row.line := by
    unfold line? slotOfLine
    rw [capacity]
    show (if line < g.lineCount then _ else none : Option Row).map Row.line = _
    split
    · show ((g.slots.map _)[_]?).map Row.line = _
      rw [Array.getElem?_map, Option.map_map]
      rfl
    · rfl
  unfold Grid.lines
  rw [List.map_filterMap, List.map_filterMap]
  exact List.filterMap_congr fun line _ => marked line

theorem markAllDirty_markAllDirty : g.markAllDirty.markAllDirty = g.markAllDirty := by
  unfold markAllDirty
  simp only [Array.map_map]
  rfl

theorem alters_markAllDirty : g.Alters [.grid .ring] g.markAllDirty where
  kept a ha := by
    cases a with
    | text =>
      have capacity : g.markAllDirty.capacity = g.capacity := Array.size_map
      have distance : g.markAllDirty.viewDistance = g.viewDistance := by
        unfold viewDistance
        rw [capacity]
        rfl
      exact congrArg₂ (fun lines distance => (lines, g.history, distance))
        g.map_line_markAllDirty distance
    | ring => cases ha
    | _ => rfl

end

end Grid

/-! ## Terminals -/

namespace Terminal

/-- The grid that is not in use. -/
def hidden (t : Terminal) : Grid :=
  match t.screen with
  | .primary => t.alternate
  | .alternate => t.primary

/-- What an aspect of a terminal is. -/
def Aspect.Value : Aspect → Type
  | grid a => a.Value
  | hidden => Grid
  | screen => ScreenKind
  | rendition => Rendition
  | charsets => Charsets
  | modes => Modes
  | flag _ => Bool
  | tabs => List Nat
  | tables => Clusters × Links
  | link => Nat
  | replies => Array UInt8
  | schedule => Schedule
  | colors => Palette × Nat × Nat
  | cursorColor => Option Nat
  | titleStack => List String
  | cursorStyle => CursorShape × Bool
  | lastPrinted => Option Char
  | composeAt => Option (Nat × Nat)
  | savedModes => List (Nat × Bool)
  | config => Config

/-- An aspect of a terminal. -/
def aspect (t : Terminal) : (a : Aspect) → a.Value
  | .grid a => t.grid.aspect a
  | .hidden => t.hidden
  | .screen => t.screen
  | .rendition => t.rendition
  | .charsets => t.charsets
  | .modes => t.modes
  | .flag f => t.modes.dec.get f
  | .tabs => t.tabs
  | .tables => (t.clusters, t.links)
  | .link => t.link
  | .replies => t.replies
  | .schedule => t.schedule
  | .colors => (t.colors.palette, t.colors.foreground, t.colors.background)
  | .cursorColor => t.colors.cursor
  | .titleStack => t.titleStack
  | .cursorStyle => (t.cursorShape, t.cursorBlink)
  | .lastPrinted => t.lastPrinted
  | .composeAt => t.composeAt
  | .savedModes => t.savedModes
  | .config => t.config

/-- Between two states of a terminal nothing but the aspects in the list is altered. -/
structure Alters (aspects : List Aspect) (t u : Terminal) : Prop where
  kept : ∀ a, aspects.contains a = false → u.aspect a = t.aspect a

variable {aspects : List Aspect} {t u v : Terminal}

theorem Alters.refl (aspects : List Aspect) (t : Terminal) : t.Alters aspects t :=
  ⟨fun _ _ => rfl⟩

theorem Alters.trans (h : t.Alters aspects u) (h' : u.Alters aspects v) : t.Alters aspects v :=
  ⟨fun a ha => (h'.kept a ha).trans (h.kept a ha)⟩

/-- A longer list may name aspects that are not altered. -/
theorem Alters.mono {more : List Aspect} (h : t.Alters aspects u)
    (hmore : aspects.all more.contains = true) : t.Alters more u := by
  refine ⟨fun a ha => h.kept a (Bool.eq_false_iff.2 fun named => ?_)⟩
  have kept := List.all_eq_true.1 hmore _ (List.contains_iff_mem.1 named)
  exact Bool.false_ne_true (ha.symm.trans kept)

theorem Alters.ite {p : Prop} [Decidable p] {a b : Terminal} (ha : t.Alters aspects a)
    (hb : t.Alters aspects b) : t.Alters aspects (if p then a else b) := by
  split
  · exact ha
  · exact hb

theorem alters_foldl {α : Type} {f : Terminal → α → Terminal}
    (hf : ∀ (t : Terminal) (a : α), t.Alters aspects (f t a)) (l : List α) (t : Terminal) :
    t.Alters aspects (l.foldl f t) :=
  List.foldlRecOn l f (.refl _ t) fun u hu a _ => hu.trans (hf u a)

/-! ### The grid in use -/

@[simp] theorem grid_modifyGrid (t : Terminal) (f : Grid → Grid) :
    (t.modifyGrid f).grid = f t.grid := by
  unfold grid modifyGrid
  cases hs : t.screen <;> simp

theorem screen_modifyGrid (t : Terminal) (f : Grid → Grid) :
    (t.modifyGrid f).screen = t.screen := by
  unfold modifyGrid
  split <;> rfl

theorem hidden_modifyGrid (t : Terminal) (f : Grid → Grid) :
    (t.modifyGrid f).hidden = t.hidden := by
  unfold hidden
  rw [screen_modifyGrid]
  unfold modifyGrid
  cases t.screen <;> rfl

/-- A change of the grid in use alters nothing else. -/
theorem alters_modifyGrid_of_grid {f : Grid → Grid} (h : t.grid.Alters aspects (f t.grid)) :
    t.Alters aspects (t.modifyGrid f) where
  kept a ha := by
    cases a with
    | grid a => exact (congrArg (·.aspect a) (t.grid_modifyGrid f)).trans (h.kept a ha)
    | hidden => exact t.hidden_modifyGrid f
    | _ =>
      unfold modifyGrid
      split <;> rfl

theorem alters_modifyGrid {f : Grid → Grid} (h : ∀ g : Grid, g.Alters aspects (f g)) :
    t.Alters aspects (t.modifyGrid f) := alters_modifyGrid_of_grid (h t.grid)

/-- All that there is of the grid in use. -/
def Aspect.grids : List Aspect :=
  [.grid .size, .grid .region, .grid .cursor, .grid .saved, .grid .text, .grid .ring]

/-- A change of the grid in use alters nothing but that grid. -/
theorem alters_grid (t : Terminal) (f : Grid → Grid) : t.Alters Aspect.grids (t.modifyGrid f) := by
  refine alters_modifyGrid fun g => ⟨fun a ha => ?_⟩
  cases a <;> cases ha

/-! ### Both screens -/

/-- None of the aspects of one list is in the other one. -/
def Aspect.apart (l aspects : List Aspect) : Bool := l.all fun a => !aspects.contains a

theorem Aspect.apart_iff {l aspects : List Aspect} :
    apart l aspects = true ↔ ∀ a ∈ l, a ∉ aspects := by
  simp [apart]

theorem Aspect.apart_mono {l l' aspects : List Aspect} (h : apart l aspects = true)
    (hl : l'.all l.contains = true) : apart l' aspects = true :=
  List.all_eq_true.2 fun a ha =>
    List.all_eq_true.1 h a (List.contains_iff_mem.1 (List.all_eq_true.1 hl a ha))

theorem Alters.of_apart (h : t.Alters aspects u) {l : List Aspect}
    (hl : Aspect.apart l aspects = true) {a : Aspect} (ha : a ∈ l) : u.aspect a = t.aspect a :=
  h.kept a (by simpa using List.all_eq_true.1 hl a ha)

/-- While the screens are not exchanged, both keep an aspect that the grid in use keeps. -/
theorem Alters.both (h : t.Alters aspects u) {a : Grid.Aspect}
    (hl : Aspect.apart [.screen, .hidden, .grid a] aspects = true) :
    u.primary.aspect a = t.primary.aspect a ∧ u.alternate.aspect a = t.alternate.aspect a := by
  have screen : u.screen = t.screen := h.of_apart hl (a := .screen) (by simp)
  have hidden : u.hidden = t.hidden := h.of_apart hl (a := .hidden) (by simp)
  have grid : u.grid.aspect a = t.grid.aspect a := h.of_apart hl (a := .grid a) (by simp)
  unfold Terminal.hidden at hidden
  unfold Terminal.grid at grid
  rw [screen] at hidden grid
  cases hs : t.screen with
  | primary =>
    rw [hs] at hidden grid
    exact ⟨grid, congrArg (·.aspect a) hidden⟩
  | alternate =>
    rw [hs] at hidden grid
    exact ⟨congrArg (·.aspect a) hidden, grid⟩

/-- All that tells one state of the grid in use from another. -/
def Aspect.picture : List Aspect := [.grid .region, .grid .cursor, .grid .saved, .grid .ring]

theorem Alters.grid (h : t.Alters aspects u) (hl : Aspect.apart Aspect.picture aspects = true) :
    u.grid = t.grid :=
  have kept {a : Aspect} (ha : a ∈ Aspect.picture) : u.aspect a = t.aspect a := h.of_apart hl ha
  Grid.eq_of_aspects (kept (a := .grid .region) (by decide)) (kept (a := .grid .cursor) (by decide))
    (kept (a := .grid .saved) (by decide)) (kept (a := .grid .ring) (by decide))

/-- Both screens are what the one in use and the hidden one are. -/
theorem screens_eq (screen : u.screen = t.screen) (hidden : u.hidden = t.hidden)
    (grid : u.grid = t.grid) : u.primary = t.primary ∧ u.alternate = t.alternate := by
  unfold Terminal.hidden at hidden
  unfold Terminal.grid at grid
  rw [screen] at hidden grid
  cases hs : t.screen with
  | primary =>
    rw [hs] at hidden grid
    exact ⟨grid, hidden⟩
  | alternate =>
    rw [hs] at hidden grid
    exact ⟨hidden, grid⟩

/-- All that there is of the screens. -/
def Aspect.screens : List Aspect := .screen :: .hidden :: picture

/-- What alters nothing of the screens leaves them as they are. -/
theorem Alters.screens (h : t.Alters aspects u) (hl : Aspect.apart Aspect.screens aspects = true) :
    u.primary = t.primary ∧ u.alternate = t.alternate ∧ u.screen = t.screen := by
  have screen : u.screen = t.screen := h.of_apart hl (a := .screen) (by decide)
  have hidden : u.hidden = t.hidden := h.of_apart hl (a := .hidden) (by decide)
  obtain ⟨primary, alternate⟩ :=
    screens_eq screen hidden (h.grid (Aspect.apart_mono hl (by decide)))
  exact ⟨primary, alternate, screen⟩

/-! ## Fields -/

section

variable (t)

theorem alters_note (severity : Severity) (message : String) (fields : List (String × String)) :
    t.Alters [] (t.note severity message fields) := ⟨fun a _ => by cases a <;> rfl⟩

theorem alters_noteAll (reports : List Report) : t.Alters [] (t.noteAll reports) :=
  ⟨fun a _ => by cases a <;> rfl⟩

theorem alters_emit (e : Event) : t.Alters [] (t.emit e) := ⟨fun a _ => by cases a <;> rfl⟩

theorem alters_replies (replies : Array UInt8) :
    t.Alters [.replies] { t with replies := replies } :=
  ⟨fun a ha => by cases a <;> first | rfl | cases ha⟩

theorem alters_reply (r : Reply) : t.Alters [.replies] (t.reply r) := t.alters_replies _

theorem alters_rendition (rendition : Rendition) :
    t.Alters [.rendition] { t with rendition := rendition } :=
  ⟨fun a ha => by cases a <;> first | rfl | cases ha⟩

theorem alters_charsets (charsets : Charsets) :
    t.Alters [.charsets] { t with charsets := charsets } :=
  ⟨fun a ha => by cases a <;> first | rfl | cases ha⟩

theorem alters_tabs (tabs : List Nat) : t.Alters [.tabs] { t with tabs := tabs } :=
  ⟨fun a ha => by cases a <;> first | rfl | cases ha⟩

theorem alters_clusters (clusters : Clusters) :
    t.Alters [.tables] { t with clusters := clusters } :=
  ⟨fun a ha => by cases a <;> first | rfl | cases ha⟩

theorem alters_links (links : Links) (link : Nat) :
    t.Alters [.tables, .link] { t with links := links, link := link } :=
  ⟨fun a ha => by cases a <;> first | rfl | cases ha⟩

theorem alters_schedule (schedule : Schedule) :
    t.Alters [.schedule] { t with schedule := schedule } :=
  ⟨fun a ha => by cases a <;> first | rfl | cases ha⟩

theorem alters_colors (colors : Colors) :
    t.Alters [.colors, .cursorColor] { t with colors := colors } :=
  ⟨fun a ha => by cases a <;> first | rfl | cases ha⟩

theorem alters_titleStack (titleStack : List String) :
    t.Alters [.titleStack] { t with titleStack := titleStack } :=
  ⟨fun a ha => by cases a <;> first | rfl | cases ha⟩

theorem alters_cursorStyle (shape : CursorShape) (blink : Bool) :
    t.Alters [.cursorStyle] { t with cursorShape := shape, cursorBlink := blink } :=
  ⟨fun a ha => by cases a <;> first | rfl | cases ha⟩

theorem alters_composeAt (place : Option (Nat × Nat)) :
    t.Alters [.composeAt] { t with composeAt := place } :=
  ⟨fun a ha => by cases a <;> first | rfl | cases ha⟩

theorem alters_lastPrinted (c : Option Char) (place : Option (Nat × Nat)) :
    t.Alters [.lastPrinted, .composeAt] { t with lastPrinted := c, composeAt := place } :=
  ⟨fun a ha => by cases a <;> first | rfl | cases ha⟩

theorem alters_keepMode (number : Nat) (on : Bool) :
    t.Alters [.savedModes] (t.keepMode number on) :=
  ⟨fun a ha => by cases a <;> first | rfl | cases ha⟩

/-- A private mode is altered only by name. -/
theorem get_setDec (m : Modes) {mode : DecMode} {flag : DecFlag} (h : mode ≠ .flag flag)
    (on : Bool) : (m.setDec mode on).dec.get flag = m.dec.get flag := by
  cases mode with
  | flag f =>
    have kept := m.dec.get_set f flag on
    rwa [if_neg fun hf => h (congrArg DecMode.flag hf.symm)] at kept
  | tracking | encoding =>
    unfold Modes.setDec
    dsimp only
    split_ifs <;> rfl

/-- The aspects of a private mode that is kept as it is. -/
def Aspect.ofMode : DecMode → List Aspect
  | .flag f => [.modes, .flag f]
  | .tracking _ | .encoding _ => [.modes]

theorem alters_switchDec (mode : DecMode) (on : Bool) :
    t.Alters (Aspect.ofMode mode) (t.switchDec mode on) where
  kept a ha := by
    cases a with
    | modes => cases mode <;> cases ha
    | flag f =>
      refine get_setDec t.modes (fun named => ?_) on
      rw [named, Aspect.ofMode] at ha
      simp at ha
    | _ => rfl

theorem alters_setAnsiMode (on : Bool) (number : Nat) :
    t.Alters [.modes] (setAnsiMode on t number) := by
  unfold setAnsiMode
  split
  · rename_i mode _
    refine ⟨fun a ha => ?_⟩
    cases a with
    | modes => cases ha
    | flag f => cases mode <;> rfl
    | _ => rfl
  · exact .ite ((t.alters_note ..).mono rfl) ((t.alters_note ..).mono rfl)

/-! ## Motions and printing -/

/-- What edits at the cursor can alter. -/
def Aspect.editing : List Aspect := [.grid .cursor, .grid .text, .grid .ring]

theorem alters_carriageReturn : t.Alters [.grid .cursor] t.carriageReturn :=
  alters_modifyGrid fun g => g.alters_cursor _

theorem alters_putCursor (cursor : Cursor) : t.Alters [.grid .cursor] (t.putCursor cursor) :=
  alters_modifyGrid fun g => g.alters_cursor cursor

theorem alters_setCursor (row col : Grid → Nat) :
    t.Alters [.grid .cursor] (t.modifyGrid fun g => g.setCursor (row g) (col g)) :=
  alters_modifyGrid fun g => g.alters_cursor _

theorem alters_goTo (row col : Nat) : t.Alters [.grid .cursor] (t.goTo row col) := by
  unfold goTo
  exact t.alters_setCursor _ _

theorem alters_cursorUp (n : Nat) : t.Alters [.grid .cursor] (t.cursorUp n) := by
  unfold cursorUp
  exact t.alters_setCursor _ _

theorem alters_cursorDown (n : Nat) : t.Alters [.grid .cursor] (t.cursorDown n) := by
  unfold cursorDown
  exact t.alters_setCursor _ _

theorem alters_backspace : t.Alters [.grid .cursor] t.backspace := by
  unfold backspace
  refine alters_modifyGrid fun g => .ite (g.alters_cursor _) (.ite (g.alters_cursor _) ?_)
  exact .ite (g.alters_cursor _) (.refl _ g)

theorem alters_lineFeed : t.Alters Aspect.editing t.lineFeed := by
  have moved (g : Grid) (cursor : Cursor) : g.Alters Aspect.editing { g with cursor := cursor } :=
    (g.alters_cursor cursor).mono rfl
  have scrolled (g : Grid) : g.Alters Aspect.editing (g.scrollUp 1 t.rendition.background) :=
    (Grid.alters_of_bearings (g.bearings_scrollUp ..)).mono rfl
  unfold lineFeed
  refine alters_modifyGrid fun g => .trans (.ite (scrolled g) ?_) (moved _ _)
  exact .ite (moved g _) (.refl _ g)

theorem alters_reverseIndex : t.Alters Aspect.editing t.reverseIndex := by
  have moved (g : Grid) (cursor : Cursor) : g.Alters Aspect.editing { g with cursor := cursor } :=
    (g.alters_cursor cursor).mono rfl
  have scrolled (g : Grid) : g.Alters Aspect.editing (g.scrollDown 1 t.rendition.background) :=
    (Grid.alters_of_bearings (g.bearings_scrollDown ..)).mono rfl
  unfold reverseIndex
  exact alters_modifyGrid fun g => .trans (.ite (scrolled g) (moved g _)) (moved _ _)

theorem alters_wrapLine : t.Alters Aspect.editing t.wrapLine := by
  have marked : t.Alters Aspect.editing
      (t.modifyGrid (·.modifyRow t.cursor.row ({ · with wrapped := true }))) :=
    alters_modifyGrid fun g => (Grid.alters_of_bearings (g.bearings_modifyRow ..)).mono rfl
  exact marked.trans ((alters_lineFeed _).trans ((alters_putCursor _ _).mono rfl))

theorem alters_makeRoom (width : Nat) : t.Alters Aspect.editing (t.makeRoom width).1 :=
  makeRoom_induction (p := t.Alters Aspect.editing) (fun u hu => hu.trans u.alters_wrapLine)
    (.refl _ t) width

theorem alters_placeGlyph (c : Char) (width col : Nat) :
    t.Alters Aspect.editing (t.placeGlyph c width col) := by
  have moved (g : Grid) (cursor : Cursor) : g.Alters Aspect.editing { g with cursor := cursor } :=
    (g.alters_cursor cursor).mono rfl
  have pushed (g : Grid) (background : Color) :
      g.Alters Aspect.editing (g.insertChars width background) :=
    (Grid.alters_of_bearings (g.bearings_insertChars ..)).mono rfl
  have written (g : Grid) (row : Nat) : g.Alters Aspect.editing
      (g.write row col c.toNat width t.rendition t.link) :=
    (Grid.alters_of_bearings (g.bearings_write ..)).mono rfl
  unfold placeGlyph
  refine alters_modifyGrid fun g => .trans (.ite ?_ (.refl _ g)) ((written _ _).trans (moved _ _))
  exact (moved g _).trans (pushed _ _)

/-- What printing a glyph can alter. -/
def Aspect.glyphs : List Aspect := [.lastPrinted, .composeAt] ++ Aspect.editing

theorem alters_printGlyph (c : Char) (width : Nat) :
    t.Alters Aspect.glyphs (t.printGlyph c width) := by
  have placed := (t.alters_makeRoom width).trans
    (alters_placeGlyph (t.makeRoom width).1 c width (t.makeRoom width).2)
  exact .ite ((t.alters_note ..).mono rfl)
    ((placed.mono rfl).trans ((alters_lastPrinted ..).mono rfl))

theorem alters_compose (row col : Nat) (c : Char) :
    t.Alters (.tables :: Aspect.editing) (t.compose row col c) := by
  unfold compose
  split
  · exact .refl _ t
  · rename_i cell _
    generalize t.clusters.append cell.key c t.config.widthMethod = r
    have added : t.Alters (.tables :: Aspect.editing)
        ({ t with clusters := r.value.1 }.noteAll r.reports) :=
      ((t.alters_clusters _).mono rfl).trans ((alters_noteAll _ _).mono rfl)
    dsimp only
    split
    · exact added
    · exact added.trans ((alters_modifyGrid fun g => g.alters_composeGrid ..).mono rfl)

/-- What printing can alter. -/
def Aspect.printing : List Aspect := [.charsets, .tables] ++ Aspect.glyphs

theorem alters_print (c : Char) : t.Alters Aspect.printing (t.print c) := by
  have shifted := t.alters_charsets (t.charsets.translate c).1
  rcases t.print_cases c with ⟨row, col, c', -, -, printed⟩ | printed | ⟨c', -, printed⟩
  · exact printed ▸ (shifted.mono rfl).trans ((alters_compose _ row col c').mono rfl)
  · exact printed ▸ shifted.mono rfl
  · exact printed ▸ (shifted.mono rfl).trans ((alters_printGlyph _ c' _).mono rfl)

theorem alters_repeatLast (n : Nat) : t.Alters Aspect.glyphs (t.repeatLast n) :=
  repeatLast_induction (p := t.Alters Aspect.glyphs)
    (fun u c _ hu => hu.trans (u.alters_printGlyph c _)) (.refl _ t) n

/-! ## Screens and modes -/

theorem alters_saveCursor : t.Alters [.grid .saved] t.saveCursor :=
  alters_modifyGrid fun g => g.alters_saved _

/-- What restoring the cursor can alter. -/
def Aspect.restored : List Aspect :=
  [.grid .cursor, .rendition, .charsets, .modes, .flag .origin, .flag .autowrap]

theorem alters_restoreCursor : t.Alters Aspect.restored t.restoreCursor := by
  unfold restoreCursor
  dsimp only
  refine Alters.trans (u := { t with
    rendition := t.grid.saved.rendition
    charsets := t.grid.saved.charsets
    modes := { t.modes with dec := { t.modes.dec with
      origin := t.grid.saved.origin
      autowrap := t.grid.saved.autowrap } } }) ⟨fun a ha => ?_⟩ ?_
  · cases a with
    | flag f => cases f <;> first | rfl | cases ha
    | _ => first | rfl | cases ha
  · exact (alters_modifyGrid fun g =>
      .ite ((g.alters_cursor _).trans (Grid.alters_cursor _ _)) (g.alters_cursor _)).mono rfl

/-- What a change to the other screen can alter. -/
def Aspect.exchanged : List Aspect :=
  [.screen, .hidden, .grid .size, .grid .region, .grid .saved, .grid .text, .grid .ring]
    ++ Aspect.restored

theorem alters_enterAlternate (save : Bool) :
    t.Alters Aspect.exchanged (t.enterAlternate save) := by
  have saved : t.Alters Aspect.exchanged (if save then t.saveCursor else t) :=
    .ite (t.alters_saveCursor.mono rfl) (.refl _ t)
  refine .ite (.refl _ t) (saved.trans ⟨fun a ha => ?_⟩)
  cases a with
  | grid a => cases a <;> cases ha
  | _ => first | rfl | cases ha

theorem alters_leaveAlternate (restore : Bool) :
    t.Alters Aspect.exchanged (t.leaveAlternate restore) := by
  have put (u : Terminal) (kind : ScreenKind) (primary : Grid) :
      u.Alters Aspect.exchanged { u with screen := kind, primary := primary } := by
    refine ⟨fun a ha => ?_⟩
    cases a with
    | grid a => cases a <;> cases ha
    | _ => first | rfl | cases ha
  unfold leaveAlternate
  refine .ite ?_ (.refl _ t)
  have left (restored : Terminal) (h : t.Alters Aspect.exchanged restored) :
      t.Alters Aspect.exchanged
        ({ restored with primary := restored.primary.markAllDirty }.note .debug
          "left alternate screen") :=
    h.trans ((put _ _ _).trans ((alters_note ..).mono rfl))
  exact left _ ((put t .primary _).trans (.ite ((alters_restoreCursor _).mono rfl) (.refl _ _)))

/-! ### Private modes -/

theorem alters_clearPending : t.Alters [.grid .cursor] (t.modifyGrid Grid.clearPending) :=
  alters_modifyGrid fun g => g.alters_cursor _

theorem alters_repaint : t.Alters [.grid .ring] t.repaint :=
  alters_modifyGrid fun g => g.alters_markAllDirty

theorem alters_beginSync (now : Instant) : t.Alters [.schedule] (t.beginSync now) :=
  (t.alters_schedule _).trans ((alters_note ..).mono rfl)

theorem alters_endSync : t.Alters [.schedule] t.endSync :=
  (t.alters_schedule _).trans ((alters_note ..).mono rfl)

/-- What switching the private mode with a number can alter. -/
def Aspect.ofDecMode (number : Nat) : List Aspect :=
  match number with
  | 5 => [.modes, .flag .reverseVideo, .grid .ring]
  | 6 => [.modes, .flag .origin, .grid .cursor]
  | 7 => [.modes, .flag .autowrap, .grid .cursor]
  | 47 | 1047 | 1049 => exchanged
  | 1048 => .grid .saved :: restored
  | 2026 => [.schedule]
  | _ =>
    match DecMode.ofNumber? number with
    | some mode => ofMode mode
    | none => []

theorem alters_setDecMode (now : Instant) (on : Bool) (number : Nat) :
    t.Alters (Aspect.ofDecMode number) (setDecMode now on t number) := by
  unfold setDecMode
  split
  · exact ((t.alters_switchDec (.flag .reverseVideo) on).mono rfl).trans
      ((alters_repaint _).mono rfl)
  · exact ((t.alters_switchDec (.flag .origin) on).mono rfl).trans ((alters_goTo ..).mono rfl)
  · exact ((t.alters_switchDec (.flag .autowrap) on).mono rfl).trans
      ((alters_clearPending _).mono rfl)
  · exact .ite ((t.alters_note ..).mono rfl) (.refl _ t)
  · exact .ite ((t.alters_note ..).mono rfl) (.refl _ t)
  · exact .ite ((t.alters_note ..).mono rfl) (.refl _ t)
  · exact .ite (t.alters_enterAlternate _) (t.alters_leaveAlternate _)
  · exact .ite (t.alters_enterAlternate _) (t.alters_leaveAlternate _)
  · exact .ite (t.alters_saveCursor.mono rfl) (t.alters_restoreCursor.mono rfl)
  · exact .ite (t.alters_enterAlternate _) (t.alters_leaveAlternate _)
  · exact .ite (t.alters_beginSync now) t.alters_endSync
  · unfold Aspect.ofDecMode
    split
    any_goals contradiction
    cases DecMode.ofNumber? number with
    | some mode => exact t.alters_switchDec mode on
    | none => exact .ite (t.alters_note ..) (t.alters_note ..)

/-- The numbers of the screens, and of the cursor that is saved with one. -/
def screenNumbers : List Nat := [47, 1047, 1048, 1049]

/-- What switching can alter while neither the screens nor the cursors are exchanged. -/
def Aspect.toggled : List Aspect :=
  [.modes, .grid .cursor, .grid .ring, .schedule] ++ DecFlag.all.map .flag

/-- What switching private modes can alter. -/
def Aspect.switched : List Aspect := exchanged ++ toggled

theorem ofMode_toggled (mode : DecMode) :
    (Aspect.ofMode mode).all Aspect.toggled.contains = true := by
  cases mode with
  | flag f => cases f <;> rfl
  | tracking | encoding => rfl

/-- A private mode that has nothing to do with the screens. -/
theorem ofDecMode_toggled {number : Nat} (h : number ∉ screenNumbers) :
    (Aspect.ofDecMode number).all Aspect.toggled.contains = true := by
  unfold Aspect.ofDecMode
  split
  · rfl
  · rfl
  · rfl
  · exact absurd (by decide) h
  · exact absurd (by decide) h
  · exact absurd (by decide) h
  · exact absurd (by decide) h
  · rfl
  · cases DecMode.ofNumber? number with
    | some mode => exact ofMode_toggled mode
    | none => rfl

/-- The rows are marked by one number, and exchanged by the others. -/
theorem rows_ofDecMode {number : Nat} (h : number ∉ [5, 47, 1047, 1049]) :
    Aspect.apart [.screen, .hidden, .grid .text, .grid .ring, .tables, .link]
      (Aspect.ofDecMode number) = true := by
  unfold Aspect.ofDecMode
  split
  · exact absurd (by decide) h
  · rfl
  · rfl
  · exact absurd (by decide) h
  · exact absurd (by decide) h
  · exact absurd (by decide) h
  · rfl
  · rfl
  · cases DecMode.ofNumber? number with
    | some mode => cases mode <;> rfl
    | none => rfl

/-- What a private mode alters beside itself, if it has nothing to do with the screens. -/
theorem mem_ofDecMode {number : Nat} (h : number ∉ screenNumbers) {a : Aspect}
    (ha : a ∈ Aspect.ofDecMode number) :
    a = .modes ∨ (∃ f : DecFlag, number = f.number ∧ a = .flag f) ∨
      (number = 5 ∧ a = .grid .ring) ∨ ((number = 6 ∨ number = 7) ∧ a = .grid .cursor) ∨
      (number = 2026 ∧ a = .schedule) := by
  unfold Aspect.ofDecMode at ha
  split at ha
  · simp only [List.mem_cons, List.not_mem_nil, or_false] at ha
    rcases ha with rfl | rfl | rfl
    · exact .inl rfl
    · exact .inr (.inl ⟨_, rfl, rfl⟩)
    · exact .inr (.inr (.inl ⟨rfl, rfl⟩))
  · simp only [List.mem_cons, List.not_mem_nil, or_false] at ha
    rcases ha with rfl | rfl | rfl
    · exact .inl rfl
    · exact .inr (.inl ⟨_, rfl, rfl⟩)
    · exact .inr (.inr (.inr (.inl ⟨.inl rfl, rfl⟩)))
  · simp only [List.mem_cons, List.not_mem_nil, or_false] at ha
    rcases ha with rfl | rfl | rfl
    · exact .inl rfl
    · exact .inr (.inl ⟨_, rfl, rfl⟩)
    · exact .inr (.inr (.inr (.inl ⟨.inr rfl, rfl⟩)))
  · exact absurd (by decide) h
  · exact absurd (by decide) h
  · exact absurd (by decide) h
  · exact absurd (by decide) h
  · exact .inr (.inr (.inr (.inr ⟨rfl, List.mem_singleton.1 ha⟩)))
  · split at ha
    · rename_i mode hmode
      cases mode with
      | flag f =>
        rcases List.mem_pair.1 ha with rfl | rfl
        · exact .inl rfl
        · exact .inr (.inl ⟨f, DecMode.eq_number hmode, rfl⟩)
      | tracking | encoding => exact .inl (List.mem_singleton.1 ha)
    · exact absurd ha List.not_mem_nil

theorem alters_setDecMode_toggled (now : Instant) (on : Bool) {number : Nat}
    (h : number ∉ screenNumbers) : t.Alters Aspect.toggled (setDecMode now on t number) :=
  (t.alters_setDecMode now on number).mono (ofDecMode_toggled h)

theorem alters_setDecMode_switched (now : Instant) (on : Bool) (number : Nat) :
    t.Alters Aspect.switched (setDecMode now on t number) := by
  by_cases h : number ∈ screenNumbers
  · simp only [screenNumbers, List.mem_cons, List.not_mem_nil, or_false] at h
    rcases h with rfl | rfl | rfl | rfl <;> exact (t.alters_setDecMode now on _).mono rfl
  · exact (t.alters_setDecMode_toggled now on h).mono rfl

theorem alters_saveDecMode (number : Nat) :
    t.Alters (if number = 1048 then [.grid .saved] else [.savedModes]) (t.saveDecMode number) := by
  unfold saveDecMode
  split
  · exact t.alters_saveCursor
  · split
    · exact t.alters_keepMode ..
    · exact t.alters_keepMode ..
    · exact (t.alters_note ..).mono rfl

theorem alters_restoreDecMode (now : Instant) (number : Nat) :
    t.Alters Aspect.switched (restoreDecMode now t number) := by
  refine .ite (t.alters_restoreCursor.mono rfl) ?_
  split
  · exact t.alters_setDecMode_switched now _ number
  · exact (t.alters_note ..).mono rfl

/-! ### Resets -/

/-- What a soft reset can alter. -/
def Aspect.softReset : List Aspect :=
  [.grid .region, .grid .cursor, .grid .saved, .rendition, .charsets, .modes, .flag .autowrap,
    .flag .cursorVisible, .flag .origin, .flag .appCursorKeys, .flag .appKeypad, .link, .schedule]

/-- What a full reset can alter. -/
def Aspect.hardReset : List Aspect :=
  switched ++ [.tabs, .tables, .link, .colors, .cursorColor, .titleStack, .cursorStyle,
    .lastPrinted, .savedModes]

theorem alters_softReset : t.Alters Aspect.softReset t.softReset := by
  unfold softReset
  dsimp only
  refine Alters.trans (u := { t with
    modes := { t.modes with dec := { t.modes.dec with
      autowrap := true, cursorVisible := true, origin := false, appCursorKeys := false,
      appKeypad := false }, insert := false, newline := false }
    rendition := {}
    charsets := {}
    link := 0
    schedule := t.schedule.endSync }) ⟨fun a ha => ?_⟩ ?_
  · cases a with
    | flag f => cases f <;> first | rfl | cases ha
    | _ => first | rfl | cases ha
  · refine alters_modifyGrid fun g => ?_
    refine ((g.alters_setRegion 0 t.rows).mono rfl).trans
      (.trans ?_ ((Grid.alters_cursor _ _).mono rfl))
    exact (Grid.alters_saved _ _).mono rfl

theorem alters_hardReset : t.Alters Aspect.hardReset t.hardReset := by
  refine ((t.alters_leaveAlternate false).mono rfl).trans ⟨fun a ha => ?_⟩
  cases a with
  | grid a => cases a <;> cases ha
  | flag f => cases f <;> cases ha
  | _ => first | rfl | cases ha

/-- What a change of the size can alter. -/
def Aspect.resized : List Aspect := [.hidden, .tabs, .composeAt, .schedule] ++ grids

theorem alters_resize (cols rows : Nat) : t.Alters Aspect.resized (t.resize cols rows) := by
  unfold resize
  refine .ite (.refl _ t) (.trans (u := { t with
    tabs := t.tabsFor (max cols 1)
    primary := t.primary.resize (max rows 1) (max cols 1) t.config.reflow
    alternate := t.alternate.resize (max rows 1) (max cols 1) false
    composeAt := none
    schedule := t.schedule.requestImmediate }) ⟨fun a ha => ?_⟩ ?_)
  · cases a with
    | grid a => cases a <;> cases ha
    | _ => first | rfl | cases ha
  · exact ((alters_repaint _).mono rfl).trans ((alters_note ..).mono rfl)

theorem alters_alignmentTest : t.Alters (.grid .region :: Aspect.editing) t.alignmentTest := by
  unfold alignmentTest
  refine alters_modifyGrid fun g => ?_
  have filled : g.Alters (.grid .region :: Aspect.editing) (g.fill 'E') :=
    (Grid.alters_of_bearings (g.bearings_fill 'E')).mono rfl
  exact filled.trans
    (((Grid.alters_setRegion ..).mono rfl).trans ((Grid.alters_cursor ..).mono rfl))

end

end Terminal

end Teletype
