import Teletype.Proofs.Grid.References
import Teletype.Proofs.Terminal.Reachable

/-!
# What the cells of a terminal refer to

Every cell of both screens refers to what is in the tables of the terminal, and so does the link
that is in force. Output adds to the tables and takes nothing out, but for a reset to the state
after power-on, which empties the tables and the screens together.
-/

namespace Teletype.Terminal

/-- The tables that the cells refer to. -/
def tables (t : Terminal) : Tables := ⟨t.clusters, t.links⟩

/-- A valid terminal with nothing in it that refers to what is not there. -/
structure Sound (cols rows : Nat) (t : Terminal) : Prop where
  valid : t.Valid cols rows
  primary : t.primary.Sound t.tables .primary cols rows
  alternate : t.alternate.Sound t.tables .alternate cols rows
  link : t.tables.HasLink t.link
  links : t.links.Indexed

/-- What can be found in the tables of the first terminal can be found in those of the second one,
which is sound if the first one is. -/
structure Retains (t t' : Terminal) : Prop where
  tables : t.tables.Extends t'.tables
  sound : ∀ {cols rows}, t.Sound cols rows → t'.Sound cols rows

theorem Retains.refl (t : Terminal) : t.Retains t := ⟨.refl _, fun h => h⟩

variable {t u v : Terminal} {cols rows : Nat}

theorem Retains.trans (h : t.Retains u) (h' : u.Retains v) : t.Retains v :=
  ⟨h.tables.trans h'.tables, fun hs => h'.sound (h.sound hs)⟩

theorem Retains.ite {p : Prop} [Decidable p] {a b : Terminal} (ha : t.Retains a)
    (hb : t.Retains b) : t.Retains (if p then a else b) := by
  split
  · exact ha
  · exact hb

theorem retains_foldl {α : Type} {f : Terminal → α → Terminal}
    (hf : ∀ (t : Terminal) (a : α), t.Retains (f t a)) (l : List α) (t : Terminal) :
    t.Retains (l.foldl f t) :=
  List.foldlRecOn l f (.refl t) fun u hu a _ => hu.trans (hf u a)

/-- The screens stay as they are, and the tables may get more entries. -/
theorem Sound.of_tables (h : t.Sound cols rows) (hv : u.Valid cols rows)
    (hp : u.primary = t.primary) (ha : u.alternate = t.alternate)
    (ht : t.tables.Extends u.tables) (hlink : u.tables.HasLink u.link)
    (hlinks : u.links.Indexed) : u.Sound cols rows :=
  ⟨hv, hp ▸ h.primary.mono ht, ha ▸ h.alternate.mono ht, hlink, hlinks⟩

theorem tables_of_alters {aspects : List Aspect} (h : t.Alters aspects u)
    (hapart : Aspect.apart [.tables] aspects = true) : u.tables = t.tables := by
  obtain ⟨clusters, links⟩ := Prod.ext_iff.1 (h.of_apart hapart (a := .tables) (by decide))
  exact Tables.mk.injEq .. |>.mpr ⟨clusters, links⟩

/-! ## The grid in use -/

theorem Sound.grid (h : t.Sound cols rows) : t.grid.Sound t.tables t.screen cols rows := by
  unfold Terminal.grid
  cases t.screen with
  | primary => exact h.primary
  | alternate => exact h.alternate

/-- The grid in use may be another one. The hidden one stays as it is, and so do the tables. -/
theorem Sound.of_grid {aspects : List Aspect} (h : t.Sound cols rows) (hu : t.Alters aspects u)
    (hapart : Aspect.apart [.screen, .hidden, .tables, .link] aspects = true)
    (hv : u.Valid cols rows) (hg : u.grid.Sound t.tables t.screen cols rows) :
    u.Sound cols rows := by
  have screen : u.screen = t.screen := hu.of_apart hapart (a := .screen) (by decide)
  have hidden : u.hidden = t.hidden := hu.of_apart hapart (a := .hidden) (by decide)
  have link : u.link = t.link := hu.of_apart hapart (a := .link) (by decide)
  have tables := tables_of_alters hu (Aspect.apart_mono hapart (by decide))
  have linked : u.tables.HasLink u.link := by
    rw [tables, link]
    exact h.link
  have indexed : u.tables.links.Indexed := by
    rw [tables]
    exact h.links
  unfold Terminal.hidden at hidden
  unfold Terminal.grid at hg
  rw [screen] at hidden hg
  rw [← tables] at hg
  cases hs : t.screen with
  | primary =>
    rw [hs] at hidden hg
    have hidden : u.alternate = t.alternate := hidden
    have kept : u.alternate.Sound u.tables .alternate cols rows := by
      rw [tables, hidden]
      exact h.alternate
    exact ⟨hv, hg, kept, linked, indexed⟩
  | alternate =>
    rw [hs] at hidden hg
    have hidden : u.primary = t.primary := hidden
    have kept : u.primary.Sound u.tables .primary cols rows := by
      rw [tables, hidden]
      exact h.primary
    exact ⟨hv, kept, hg, linked, indexed⟩

/-- A change of the grid in use that leaves it valid. -/
theorem Sound.modifyGrid (h : t.Sound cols rows) {f : Grid → Grid}
    (hv : (t.modifyGrid f).Valid cols rows)
    (hf : t.grid.Sound t.tables t.screen cols rows → (f t.grid).Valid t.screen cols rows →
      (f t.grid).Sound t.tables t.screen cols rows) : (t.modifyGrid f).Sound cols rows := by
  have changed := hv.grid
  rw [grid_modifyGrid, screen_modifyGrid] at changed
  refine h.of_grid (t.alters_grid f) rfl hv ?_
  rw [grid_modifyGrid]
  exact hf h.grid changed

theorem retains_modifyGrid (t : Terminal) {f : Grid → Grid}
    (hf : ∀ {cols rows}, t.grid.Sound t.tables t.screen cols rows →
      (f t.grid).Sound t.tables t.screen cols rows) : t.Retains (t.modifyGrid f) :=
  ⟨.of_eq (tables_of_alters (t.alters_grid f) rfl), fun hs =>
    hs.modifyGrid (hs.valid.modifyGrid fun _ => (hf hs.grid).toValid) fun hg _ => hf hg⟩

/-- What leaves the rows and the tables alone retains what is in them, if it keeps the terminal
valid. -/
theorem Retains.of_ring {aspects : List Aspect} (h : t.Alters aspects u)
    (hapart : Aspect.apart [.screen, .hidden, .grid .ring, .tables, .link] aspects = true)
    (hv : ∀ {cols rows}, t.Valid cols rows → u.Valid cols rows) : t.Retains u := by
  have screen : u.screen = t.screen := h.of_apart hapart (a := .screen) (by decide)
  have ring : u.grid.aspect .ring = t.grid.aspect .ring :=
    h.of_apart hapart (a := .grid .ring) (by decide)
  have kept {α : Type} (f : Grid → α) : f (u.grid.aspect .ring) = f (t.grid.aspect .ring) :=
    congrArg f ring
  refine ⟨.of_eq (tables_of_alters h (Aspect.apart_mono hapart (by decide))), fun hs => ?_⟩
  have valid := (hv hs.valid).grid
  rw [screen] at valid
  exact hs.of_grid h (Aspect.apart_mono hapart (by decide)) (hv hs.valid)
    (hs.grid.of_slots valid (kept Grid.slots) (kept Grid.nextSeq))

/-- What cells refer to has nothing to do with most of a terminal. -/
theorem Retains.of_alters {aspects : List Aspect} (h : t.Alters aspects u)
    (hapart : Aspect.apart ([.tables, .link, .tabs, .titleStack] ++ Aspect.screens) aspects =
      true) :
    t.Retains u :=
  .of_ring h (Aspect.apart_mono hapart (by decide))
    (·.of_alters h (Aspect.apart_mono hapart (by decide)))

variable (t)

/-! ## Motions -/

theorem retains_lineFeed : t.Retains t.lineFeed := by
  unfold Terminal.lineFeed
  refine t.retains_modifyGrid fun hg => Grid.Sound.clearPending ?_
  have := hg.rows_eq
  split
  · exact hg.scroll (.up 1 _)
  · split
    · exact hg.of_cursor (by dsimp only; omega) hg.cursor_col hg.pending
    · exact hg

theorem retains_reverseIndex : t.Retains t.reverseIndex := by
  unfold Terminal.reverseIndex
  refine t.retains_modifyGrid fun hg => Grid.Sound.clearPending ?_
  have := hg.cursor_row
  split
  · exact hg.scroll (.down 1 _)
  · exact hg.of_cursor (by dsimp only; omega) hg.cursor_col hg.pending

/-! ## Printing -/

theorem retains_wrapLine : t.Retains t.wrapLine := by
  have marked :
      t.Retains (t.modifyGrid (·.modifyRow t.cursor.row ({ · with wrapped := true }))) := by
    refine t.retains_modifyGrid fun hg => hg.modifyRow ?_ (fun _ => rfl) fun _ hr => hr
    exact hg.toValid.modifyRow _ fun _ hr => hr.of_cells rfl
  refine (marked.trans (retains_lineFeed _)).trans (.of_ring (alters_putCursor ..) rfl fun hv => ?_)
  refine hv.putCursor hv.cursor_row hv.grid.cols_pos fun hp => ?_
  exact absurd hp (by simp [pendingWrap_lineFeed])

theorem retains_makeRoom (width : Nat) : t.Retains (t.makeRoom width).1 :=
  makeRoom_induction (p := t.Retains) (fun u hu => hu.trans u.retains_wrapLine) (.refl t) width

theorem retains_placeGlyph {c : Char} (hc : c.toNat ≠ 0) (width col : Nat) :
    t.Retains (t.placeGlyph c width col) := by
  refine ⟨.of_eq (tables_of_alters (t.alters_placeGlyph ..) rfl), fun {cols rows} hs => ?_⟩
  have hlink := hs.link
  unfold Terminal.placeGlyph
  refine hs.modifyGrid (hs.valid.placeGlyph c width col) fun hg hv => ?_
  dsimp only at hv ⊢
  generalize t.grid = g at hg hv ⊢
  -- The cursor that insert mode moves is put elsewhere in the end.
  have hplaced : ∃ (g' : Grid) (cursor : Cursor), g'.Sound t.tables t.screen cols rows ∧
      (if t.modes.insert then
        ({ g with cursor := { g.cursor with col := col } } : Grid).insertChars width
          t.rendition.background
      else g) = { g' with cursor := cursor } := by
    split
    · refine ⟨_, _, hg.modifyRow (hg.toValid.modifyRow g.cursor.row fun r hr => ?_)
        (fun r => r.seq_insertBlanks col width t.rendition.background) fun r hr => ?_,
        modifyRow_cursor ..⟩
      · exact hr.insertBlanks _ _ _
      · exact Row.forall_insertBlanks (Cell.refers_blank _) hr _ _ _
    · exact ⟨g, g.cursor, hg, rfl⟩
  obtain ⟨g', cursor, hg', heq⟩ := hplaced
  have written := hg'.write g.cursor.row col width t.rendition hc (.inl (isScalar_toNat c)) hlink
  rw [heq, write_cursor] at hv ⊢
  exact written.of_slots hv rfl rfl

theorem retains_printGlyph {c : Char} (hc : c.toNat ≠ 0) (width : Nat) :
    t.Retains (t.printGlyph c width) := by
  have placed :=
    (t.retains_makeRoom width).trans (retains_placeGlyph _ hc width (t.makeRoom width).2)
  exact .ite (.of_alters (t.alters_note ..) rfl)
    (placed.trans (.of_alters (alters_lastPrinted ..) rfl))

theorem sound_composeGrid {T : Tables} {kind : ScreenKind} {g : Grid}
    (hg : g.Sound T kind cols rows) {row col : Nat} {cell : Cell}
    (hcell : g.cell? row col = some cell) (hkey : cell.key ≠ 0) (oldWidth : Nat)
    {glyph : Glyph} (hglyph : ∃ cluster, T.clusters.resolve? glyph.key = some cluster) :
    (composeGrid g row col oldWidth glyph).Sound T kind cols rows := by
  have hv := Valid.composeGrid hg.toValid hcell hkey oldWidth glyph
  have joins : ∀ c, g.cell? row col = some c → c.key ≠ 0 := fun c hc =>
    Option.some.inj (hcell.symm.trans hc) ▸ hkey
  obtain ⟨cluster, hcluster⟩ := hglyph
  have composed := hg.compose row col glyph.width joins (Clusters.resolve?_ne_zero hcluster)
    (.inr ⟨cluster, hcluster⟩)
  unfold Terminal.composeGrid at hv ⊢
  dsimp only at hv ⊢
  exact .ite hv (fun hv => .ite hv (fun hv => composed.of_slots hv rfl rfl) fun _ => composed)
    fun _ => composed

theorem retains_compose {row col : Nat} (c : Char)
    (hkey : ∀ cell, t.grid.cell? row col = some cell → cell.key ≠ 0) :
    t.Retains (t.compose row col c) := by
  unfold Terminal.compose
  split
  · exact .refl t
  · rename_i cell hcell
    obtain ⟨keeps, found⟩ := t.clusters.append_spec cell.key c t.config.widthMethod
    generalize t.clusters.append cell.key c t.config.widthMethod = r at keeps found ⊢
    have extended : t.tables.Extends ⟨r.value.1, t.links⟩ := ⟨keeps, fun _ _ h => h⟩
    have added : t.Retains (({ t with clusters := r.value.1 } : Terminal).noteAll r.reports) := by
      refine .trans (u := { t with clusters := r.value.1 }) ⟨extended, fun hs => ?_⟩
        (.of_alters (alters_noteAll ..) rfl)
      exact hs.of_tables (hs.valid.of_alters (t.alters_clusters _) rfl) rfl rfl extended
        (extended.hasLink hs.link) hs.links
    dsimp only
    split
    · exact added
    · rename_i glyph hglyph
      refine added.trans (retains_modifyGrid _ fun hg => ?_)
      exact sound_composeGrid hg hcell (hkey cell hcell) _ (found glyph hglyph)

/-- A character that takes room is not that of a right half. -/
theorem toNat_ne_zero_of_displayWidth {c : Char} (h : Text.displayWidth c ≠ 0) : c.toNat ≠ 0 := by
  intro hzero
  obtain rfl : c = '\x00' := Char.ext (UInt32.toNat_inj.1 hzero)
  exact h Text.displayWidth_null

theorem retains_print (c : Char) : t.Retains (t.print c) := by
  have shifted := Retains.of_alters (t.alters_charsets (t.charsets.translate c).1) rfl
  rcases t.print_cases c with
    ⟨row, col, c', -, hattaches, printed⟩ | printed | ⟨c', hwidth, printed⟩
  · exact printed ▸ shifted.trans
      (retains_compose _ c' fun _ hcell => key_of_attaches hattaches hcell)
  · exact printed ▸ shifted
  · exact printed ▸ shifted.trans
      (retains_printGlyph _ (toNat_ne_zero_of_displayWidth hwidth) _)

theorem retains_repeatLast (n : Nat) : t.Retains (t.repeatLast n) :=
  repeatLast_induction (p := t.Retains)
    (fun u _ hwidth hu => hu.trans (u.retains_printGlyph (toNat_ne_zero_of_displayWidth hwidth) _))
    (.refl t) n

/-! ## Screens -/

theorem retains_saveCursor : t.Retains t.saveCursor :=
  .of_ring t.alters_saveCursor rfl (·.saveCursor)

theorem retains_restoreCursor : t.Retains t.restoreCursor :=
  .of_ring t.alters_restoreCursor rfl (·.restoreCursor)

theorem retains_enterAlternate (save : Bool) : t.Retains (t.enterAlternate save) := by
  have saved : t.Retains (if save then t.saveCursor else t) := .ite t.retains_saveCursor (.refl t)
  refine .ite (.refl t) (saved.trans ⟨.refl _, fun hs => ?_⟩)
  generalize (if save then t.saveCursor else t) = t at hs ⊢
  have moved := (hs.alternate.setRegion t.primary.region.top t.primary.region.bottom).setCursor
    t.primary.cursor.row t.primary.cursor.col
  have entered := (moved.eraseRows 0
    (t.alternate.setRegion t.primary.region.top t.primary.region.bottom).rows .default).markAllDirty
  exact ⟨⟨hs.valid.primary, entered.toValid, hs.valid.tabs, hs.valid.titles⟩, hs.primary, entered,
    hs.link, hs.links⟩

theorem retains_leaveAlternate (restore : Bool) : t.Retains (t.leaveAlternate restore) := by
  unfold Terminal.leaveAlternate
  refine .ite ?_ (.refl t)
  have left : t.Retains { t with
      screen := .primary
      primary := (t.primary.setRegion t.alternate.region.top t.alternate.region.bottom).setCursor
        t.alternate.cursor.row t.alternate.cursor.col } := by
    refine ⟨.refl _, fun hs => ?_⟩
    have moved := (hs.primary.setRegion t.alternate.region.top t.alternate.region.bottom).setCursor
      t.alternate.cursor.row t.alternate.cursor.col
    exact ⟨⟨moved.toValid, hs.valid.alternate, hs.valid.tabs, hs.valid.titles⟩, moved, hs.alternate,
      hs.link, hs.links⟩
  dsimp only
  generalize ({ t with
      screen := .primary
      primary := (t.primary.setRegion t.alternate.region.top t.alternate.region.bottom).setCursor
        t.alternate.cursor.row t.alternate.cursor.col } : Terminal) = t' at left ⊢
  have restored : t.Retains (if restore then t'.restoreCursor else t') :=
    .ite (left.trans t'.retains_restoreCursor) left
  refine restored.trans ⟨.refl _, fun hs => ?_⟩
  have marked := hs.primary.markAllDirty
  exact ⟨⟨marked.toValid, hs.valid.alternate, hs.valid.tabs, hs.valid.titles⟩, marked, hs.alternate,
    hs.link, hs.links⟩

theorem retains_softReset : t.Retains t.softReset := by
  refine ⟨.of_eq (tables_of_alters t.alters_softReset rfl), fun hs => ?_⟩
  have hv := hs.valid.softReset
  unfold Terminal.softReset at hv ⊢
  dsimp only at hv ⊢
  refine Sound.modifyGrid ?_ hv fun hg hv => (hg.setRegion 0 t.rows).of_slots hv rfl rfl
  exact hs.of_tables (hs.valid.of_eq rfl rfl rfl rfl) rfl rfl (.refl _) (.inl rfl) hs.links

variable {t}

/-- A reset to the state after power-on empties the tables, and no cell refers to anything then. -/
theorem Sound.hardReset (h : t.Sound cols rows) : t.hardReset.Sound cols rows := by
  have left := (t.retains_leaveAlternate false).sound h
  refine ⟨h.valid.hardReset, ?_, ?_, .inl rfl, Links.indexed_empty⟩
  · exact (Grid.sound_clearAll left.valid.primary _).viewToBottom
  · exact Grid.sound_clearAll left.valid.alternate _

/-- Another size moves cells with their keys and links. -/
theorem Sound.resize (h : t.Sound cols rows) (cols' rows' : Nat) :
    (t.resize cols' rows').Sound (max cols' 1) (max rows' 1) := by
  have hcols : t.cols = cols := h.valid.primary.cols_eq
  have hrows : t.rows = rows := h.valid.primary.rows_eq
  unfold Terminal.resize
  dsimp only
  split
  · rename_i hsame
    simp only [Bool.and_eq_true, decide_eq_true_eq] at hsame
    rw [hsame.1, hsame.2, hcols, hrows]
    exact h
  · have hp := h.primary.resize (max rows' 1) (max cols' 1) t.config.reflow
    have ha := h.alternate.resize (max rows' 1) (max cols' 1) false
    rw [Nat.max_eq_left (Nat.le_max_right rows' 1), Nat.max_eq_left (Nat.le_max_right cols' 1)]
      at hp ha
    have ht : ({ t with
        tabs := t.tabsFor (max cols' 1)
        primary := t.primary.resize (max rows' 1) (max cols' 1) t.config.reflow
        alternate := t.alternate.resize (max rows' 1) (max cols' 1) false
        composeAt := none
        schedule := t.schedule.requestImmediate } : Terminal).Sound (max cols' 1) (max rows' 1) :=
      ⟨⟨hp.toValid, ha.toValid, fun _ hc => lt_of_mem_tabsFor hc, h.valid.titles⟩, hp, ha,
        h.link, h.links⟩
    have marked := (retains_modifyGrid _ fun hg => hg.markAllDirty).sound ht
    exact (Retains.of_alters (alters_note ..) rfl).sound marked

/-! ## Modes -/

theorem retains_repaint (t : Terminal) : t.Retains t.repaint :=
  t.retains_modifyGrid fun hg => hg.markAllDirty

theorem retains_setDecMode (t : Terminal) (now : Instant) (on : Bool) (number : Nat) :
    t.Retains (setDecMode now on t number) := by
  by_cases h : number ∈ [5, 47, 1047, 1049]
  · simp only [List.mem_cons, List.not_mem_nil, or_false] at h
    rcases h with rfl | rfl | rfl | rfl
    · exact (Retains.of_alters (t.alters_switchDec (.flag .reverseVideo) on) rfl).trans
        (retains_repaint _)
    · exact .ite (t.retains_enterAlternate _) (t.retains_leaveAlternate _)
    · exact .ite (t.retains_enterAlternate _) (t.retains_leaveAlternate _)
    · exact .ite (t.retains_enterAlternate _) (t.retains_leaveAlternate _)
  · exact .of_ring (t.alters_setDecMode now on number)
      (Aspect.apart_mono (rows_ofDecMode h) (by decide)) (·.setDecMode now on number)

theorem retains_restoreDecMode (t : Terminal) (now : Instant) (number : Nat) :
    t.Retains (restoreDecMode now t number) := by
  refine .ite t.retains_restoreCursor ?_
  split
  · exact t.retains_setDecMode now _ number
  · exact .of_alters (t.alters_note ..) rfl

end Teletype.Terminal
