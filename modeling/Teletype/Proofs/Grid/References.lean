import Teletype.Clusters
import Teletype.Link
import Teletype.Proofs.Grid.Cells
import Teletype.Proofs.Grid.Rows
import Teletype.Proofs.Grid.Scrolling

/-!
# What cells refer to

A cell names a cluster and a link by their numbers in two tables. Nothing is ever taken out of the
tables but everything at once, so what a number stands for stays the same. A grid is sound if it is
valid, its cells refer to entries of the tables, and its rows have numbers of their own.
-/

namespace Teletype

/-- The tables that the cells of a terminal refer to. -/
structure Tables where
  clusters : Clusters
  links : Links

namespace Tables

/-- The key names a character, or a cluster of the table. -/
def HasKey (T : Tables) (key : Nat) : Prop :=
  isScalar key = true ∨ ∃ cluster, T.clusters.resolve? key = some cluster

/-- The number is that of a link of the table, or 0. -/
def HasLink (T : Tables) (number : Nat) : Prop := number = 0 ∨ ∃ uri, T.links.get? number = some uri

/-- What can be found in the first tables can be found in the second ones. -/
structure Extends (T T' : Tables) : Prop where
  clusters : ∀ key cluster, T.clusters.resolve? key = some cluster →
    T'.clusters.resolve? key = some cluster
  links : ∀ number uri, T.links.get? number = some uri → T'.links.get? number = some uri

variable {T T' T'' : Tables}

theorem Extends.refl (T : Tables) : T.Extends T := ⟨fun _ _ h => h, fun _ _ h => h⟩

theorem Extends.of_eq (h : T' = T) : T.Extends T' := h ▸ .refl T

theorem Extends.trans (h : T.Extends T') (h' : T'.Extends T'') : T.Extends T'' :=
  ⟨fun key cluster hk => h'.clusters key cluster (h.clusters key cluster hk),
    fun number uri hn => h'.links number uri (h.links number uri hn)⟩

theorem Extends.hasKey (h : T.Extends T') {key : Nat} (hkey : T.HasKey key) : T'.HasKey key :=
  hkey.imp_right fun ⟨cluster, hcluster⟩ => ⟨cluster, h.clusters key cluster hcluster⟩

theorem Extends.hasLink (h : T.Extends T') {number : Nat} (hlink : T.HasLink number) :
    T'.HasLink number :=
  hlink.imp_right fun ⟨uri, huri⟩ => ⟨uri, h.links number uri huri⟩

end Tables

/-! ## The tables -/

namespace Clusters

variable {table : Clusters}

theorem resolve?_ne_zero {key : Nat} {cluster : Cluster} (h : table.resolve? key = some cluster) :
    key ≠ 0 := by
  rintro rfl
  exact absurd h (by simp [resolve?, clusterBase])

theorem resolve?_number (table : Clusters) (number : Nat) :
    table.resolve? (clusterBase + number) = table.entries[number]? := by
  rw [resolve?, if_neg (by omega), Nat.add_sub_cancel_left]

theorem place_taken {chars : List Char} {tries start : Nat} {cluster : Cluster}
    (h : table.place chars tries start = .taken cluster) :
    table.entries[cluster.number]? = some cluster := by
  fun_induction place table chars tries start with
  | case1 => exact absurd h (by simp)
  | case2 => exact absurd h (by simp)
  | case3 tries number other hother _ =>
    obtain rfl := Place.taken.inj h
    rw [table.keyed number other hother, hother]
  | case4 _ _ _ _ _ ih => exact ih h

theorem place_free {chars : List Char} {tries start number : Nat}
    (h : table.place chars tries start = .free number) : table.entries[number]? = none := by
  fun_induction place table chars tries start with
  | case1 => exact absurd h (by simp)
  | case2 tries number hnone =>
    obtain rfl := Place.free.inj h
    exact hnone
  | case3 => exact absurd h (by simp)
  | case4 _ _ _ _ _ ih => exact ih h

/-- A key names the cluster whose number it is made of. -/
theorem resolve?_eq_some_iff {key : Nat} {cluster : Cluster} :
    table.resolve? key = some cluster ↔
      key = cluster.glyph.key ∧ table.entries[cluster.number]? = some cluster := by
  constructor
  · intro h
    unfold resolve? at h
    split at h
    · exact absurd h (by simp)
    · have number := table.keyed _ cluster h
      rw [number]
      refine ⟨?_, h⟩
      show key = clusterBase + cluster.number
      omega
  · rintro ⟨rfl, h⟩
    rw [Cluster.glyph, resolve?_number, h]

/-- A cluster of full length is one of the table. -/
theorem resolve?_of_full {key start : Nat} {c : Char} {base : Spelling}
    (h : table.base? key c = some (base, start)) (hfull : maxLength ≤ base.chars.length) :
    ∃ cluster, table.resolve? key = some cluster ∧ cluster.toSpelling = base := by
  unfold base? at h
  split at h
  · rename_i cluster hcluster
    exact ⟨cluster, hcluster, (Prod.mk.inj (Option.some.inj h)).1⟩
  · obtain ⟨single, -, heq⟩ := Option.map_eq_some_iff.1 h
    rw [← (Prod.mk.inj heq).1] at hfull
    exact absurd hfull (by simp [maxLength])

/-- Adding a character keeps every entry, and gives the key of one. -/
theorem append_spec (table : Clusters) (key : Nat) (c : Char) (method : WidthMethod) :
    (∀ k cluster, table.resolve? k = some cluster →
        (table.append key c method).value.1.resolve? k = some cluster) ∧
      ∀ glyph ∈ (table.append key c method).value.2,
        ∃ cluster, (table.append key c method).value.1.resolve? glyph.key = some cluster := by
  fun_cases append table key c method with
  | case1 => exact ⟨fun _ _ h => h, fun _ h => absurd h (by simp)⟩
  | case2 base start hbase hfull =>
    refine ⟨fun _ _ h => h, fun glyph hglyph => ?_⟩
    obtain ⟨cluster, hcluster, rfl⟩ := Option.map_eq_some_iff.1 hglyph
    exact ⟨cluster, (resolve?_eq_some_iff.1 hcluster).1 ▸ hcluster⟩
  | case3 base start hbase hshort chars cluster hplace =>
    refine ⟨fun _ _ h => h, fun glyph hglyph => ?_⟩
    obtain rfl := Option.mem_some.1 hglyph
    exact ⟨cluster, resolve?_eq_some_iff.2 ⟨rfl, place_taken hplace⟩⟩
  | case4 | case5 | case6 | case7 => exact ⟨fun _ _ h => h, fun _ h => absurd h (by simp)⟩
  | case8 base start hbase hshort chars number hplace hroom cluster =>
    have free := place_free hplace
    refine ⟨fun k cluster h => ?_, fun glyph hglyph => ?_⟩
    · unfold resolve? at h ⊢
      split at h
      · exact absurd h (by simp)
      · have other : number ≠ k - clusterBase := by
          intro heq
          rw [← heq, free] at h
          exact absurd h (by simp)
        rw [if_neg ‹_›]
        dsimp only
        rw [Std.HashMap.getElem?_insert, if_neg (by simpa using other)]
        exact h
    · obtain rfl := Option.mem_some.1 hglyph
      exact ⟨cluster, resolve?_eq_some_iff.2 ⟨rfl, Std.HashMap.getElem?_insert_self⟩⟩

end Clusters

namespace Links

/-- The number of every address stands for that address. -/
def Indexed (links : Links) : Prop :=
  ∀ uri number, links.numbers[uri]? = some number → links.get? number = some uri

theorem indexed_empty : ({} : Links).Indexed := fun uri number h => absurd h (by simp)

theorem get?_push (links : Links) (uri : String) (numbers : Std.HashMap String Nat) {number : Nat}
    {old : String} (h : links.get? number = some old) :
    ({ uris := links.uris.push uri, numbers := numbers } : Links).get? number = some old := by
  unfold get? at h ⊢
  split at h
  · exact absurd h (by simp)
  · rw [if_neg ‹_›, Array.getElem?_push, if_neg (Nat.ne_of_lt (Array.getElem?_eq_some_iff.1 h).1)]
    exact h

/-- The numbers given out before stand for what they did. -/
theorem get?_intern (links : Links) (uri : String) {number : Nat} {old : String}
    (h : links.get? number = some old) : (links.intern uri).value.1.get? number = some old := by
  fun_cases intern links uri with
  | case1 | case2 | case3 => exact h
  | case4 => exact links.get?_push _ _ h

/-- An address that is looked up has a number. -/
theorem Indexed.intern {links : Links} (h : links.Indexed) (uri : String) :
    (links.intern uri).value.1.Indexed ∧
      ((links.intern uri).value.2 = 0 ∨
        (links.intern uri).value.1.get? (links.intern uri).value.2 = some uri) := by
  fun_cases Links.intern links uri with
  | case1 => exact ⟨h, .inl rfl⟩
  | case2 _ number hnumber => exact ⟨h, .inr (h uri number hnumber)⟩
  | case3 => exact ⟨h, .inl rfl⟩
  | case4 _ hnone number hroom =>
    have found :
        ({ uris := links.uris.push uri, numbers := links.numbers.insert uri number } : Links).get?
          number = some uri := by
      unfold get?
      rw [if_neg (by omega)]
      exact Array.getElem?_push_size
    refine ⟨fun other n hn => ?_, .inr found⟩
    dsimp only at hn
    rw [Std.HashMap.getElem?_insert] at hn
    split at hn
    · rename_i heq
      obtain rfl : uri = other := by simpa using heq
      obtain rfl := Option.some.inj hn
      exact found
    · exact links.get?_push _ _ (h other n hn)

end Links

/-! ## Cells -/

theorem isScalar_toNat (c : Char) : isScalar c.toNat = true := by
  have := c.valid
  simp only [isScalar, Bool.or_eq_true, Bool.and_eq_true, decide_eq_true_eq]
  exact this

namespace Cell

/-- What the cell refers to is in the tables, and it has no key just if it is a right half. -/
structure Refers (T : Tables) (c : Cell) : Prop where
  key_eq_zero : c.key = 0 ↔ c.extent = .tail
  key : T.HasKey c.key
  link : T.HasLink c.link

variable {T T' : Tables} {c : Cell}

theorem Refers.mono (h : c.Refers T) (hT : T.Extends T') : c.Refers T' :=
  ⟨h.key_eq_zero, hT.hasKey h.key, hT.hasLink h.link⟩

theorem refers_blank (T : Tables) (background : Color) : (blank background).Refers T :=
  ⟨by simp [blank], .inl rfl, .inl rfl⟩

theorem refers_tail (rendition : Rendition) {link : Nat} (hlink : T.HasLink link) :
    (tail rendition link).Refers T :=
  ⟨⟨fun _ => rfl, fun _ => rfl⟩, .inl rfl, hlink⟩

theorem refers_head {key link : Nat} (hzero : key ≠ 0) (hkey : T.HasKey key) (width : Nat)
    (rendition : Rendition) (hlink : T.HasLink link) :
    (⟨key, .ofWidth width, rendition, link⟩ : Cell).Refers T :=
  ⟨⟨fun h => absurd h hzero, fun h => absurd h (Row.ofWidth_ne_tail width)⟩, hkey, hlink⟩

theorem refers_ofChar (T : Tables) {c : Char} (hc : c.toNat ≠ 0) : (ofChar c).Refers T :=
  refers_head hc (.inl (isScalar_toNat c)) 1 {} (.inl rfl)

theorem refers_common (T : Tables) : Reflow.Common (Refers T) :=
  ⟨refers_blank T, fun rendition => refers_tail rendition (.inl rfl)⟩

end Cell

/-! ## Rows keep their numbers -/

namespace Row

variable (r : Row)

theorem seq_eraseRange (first last : Nat) (background : Color) :
    (r.eraseRange first last background).seq = r.seq := by
  unfold eraseRange
  dsimp only
  split <;> rfl

theorem seq_insertBlanks (col n : Nat) (background : Color) :
    (r.insertBlanks col n background).seq = r.seq := by
  unfold insertBlanks
  dsimp only
  split <;> rfl

theorem seq_deleteCells (col n : Nat) (background : Color) :
    (r.deleteCells col n background).seq = r.seq := by
  unfold deleteCells
  dsimp only
  split <;> rfl

theorem seq_write (col key width : Nat) (rendition : Rendition) (link : Nat) :
    (r.write col key width rendition link).seq = r.seq := by
  unfold write
  dsimp only
  split <;> rfl

theorem seq_compose (col key width : Nat) : (r.compose col key width).1.seq = r.seq := by
  unfold compose
  split <;> rfl

end Row

/-! ## Grids -/

namespace Grid

/-- A valid grid whose cells refer to what is in the tables, and whose rows have numbers of their
own. -/
structure Sound (T : Tables) (kind : ScreenKind) (cols rows : Nat) (g : Grid) : Prop extends
    Valid kind cols rows g where
  refers : g.All (Cell.Refers T)
  numbered : Numbered g.slots.toList g.nextSeq

variable {T T' : Tables} {kind : ScreenKind} {cols rows : Nat} {g : Grid}

theorem Sound.mono (h : g.Sound T kind cols rows) (hT : T.Extends T') : g.Sound T' kind cols rows :=
  ⟨h.toValid, fun r hr c hc => (h.refers r hr c hc).mono hT, h.numbered⟩

theorem sound_new (T : Tables) (kind : ScreenKind) (cols rows scrollback : Nat) :
    (new kind cols rows scrollback).Sound T kind (max cols 1) (max rows 1) :=
  ⟨valid_new .., All.new (Cell.refers_blank T) _ _ _ _, (scrollable_new ..).numbered⟩

/-- A grid with the same rows and the same next number is sound if it is valid. -/
theorem Sound.of_slots (h : g.Sound T kind cols rows) {g' : Grid} (hv : g'.Valid kind cols rows)
    (hslots : g'.slots = g.slots) (hnext : g'.nextSeq = g.nextSeq) : g'.Sound T kind cols rows :=
  ⟨hv, fun r hr => h.refers r (hslots ▸ hr), by rw [hslots, hnext]; exact h.numbered⟩

/-- Either of two grids, given that the one that is chosen is valid. -/
theorem Sound.ite {p : Prop} [Decidable p] {a b : Grid}
    (hv : (if p then a else b).Valid kind cols rows)
    (ha : a.Valid kind cols rows → a.Sound T kind cols rows)
    (hb : b.Valid kind cols rows → b.Sound T kind cols rows) :
    (if p then a else b).Sound T kind cols rows := by
  split at hv
  · rw [if_pos ‹_›]
    exact ha hv
  · rw [if_neg ‹_›]
    exact hb hv

/-- A grid stays sound when the cursor is moved on the screen. -/
theorem Sound.of_cursor (h : g.Sound T kind cols rows) {cursor : Cursor} (hrow : cursor.row < rows)
    (hcol : cursor.col < cols) (hpending : cursor.pendingWrap = true → cursor.col + 1 = cols) :
    ({ g with cursor := cursor } : Grid).Sound T kind cols rows :=
  h.of_slots (h.toValid.of_cursor hrow hcol hpending) rfl rfl

theorem Sound.setCursor (h : g.Sound T kind cols rows) (row col : Nat) :
    (g.setCursor row col).Sound T kind cols rows := h.of_slots (h.toValid.setCursor row col) rfl rfl

theorem Sound.clearPending (h : g.Sound T kind cols rows) : g.clearPending.Sound T kind cols rows :=
  h.of_slots h.toValid.clearPending rfl rfl

theorem Sound.setRegion (h : g.Sound T kind cols rows) (top bottom : Nat) :
    (g.setRegion top bottom).Sound T kind cols rows :=
  .ite (h.toValid.setRegion top bottom) (fun hv => h.of_slots hv rfl rfl) fun _ => h

/-! ### Marks and views -/

/-- A grid stays sound when its rows keep their cells and their numbers. -/
theorem Sound.map_slots (h : g.Sound T kind cols rows) {f : Row → Row}
    (hcells : ∀ r, (f r).cells = r.cells) (hseq : ∀ r, (f r).seq = r.seq) :
    ({ g with slots := g.slots.map f } : Grid).Sound T kind cols rows := by
  refine ⟨h.toValid.map_slots hcells, h.refers.map_slots hcells, h.numbered.of_map_seq ?_⟩
  rw [Array.toList_map, List.map_map, show Row.seq ∘ f = Row.seq from funext hseq]

theorem Sound.markAllDirty (h : g.Sound T kind cols rows) : g.markAllDirty.Sound T kind cols rows :=
  h.map_slots (fun _ => rfl) fun _ => rfl

theorem Sound.clearDirty (h : g.Sound T kind cols rows) : g.clearDirty.Sound T kind cols rows :=
  h.map_slots (fun _ => rfl) fun _ => rfl

/-- A view that moves marks rows, and that is all it does to them. -/
theorem Sound.setView (h : g.Sound T kind cols rows) {view : Nat}
    (hv : (g.setView view).Valid kind cols rows) : (g.setView view).Sound T kind cols rows :=
  h.markAllDirty.of_slots hv rfl rfl

theorem Sound.viewUp (h : g.Sound T kind cols rows) (n : Nat) :
    (g.viewUp n).1.Sound T kind cols rows :=
  .ite (h.toValid.viewUp n) (fun _ => h) h.setView

theorem Sound.viewDown (h : g.Sound T kind cols rows) (n : Nat) :
    (g.viewDown n).1.Sound T kind cols rows :=
  .ite (h.toValid.viewDown n) (fun _ => h) h.setView

theorem Sound.viewToBottom (h : g.Sound T kind cols rows) : g.viewToBottom.Sound T kind cols rows :=
  .ite h.toValid.viewToBottom (fun _ => h) h.setView

theorem Sound.previousPrompt (h : g.Sound T kind cols rows) :
    g.previousPrompt.1.Sound T kind cols rows := by
  unfold Grid.previousPrompt
  split
  · exact h
  · exact h.viewUp _

theorem Sound.nextPrompt (h : g.Sound T kind cols rows) :
    g.nextPrompt.1.Sound T kind cols rows := by
  unfold Grid.nextPrompt
  split
  · exact h
  · exact h.viewDown _

/-! ### Edits of rows -/

/-- An edit of a row of which the cells still refer to what is in the tables. -/
theorem Sound.modifyRow (h : g.Sound T kind cols rows) {row : Nat} {f : Row → Row}
    (hv : (g.modifyRow row f).Valid kind cols rows) (hseq : ∀ r, (f r).seq = r.seq)
    (hf : ∀ r, (∀ c ∈ r.cells, c.Refers T) → ∀ c ∈ (f r).cells, c.Refers T) :
    (g.modifyRow row f).Sound T kind cols rows :=
  ⟨hv, h.refers.modifyRow row hf, numbered_modifyRow h.numbered row hseq⟩

/-- Edits that keep a grid sound do so one after the other. -/
theorem Sound.foldl {α : Type} {f : Grid → α → Grid} (h : g.Sound T kind cols rows)
    (hf : ∀ g a, Sound T kind cols rows g → Sound T kind cols rows (f g a)) (l : List α) :
    (l.foldl f g).Sound T kind cols rows :=
  List.foldlRecOn l f h fun u hu a _ => hf u a hu

theorem Sound.clearWrap (h : g.Sound T kind cols rows) (row : Nat) :
    (g.clearWrap row).Sound T kind cols rows :=
  h.modifyRow (h.toValid.clearWrap row) (fun _ => rfl) fun _ hr => hr

theorem Sound.eraseInRow (h : g.Sound T kind cols rows) (row first last : Nat)
    (background : Color) : (g.eraseInRow row first last background).Sound T kind cols rows :=
  h.modifyRow (h.toValid.eraseInRow row first last background) (fun _ => Row.seq_eraseRange ..)
    fun _ hr => Row.forall_eraseRange (Cell.refers_blank T) hr _ _ _

theorem Sound.eraseRow (h : g.Sound T kind cols rows) (background : Color) (row : Nat) :
    (eraseRow background g row).Sound T kind cols rows :=
  h.modifyRow (h.toValid.eraseRow background row) (fun _ => rfl) fun r _ =>
    forall_reset (Cell.refers_blank T) r _ _

theorem Sound.eraseRows (h : g.Sound T kind cols rows) (first last : Nat) (background : Color) :
    (g.eraseRows first last background).Sound T kind cols rows :=
  h.foldl (fun _ row hg => hg.eraseRow background row) _

theorem Sound.eraseRight (h : g.Sound T kind cols rows) (background : Color) :
    (g.eraseRight background).Sound T kind cols rows := (h.eraseInRow _ _ _ background).clearWrap _

theorem Sound.eraseLeft (h : g.Sound T kind cols rows) (background : Color) :
    (g.eraseLeft background).Sound T kind cols rows := h.eraseInRow _ _ _ background

theorem Sound.eraseLine (h : g.Sound T kind cols rows) (mode : Nat) (background : Color) :
    (g.eraseLine mode background).value.Sound T kind cols rows := by
  unfold Grid.eraseLine
  split
  · exact h.eraseRight background
  · exact h.eraseLeft background
  · exact h.eraseRow background _
  · exact h

theorem Sound.eraseChars (h : g.Sound T kind cols rows) (n : Nat) (background : Color) :
    (g.eraseChars n background).Sound T kind cols rows := h.eraseInRow _ _ _ background

theorem Sound.insertChars (h : g.Sound T kind cols rows) (n : Nat) (background : Color) :
    (g.insertChars n background).Sound T kind cols rows :=
  h.modifyRow (h.toValid.insertChars n background) (fun _ => Row.seq_insertBlanks ..) fun _ hr =>
    Row.forall_insertBlanks (Cell.refers_blank T) hr _ _ _

theorem Sound.deleteChars (h : g.Sound T kind cols rows) (n : Nat) (background : Color) :
    (g.deleteChars n background).Sound T kind cols rows :=
  h.modifyRow (h.toValid.deleteChars n background) (fun _ => Row.seq_deleteCells ..) fun _ hr =>
    Row.forall_deleteCells (Cell.refers_blank T) hr _ _ _

theorem Sound.fill (h : g.Sound T kind cols rows) {c : Char} (hc : c.toNat ≠ 0) :
    (g.fill c).Sound T kind cols rows := by
  unfold Grid.fill
  refine h.foldl (fun g row hg => ?_) _
  have hv := hg.toValid.modifyRow row fun r hr => Row.valid_filled (r :=
    { r with wrapped := false, cells := Array.replicate r.cells.size (.ofChar c) }) c
      (by rw [hr.size])
  refine hg.modifyRow hv (fun _ => rfl) fun r _ d hd => ?_
  rw [Array.eq_of_mem_replicate hd]
  exact Cell.refers_ofChar T hc

theorem Sound.write (h : g.Sound T kind cols rows) (row col : Nat) {key : Nat} (width : Nat)
    (rendition : Rendition) {link : Nat} (hzero : key ≠ 0) (hkey : T.HasKey key)
    (hlink : T.HasLink link) :
    (g.write row col key width rendition link).Sound T kind cols rows := by
  refine .ite (h.toValid.write row col key width rendition link) (fun hv => ?_) fun _ => h
  exact h.modifyRow hv (fun _ => Row.seq_write ..) fun _ hr =>
    Row.forall_write (Cell.refers_blank T) hr _ _ _ _ _ (Cell.refers_head hzero hkey _ _ hlink)
      (Cell.refers_tail rendition hlink)

theorem Sound.compose (h : g.Sound T kind cols rows) (row col : Nat) {key : Nat} (width : Nat)
    (hc : ∀ c, g.cell? row col = some c → c.key ≠ 0) (hzero : key ≠ 0) (hkey : T.HasKey key) :
    (g.compose row col key width).1.Sound T kind cols rows :=
  h.modifyRow (f := fun r => (r.compose col key width).1) (h.toValid.compose row col key width hc)
    (fun _ => Row.seq_compose ..) fun _ hr =>
      Row.forall_compose (Cell.refers_blank T) hr _ _ _
        (fun c width hc => Cell.refers_head hzero hkey width c.rendition hc.link)
        fun c hc => Cell.refers_tail c.rendition hc.link

/-! ### The ring -/

theorem Sound.scrollable (h : g.Sound T kind cols rows) :
    g.Scrollable := h.toValid.scrollable h.numbered

/-- Scrolling moves rows and starts others anew with the next numbers. -/
theorem Sound.scroll (h : g.Sound T kind cols rows) (what : Scrolling) :
    (g.scroll what).Sound T kind cols rows := by
  have numbered := (h.scrollable.shows.scroll what).scrollable.numbered
  have blank := Cell.refers_blank T
  cases what with
  | up n background =>
    refine ⟨h.toValid.scrollUp n background, ?_, numbered⟩
    unfold Grid.scroll Grid.scrollUp
    dsimp only
    split
    · exact h.refers.rotateUp blank n background
    · exact h.refers.shiftUp blank _ _ n background
  | down n background =>
    exact ⟨h.toValid.scrollDown n background, h.refers.shiftDown blank _ _ n background, numbered⟩
  | insertLines n background =>
    refine ⟨h.toValid.insertLines n background, ?_, numbered⟩
    unfold Grid.scroll Grid.insertLines
    dsimp only
    split
    · exact h.refers.shiftDown blank _ _ n background
    · exact h.refers
  | deleteLines n background =>
    refine ⟨h.toValid.deleteLines n background, ?_, numbered⟩
    unfold Grid.scroll Grid.deleteLines
    dsimp only
    split
    · exact h.refers.shiftUp blank _ _ n background
    · exact h.refers
  | eraseScrollback => exact ⟨h.toValid.eraseScrollback, h.refers.eraseScrollback blank, numbered⟩

theorem Sound.eraseDisplay (h : g.Sound T kind cols rows) (mode : Nat) (background : Color) :
    (g.eraseDisplay mode background).value.Sound T kind cols rows := by
  unfold Grid.eraseDisplay
  split
  · exact (h.eraseRight background).eraseRows _ _ background
  · exact (h.eraseRows _ _ background).eraseLeft background
  · exact h.eraseRows _ _ background
  · exact h.scroll .eraseScrollback
  · exact h

/-- A grid that is started anew refers to nothing. -/
theorem sound_clearAll (h : g.Valid kind cols rows) (T : Tables) :
    g.clearAll.Sound T kind cols rows := by
  have seqs : g.clearAll.slots.toList.map Row.seq = List.range' g.nextSeq g.capacity := by
    apply List.ext_getElem
    · simp [Grid.clearAll, capacity]
    · intro i hi _
      simp [Grid.clearAll, Row.reset, Row.blank]
  refine ⟨h.clearAll, .clearAll (Cell.refers_blank T) g, fun r hr => ?_, seqs ▸ List.nodup_range'⟩
  have mem := List.mem_map_of_mem (f := Row.seq) hr
  rw [seqs] at mem
  exact (List.mem_range'_1.1 mem).2

theorem Sound.resize (h : g.Sound T kind cols rows) (rows' cols' : Nat) (reflow : Bool) :
    (g.resize rows' cols' reflow).Sound T kind (max cols' 1) (max rows' 1) :=
  ⟨h.toValid.resize rows' cols' reflow, h.refers.resize (Cell.refers_common T) rows' cols' reflow,
    numbered_resize h.numbered rows' cols' reflow⟩

end Grid

end Teletype
