import Teletype.Proofs.Grid.Editing
import Teletype.Proofs.Grid.Resize

/-!
# What holds of every cell

Scrolling, erasing and cutting lines anew move cells about and make blank ones, and nothing else. So
what holds of every cell and of blanks still holds of every cell afterwards.
-/

namespace Teletype

/-! ## Lines that are cut anew -/

namespace Reflow

/-- A condition holds of blanks and of the right halves that cutting may have to add. -/
structure Common (P : Cell → Prop) : Prop where
  blank : ∀ background, P (.blank background)
  tail : ∀ rendition, P (.tail rendition 0)

variable {P : Cell → Prop}

namespace Cutting

/-- The condition holds of every cell that was cut, whether its row is finished or not. -/
structure All (P : Cell → Prop) (s : Cutting) : Prop where
  rows : ∀ r ∈ s.rows, ∀ c ∈ r.cells, P c
  current : ∀ c ∈ s.current, P c

variable {s : Cutting}

theorem All.finishRow (h : s.All P) (hP : Common P) (cols : Nat) (wrapped : Bool) :
    (s.finishRow cols wrapped).All P where
  rows := by
    intro r hr
    rcases Array.mem_push.1 hr with hr | rfl
    · exact h.rows r hr
    · exact Row.forall_append h.current (Row.forall_blanks hP.blank _ .default)
  current := fun c hc => absurd hc (Array.not_mem_empty c)

theorem All.makeRoom (h : s.All P) (hP : Common P) (cols width : Nat) :
    (s.makeRoom cols width).All P := by
  unfold Cutting.makeRoom
  split
  · exact h.finishRow hP cols true
  · exact h

theorem All.place_if (h : s.All P) (p : Prop) [Decidable p] (back : Nat) :
    (if p then s.placeCursor back else s).All P := by
  split
  · exact ⟨h.rows, h.current⟩
  · exact h

theorem All.add (h : s.All P) {c : Cell} (hc : P c) : (s.add c).All P where
  rows := h.rows
  current := by
    intro d hd
    rcases Array.mem_push.1 hd with hd | rfl
    · exact h.current d hd
    · exact hc

theorem All.cells (h : s.All P) (hP : Common P) (cols : Nat) (target : Option Nat) (i : Nat)
    {l : List Cell} (hl : ∀ c ∈ l, P c) : (cells cols target i s l).All P := by
  fun_induction Cutting.cells cols target i s l with
  | case1 => exact h
  | case2 i s c rest _ placed ih =>
    exact ih (h.place_if _ 1) fun d hd => hl d (List.mem_cons_of_mem c hd)
  | case3 i s c rest _ _ room placed added followed ih =>
    have head : P c := hl c List.mem_cons_self
    have tail : P (rest.head?.getD (.tail c.rendition 0)) := by
      cases rest with
      | nil => exact hP.tail _
      | cons d rest => exact hl d (List.mem_cons_of_mem c List.mem_cons_self)
    have wide := ((h.makeRoom hP cols 2).place_if (target = some i) 0).add head
    exact ih ((wide.add tail).place_if _ 1)
      fun d hd => hl d (List.mem_cons_of_mem c (List.mem_of_mem_tail hd))
  | case4 i s c rest _ _ room placed _ ih =>
    have narrow := (h.makeRoom hP cols 1).place_if (target = some i) 0
    exact ih (narrow.add (hP.blank _))
      fun d hd => hl d (List.mem_cons_of_mem c (List.mem_of_mem_tail hd))
  | case5 i s c rest _ _ room placed _ ih =>
    have narrow := (h.makeRoom hP cols 1).place_if (target = some i) 0
    exact ih (narrow.add (hl c List.mem_cons_self)) fun d hd => hl d (List.mem_cons_of_mem c hd)

theorem All.placeBeyond (h : s.All P) (hP : Common P) (cols col : Nat) :
    (s.placeBeyond cols col).All P := by
  fun_induction Cutting.placeBeyond s cols col with
  | case1 s col _ ih => exact ih (h.finishRow hP cols true)
  | case2 => exact ⟨h.rows, h.current⟩

end Cutting

theorem forall_cutLine (hP : Common P) (cols : Nat) {line : List Cell} (hl : ∀ c ∈ line, P c)
    (target : Option Nat) {rows : Array Row} (hr : ∀ r ∈ rows, ∀ c ∈ r.cells, P c) :
    ∀ r ∈ (cutLine cols line target rows).1, ∀ c ∈ r.cells, P c := by
  have start : Cutting.All P { rows := rows } := ⟨hr, fun c hc => absurd hc (Array.not_mem_empty c)⟩
  have cut := start.cells hP cols target 0 hl
  unfold cutLine
  dsimp only
  split
  · exact ((cut.placeBeyond hP cols _).finishRow hP cols false).rows
  · exact (cut.finishRow hP cols false).rows

namespace Joining

/-- The condition holds of every cell of the rows that were cut and of the line being joined. -/
structure All (P : Cell → Prop) (s : Joining) : Prop where
  rows : ∀ r ∈ s.rows, ∀ c ∈ r.cells, P c
  line : ∀ c ∈ s.line.toList, P c

variable {s : Joining}

theorem All.cut (h : s.All P) (hP : Common P) (cols : Nat) {line : List Cell}
    (hl : ∀ c ∈ line, P c) :
    (s.cut cols line).All P := ⟨forall_cutLine hP cols hl s.target h.rows, h.line⟩

theorem All.addRow (h : s.All P) (hP : Common P) (cols : Nat) {row : Row}
    (hr : ∀ c ∈ row.cells, P c) (cursor : Option Nat) : (s.addRow cols row cursor).All P := by
  have joined : (s.extend row cursor).All P := by
    refine ⟨h.rows, fun c hc => ?_⟩
    rw [extend, Array.toList_append] at hc
    rcases List.mem_append.1 hc with hc | hc
    · exact h.line c hc
    · exact hr c (Array.mem_def.2 hc)
  have trimmed : ∀ c ∈ (s.extend row cursor).trimmed, P c := fun c hc =>
    joined.line c ((s.extend row cursor).trimmed_append ▸ List.mem_append_left _ hc)
  rw [addRow_eq]
  dsimp only
  split
  · exact joined
  · have cut := joined.cut hP cols trimmed
    generalize (s.extend row cursor).cut cols _ = next at cut
    refine ⟨?_, fun c hc => absurd hc List.not_mem_nil⟩
    show ∀ r ∈ next.rows.modify _ ({ · with prompt := next.prompt }), ∀ c ∈ r.cells, P c
    exact forall_mem_modify cut.rows fun r hr => cut.rows r (Array.mem_of_getElem? hr)

theorem All.finish (h : s.All P) (hP : Common P) (cols : Nat) : (s.finish cols).All P := by
  unfold Joining.finish
  split
  · exact h
  · exact h.cut hP cols h.line

end Joining

/-- Reflow makes no cells but blanks. -/
theorem forall_rows (hP : Common P) {old : List Row} (hold : ∀ r ∈ old, ∀ c ∈ r.cells, P c)
    (cols : Nat) (cursor : Place) : ∀ r ∈ (rows old cols cursor).1, ∀ c ∈ r.cells, P c := by
  have joined (l : List (Row × Nat)) (hl : ∀ e ∈ l, ∀ c ∈ e.1.cells, P c) (s : Joining)
      (hs : s.All P) :
      (l.foldl (fun s e => s.addRow cols e.1 (if e.2 = cursor.line then some cursor.col else none))
        s).All P := by
    induction l generalizing s with
    | nil => exact hs
    | cons e l ih =>
      exact ih (fun e he => hl e (List.mem_cons_of_mem _ he)) _
        (hs.addRow hP cols (hl e List.mem_cons_self) _)
  have start : Joining.All P {} :=
    ⟨fun r hr => absurd hr (Array.not_mem_empty r), fun c hc => absurd hc List.not_mem_nil⟩
  have all := joined old.zipIdx (fun e he => hold e.1 (List.fst_mem_of_mem_zipIdx he)) {} start
  exact fun r hr => (all.finish hP cols).rows r (Array.mem_def.2 hr)

end Reflow

/-! ## Grids -/

namespace Grid

/-- The condition holds of every cell, in whichever row of the ring. -/
def All (P : Cell → Prop) (g : Grid) : Prop := ∀ r ∈ g.slots, ∀ c ∈ r.cells, P c

variable {P : Cell → Prop} {g : Grid}

theorem All.modifyRow (h : g.All P) (row : Nat) {f : Row → Row}
    (hf : ∀ r, (∀ c ∈ r.cells, P c) → ∀ c ∈ (f r).cells, P c) : (g.modifyRow row f).All P := by
  unfold Grid.modifyRow
  split
  · show ∀ r ∈ g.slots.modify _ fun r => f { r with dirty := true }, ∀ c ∈ r.cells, P c
    exact forall_mem_modify h fun r hr => hf _ (h r (Array.mem_of_getElem? hr))
  · exact h

theorem All.map_slots (h : g.All P) {f : Row → Row} (hf : ∀ r, (f r).cells = r.cells) :
    ({ g with slots := g.slots.map f } : Grid).All P := by
  intro r hr
  obtain ⟨r', hr', rfl⟩ := Array.mem_map.1 hr
  rw [hf]
  exact h r' hr'

/-- What holds of all cells still does when rows are changed one after the other. -/
theorem All.foldl_slots {α : Type} {f : Array Row → α → Array Row} (h : g.All P) (l : List α)
    (hf : ∀ slots, ∀ a ∈ l, (∀ r ∈ slots, ∀ c ∈ r.cells, P c) →
      ∀ r ∈ f slots a, ∀ c ∈ r.cells, P c) :
    ({ g with slots := l.foldl f g.slots } : Grid).All P := by
  show ∀ r ∈ l.foldl f g.slots, ∀ c ∈ r.cells, P c
  have start : ∀ r ∈ g.slots, ∀ c ∈ r.cells, P c := h
  generalize g.slots = slots at start ⊢
  clear h
  induction l generalizing slots with
  | nil => exact start
  | cons a l ih =>
    exact ih (fun slots a ha => hf slots a (List.mem_cons_of_mem _ ha)) _
      (hf slots a List.mem_cons_self start)

theorem forall_reset (hP : ∀ b, P (.blank b)) (r : Row) (background : Color) (seq : Nat) :
    ∀ c ∈ (r.reset background seq).cells, P c := Row.forall_blanks hP _ background

/-- Rows that are moved bring no cells but blanks. -/
theorem keptBetween_all (hP : ∀ b, P (.blank b)) (top bottom : Nat) (background : Color) :
    KeptBetween (All P) top bottom background where
  swap _ _ h r hr := h r ((mem_swapRows ..).1 hr)
  reset _ h := forall_mem_modify h fun r _ => forall_reset hP r background _
  mark _ h := forall_mem_modify (f := fun r => { r with dirty := true }) h fun r hr =>
    h r (Array.mem_of_getElem? hr)

theorem All.shiftUp (h : g.All P) (hP : ∀ b, P (.blank b)) (top bottom n : Nat)
    (background : Color) : (g.shiftUp top bottom n background).All P :=
  (keptBetween_all hP top _ background).shiftUp h n

theorem All.shiftDown (h : g.All P) (hP : ∀ b, P (.blank b)) (top bottom n : Nat)
    (background : Color) : (g.shiftDown top bottom n background).All P :=
  (keptBetween_all hP top _ background).shiftDown h n

theorem All.turn (h : g.All P) (hP : ∀ b, P (.blank b)) (background : Color) :
    (g.turn background).All P :=
  forall_mem_modify h fun r _ => forall_reset hP r background _

theorem All.rotateUp (h : g.All P) (hP : ∀ b, P (.blank b)) (n : Nat) (background : Color) :
    (g.rotateUp n background).All P := by
  have turned (n : Nat) : (Nat.repeat (Grid.turn background) n g).All P := by
    induction n with
    | zero => exact h
    | succ n ih => exact ih.turn hP background
  have followed (g : Grid) (hg : g.All P) (atBottom : Bool) : (g.followView atBottom).All P := by
    unfold Grid.followView
    split
    · exact hg
    · split <;> exact hg
  unfold Grid.rotateUp
  dsimp only
  split
  · exact h
  · refine (followed _ (turned _) _).foldl_slots _ fun slots row _ hslots => ?_
    exact forall_mem_modify hslots fun r hr => hslots r (Array.mem_of_getElem? hr)

theorem All.eraseScrollback (h : g.All P) (hP : ∀ b, P (.blank b)) : g.eraseScrollback.All P :=
  h.foldl_slots (List.range g.history) fun _ _ _ hslots =>
    forall_mem_modify hslots fun r _ => forall_reset hP r _ _

theorem All.clearAll (hP : ∀ b, P (.blank b)) (g : Grid) : g.clearAll.All P := by
  intro r hr
  obtain ⟨i, hi, rfl⟩ := Array.mem_mapIdx.1 hr
  exact forall_reset hP _ _ _

theorem All.new (hP : ∀ b, P (.blank b)) (kind : ScreenKind) (cols rows scrollback : Nat) :
    (new kind cols rows scrollback).All P := by
  intro r hr
  obtain ⟨seq, -, rfl⟩ := Array.mem_map.1 hr
  exact Row.forall_blanks hP _ _

theorem All.lines (h : g.All P) : ∀ r ∈ g.lines, ∀ c ∈ r.cells, P c :=
  fun r hr => h r (mem_slots_of_mem_lines hr)

theorem All.refit (h : g.All P) (hP : Reflow.Common P) (cols : Nat) (reflow : Bool) :
    ∀ r ∈ (g.refit cols reflow).1, ∀ c ∈ r.cells, P c := by
  unfold Grid.refit
  dsimp only
  split
  · exact Reflow.forall_rows hP h.lines cols _
  · intro r hr
    obtain ⟨r', hr', rfl⟩ := List.mem_map.1 hr
    exact Row.forall_fit hP.blank (h.lines r' hr') cols

theorem All.resize (h : g.All P) (hP : Reflow.Common P) (rows cols : Nat) (reflow : Bool) :
    (g.resize rows cols reflow).All P := by
  unfold Grid.resize
  dsimp only
  split
  · exact h
  · have refitted := h.refit hP (max cols 1) reflow
    intro r hr
    rcases mem_ringOf hr with ⟨r', hr', hcells⟩ | ⟨seq, rfl⟩
    · rw [hcells]
      rcases mem_settle (List.mem_of_mem_drop hr') with hr' | rfl
      · exact refitted r' hr'
      · exact Row.forall_blanks hP.blank _ _
    · exact Row.forall_blanks hP.blank _ _

end Grid

end Teletype
