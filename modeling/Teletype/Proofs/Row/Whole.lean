import Mathlib.Tactic.Common
import Teletype.Row

/-!
# Whole glyphs

A glyph of two columns is a left half and, right after it, a right half. A row is in order when no
half stands alone. Two other forms of this are easier to work with: one column at a time, through
the extent of every column (`whole_iff_paired`), and from the left, one glyph after the other
(`whole_iff_glyphs`).
-/

namespace Teletype.Row

/-- No half of a glyph stands alone. -/
structure Whole (cells : Array Cell) : Prop where
  next : ∀ i c, cells[i]? = some c → c.isHead = true → ∃ d, cells[i + 1]? = some d ∧ d.isTail = true
  before : ∀ i c, cells[i]? = some c → c.isTail = true →
    ∃ j d, i = j + 1 ∧ cells[j]? = some d ∧ d.isHead = true

/-- How much of a glyph a column shows. Columns beyond the last one are narrow. -/
def extentAt (cells : Array Cell) (i : Nat) : Extent := (cells[i]?.map Cell.extent).getD .narrow

/-- Left halves stand exactly before right halves. -/
structure Paired (extent : Nat → Extent) : Prop where
  zero : extent 0 ≠ .tail
  pair : ∀ i, extent i = .head ↔ extent (i + 1) = .tail

/-- Cells that are glyphs, one after the other. -/
inductive Glyphs : List Cell → Prop
  | nil : Glyphs []
  | narrow {c l} : c.extent = .narrow → Glyphs l → Glyphs (c :: l)
  | wide {c d l} : c.extent = .head → d.extent = .tail → Glyphs l → Glyphs (c :: d :: l)

theorem extentAt_eq {cells : Array Cell} {i : Nat} {e : Extent} (he : e ≠ .narrow) :
    extentAt cells i = e ↔ ∃ c, cells[i]? = some c ∧ c.extent = e := by
  unfold extentAt
  cases cells[i]? with
  | none => simp [he.symm]
  | some c => simp

theorem extentAt_of_le {cells : Array Cell} {i : Nat} (h : cells.size ≤ i) :
    extentAt cells i = .narrow := by
  simp [extentAt, Array.getElem?_eq_none h]

theorem whole_iff_paired {cells : Array Cell} : Whole cells ↔ Paired (extentAt cells) := by
  have head (i) : extentAt cells i = .head ↔ ∃ c, cells[i]? = some c ∧ c.extent = .head :=
    extentAt_eq (by decide)
  have tail (i) : extentAt cells i = .tail ↔ ∃ c, cells[i]? = some c ∧ c.extent = .tail :=
    extentAt_eq (by decide)
  constructor
  · intro h
    have next := h.next
    have before := h.before
    simp only [Cell.isHead, Cell.isTail, decide_eq_true_eq] at next before
    constructor
    · intro h0
      obtain ⟨c, hc, ht⟩ := (tail 0).1 h0
      obtain ⟨j, d, hj, -⟩ := before 0 c hc ht
      omega
    · intro i
      rw [head, tail]
      constructor
      · rintro ⟨c, hc, hh⟩
        exact next i c hc hh
      · rintro ⟨c, hc, ht⟩
        obtain ⟨j, d, hj, hd⟩ := before (i + 1) c hc ht
        obtain rfl : i = j := by omega
        exact ⟨d, hd⟩
  · intro h
    constructor
    · intro i c hc hh
      have hi : extentAt cells i = .head := (head i).2 ⟨c, hc, by simpa [Cell.isHead] using hh⟩
      simpa [Cell.isTail] using (tail (i + 1)).1 ((h.pair i).1 hi)
    · intro i c hc ht
      have hi : extentAt cells i = .tail := (tail i).2 ⟨c, hc, by simpa [Cell.isTail] using ht⟩
      cases i with
      | zero => exact absurd hi h.zero
      | succ j =>
        obtain ⟨d, hd, hh⟩ := (head j).1 ((h.pair j).2 hi)
        exact ⟨j, d, rfl, hd, by simpa [Cell.isHead] using hh⟩

theorem Paired.of_eq {e e' : Nat → Extent} (h : Paired e) (heq : ∀ i, e' i = e i) : Paired e' := by
  rwa [funext heq]

theorem paired_of_narrow {e : Nat → Extent} (h : ∀ i, e i = .narrow) : Paired e :=
  ⟨by simp [h], by simp [h]⟩

theorem Glyphs.append {a b : List Cell} (ha : Glyphs a) (hb : Glyphs b) : Glyphs (a ++ b) := by
  induction ha with
  | nil => exact hb
  | narrow hc _ ih => exact .narrow hc ih
  | wide hc hd _ ih => exact .wide hc hd ih

theorem glyphs_of_narrow {l : List Cell} (h : ∀ c ∈ l, c.extent = .narrow) : Glyphs l := by
  induction l with
  | nil => exact .nil
  | cons c l ih =>
    exact .narrow (h c (by simp)) (ih fun d hd => h d (List.mem_cons_of_mem _ hd))

/-- Glyphs can be parted before any cell that is no right half. -/
theorem Glyphs.of_append {a b : List Cell} (h : Glyphs (a ++ b))
    (hb : ∀ c ∈ b.head?, c.extent ≠ .tail) : Glyphs a ∧ Glyphs b := by
  generalize hl : a ++ b = l at h
  induction h generalizing a with
  | nil =>
    obtain ⟨rfl, rfl⟩ := List.append_eq_nil_iff.1 hl
    exact ⟨.nil, .nil⟩
  | @narrow c l hc hg ih =>
    cases a with
    | nil => exact ⟨.nil, by rw [List.nil_append] at hl; exact hl ▸ .narrow hc hg⟩
    | cons x a =>
      obtain ⟨rfl, rfl⟩ := List.cons.inj hl
      obtain ⟨ha, hb'⟩ := ih rfl
      exact ⟨.narrow hc ha, hb'⟩
  | @wide c d l hc hd hg ih =>
    cases a with
    | nil => exact ⟨.nil, by rw [List.nil_append] at hl; exact hl ▸ .wide hc hd hg⟩
    | cons x a =>
      obtain ⟨rfl, hrest⟩ := List.cons.inj hl
      cases a with
      | nil =>
        obtain rfl : b = d :: l := hrest
        exact absurd hd (hb d (by simp))
      | cons y a =>
        obtain ⟨rfl, rfl⟩ := List.cons.inj hrest
        obtain ⟨ha, hb'⟩ := ih rfl
        exact ⟨.wide hc hd ha, hb'⟩

theorem Paired.glyphs {l : List Cell} (h : Paired (extentAt l.toArray)) : Glyphs l := by
  match l with
  | [] => exact .nil
  | c :: l =>
    have here : extentAt (c :: l).toArray 0 = c.extent := by simp [extentAt]
    have rest (i) : extentAt (c :: l).toArray (i + 1) = extentAt l.toArray i := by simp [extentAt]
    have shifted : ∀ i, extentAt l.toArray i = .head ↔ extentAt l.toArray (i + 1) = .tail := by
      intro i
      rw [← rest, ← rest]
      exact h.pair (i + 1)
    have next := h.pair 0
    rw [rest, here] at next
    cases hc : c.extent with
    | tail => exact absurd (here.trans hc) h.zero
    | narrow =>
      have hl : Paired (extentAt l.toArray) := ⟨fun ht => by simp [hc, ht] at next, shifted⟩
      exact .narrow hc hl.glyphs
    | head =>
      match l with
      | [] => simp [hc, extentAt] at next
      | d :: l =>
        have hd : d.extent = .tail := by simpa [hc, extentAt] using next
        have skip (i) : extentAt (d :: l).toArray (i + 1) = extentAt l.toArray i := by
          simp [extentAt]
        have hl : Paired (extentAt l.toArray) := by
          constructor
          · rw [← skip, ne_eq, ← shifted]
            simp [extentAt, hd]
          · intro i
            rw [← skip, ← skip]
            exact shifted (i + 1)
        exact .wide hc hd hl.glyphs
termination_by l.length

theorem Glyphs.paired {l : List Cell} (h : Glyphs l) : Paired (extentAt l.toArray) := by
  induction h with
  | nil => exact paired_of_narrow (by simp [extentAt])
  | @narrow c l hc _ ih =>
    constructor
    · simp [extentAt, hc]
    · intro i
      cases i with
      | zero => simpa [extentAt, hc] using ih.zero
      | succ i => simpa [extentAt] using ih.pair i
  | @wide c d l hc hd _ ih =>
    constructor
    · simp [extentAt, hc]
    · intro i
      match i with
      | 0 => simp [extentAt, hc, hd]
      | 1 => simpa [extentAt, hd] using ih.zero
      | i + 2 => simpa [extentAt] using ih.pair i

theorem whole_iff_glyphs {cells : Array Cell} : Whole cells ↔ Glyphs cells.toList := by
  rw [whole_iff_paired]
  exact ⟨Paired.glyphs, Glyphs.paired⟩

end Teletype.Row
