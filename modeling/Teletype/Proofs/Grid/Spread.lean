import Teletype.Proofs.Grid.LogicalLines
import Teletype.Proofs.Grid.Reflow

/-!
# Lines spread over rows

Laid out on rows, a line keeps its cells one after the other. Only a glyph of two columns that would
start in the last column of a row starts in the next one, and an empty cell takes the column.
Nothing tells that cell from the cells of the line.
-/

namespace Teletype.Reflow

/-- What fills up a row. -/
def padding (n : Nat) : List Cell := List.replicate n {}

theorem padding_append (m n : Nat) : padding m ++ padding n = padding (m + n) :=
  List.replicate_append_replicate

theorem eq_of_mem_padding {n : Nat} {c : Cell} (h : c ∈ padding n) : c = {} :=
  List.eq_of_mem_replicate h

theorem padding_isEmpty (n : Nat) : ∀ c ∈ padding n, c.isEmpty := by
  intro c hc
  rw [eq_of_mem_padding hc]
  rfl

/-- The cells of a line on rows of `cols` columns, where the next cell is the one at index `n`. -/
def spread (cols n : Nat) : List Cell → List Cell
  | [] => []
  | c :: rest =>
    if c.isHead && (n + 1) % cols = 0 then {} :: c :: spread cols (n + 2) rest
    else c :: spread cols (n + 1) rest

/-- No glyph of two columns starts in a last column when the cells start at index `n`. -/
def Seated (cols n : Nat) (cells : List Cell) : Prop :=
  ∀ i c, cells[i]? = some c → c.isHead → (n + i + 1) % cols ≠ 0

/-- Whole glyphs that all have room on a row. -/
structure Fits (cols : Nat) (line : List Cell) : Prop where
  sound : Sound line
  room : ∀ c ∈ line, c.isHead → 2 ≤ cols

variable {cols n : Nat} {line : List Cell}

theorem fits_nil : Fits cols [] := ⟨sound_nil, by simp⟩

theorem Fits.append {more : List Cell} (h : Fits cols line) (hmore : Fits cols more) :
    Fits cols (line ++ more) where
  sound := h.sound.append hmore.sound
  room := by
    intro c hc
    rcases List.mem_append.1 hc with hc | hc
    · exact h.room c hc
    · exact hmore.room c hc

theorem spread_narrow {c : Cell} (hc : c.extent = .narrow) :
    spread cols n (c :: line) = c :: spread cols (n + 1) line := by
  rw [spread, if_neg (by simp [Cell.isHead, hc])]

theorem spread_wide {c d : Cell} (hc : c.extent = .head) (hd : d.extent = .tail) :
    spread cols n (c :: d :: line) =
      let gap := padding (if (n + 1) % cols = 0 then 1 else 0)
      gap ++ c :: d :: spread cols (n + gap.length + 2) line := by
  have tail (m : Nat) : spread cols m (d :: line) = d :: spread cols (m + 1) line := by
    rw [spread, if_neg (by simp [Cell.isHead, hd])]
  rw [spread, tail, tail]
  by_cases hgap : (n + 1) % cols = 0
  · simp [Cell.isHead, hc, hgap, padding]
  · simp [Cell.isHead, hc, hgap, padding]

/-! ## Cells that spread leaves where they are -/

theorem seated_cons {c : Cell} :
    Seated cols n (c :: line) ↔ (c.isHead → (n + 1) % cols ≠ 0) ∧ Seated cols (n + 1) line := by
  constructor
  · intro h
    refine ⟨fun hc => h 0 c rfl hc, fun i d hd hhead => ?_⟩
    have later := h (i + 1) d hd hhead
    rwa [show n + (i + 1) + 1 = n + 1 + i + 1 by omega] at later
  · rintro ⟨first, rest⟩ i d hd hhead
    cases i with
    | zero =>
      obtain rfl : c = d := Option.some.inj hd
      exact first hhead
    | succ i =>
      have later := rest i d hd hhead
      rwa [show n + 1 + i + 1 = n + (i + 1) + 1 by omega] at later

theorem seated_of_narrow (h : ∀ c ∈ line, c.extent = .narrow) : Seated cols n line := by
  intro i c hc hhead
  rw [Cell.isHead, h c (List.mem_of_getElem? hc)] at hhead
  exact absurd hhead (by decide)

theorem Seated.append {more : List Cell} (h : Seated cols n line)
    (hmore : Seated cols (n + line.length) more) : Seated cols n (line ++ more) := by
  intro i c hc hhead
  by_cases hi : i < line.length
  · rw [List.getElem?_append_left hi] at hc
    exact h i c hc hhead
  · rw [List.getElem?_append_right (by omega)] at hc
    have later := hmore _ c hc hhead
    rwa [show n + line.length + (i - line.length) + 1 = n + i + 1 by omega] at later

theorem Seated.mono {start : List Cell} (h : Seated cols n line) (hstart : start <+: line) :
    Seated cols n start := by
  intro i c hc hhead
  have hi : i < start.length := (List.getElem?_eq_some_iff.1 hc).1
  refine h i c ?_ hhead
  rw [← hc, List.prefix_iff_getElem?.1 hstart i hi, List.getElem?_eq_getElem hi]

/-- A whole row more or less before the cells makes no difference. -/
theorem Seated.add_cols (h : Seated cols n line) : Seated cols (n + cols) line := by
  intro i c hc hhead
  have here := h i c hc hhead
  rwa [show n + cols + i + 1 = n + i + 1 + cols by omega, Nat.add_mod_right]

theorem seated_of_valid {row : Row} (h : row.Valid cols) : Seated cols 0 row.cells.toList := by
  intro i c hc hhead
  obtain ⟨d, hd, -⟩ := h.whole.next i c (by rwa [Array.getElem?_toList] at hc) hhead
  have lt := (Array.getElem?_eq_some_iff.1 hd).1
  rw [h.size] at lt
  rw [Nat.mod_eq_of_lt (by omega)]
  omega

/-- In rows of the width, every line is laid out that way already. -/
theorem seated_chains {rows : List Row} (h : ∀ r ∈ rows, r.Valid cols) :
    ∀ line ∈ chains rows, Seated cols 0 line := by
  induction rows with
  | nil => simp [chains]
  | cons row rows ih =>
    have first := seated_of_valid (h row List.mem_cons_self)
    have later := ih fun r hr => h r (List.mem_cons_of_mem _ hr)
    have size : row.cells.toList.length = cols := by
      rw [Array.length_toList]
      exact (h row List.mem_cons_self).size
    intro line hline
    rw [chains] at hline
    split at hline
    · cases hchains : chains rows with
      | nil =>
        rw [hchains, glue, List.mem_singleton] at hline
        exact hline ▸ first
      | cons next lines =>
        rw [hchains] at hline later
        rcases List.mem_cons.1 hline with rfl | hline
        · refine first.append ?_
          rw [size]
          exact (later next List.mem_cons_self).add_cols
        · exact later line (List.mem_cons_of_mem _ hline)
    · rcases List.mem_cons.1 hline with rfl | hline
      · exact first
      · exact later line hline

/-- Only empty cells are added. -/
theorem sublist_spread (cols n : Nat) (line : List Cell) : line.Sublist (spread cols n line) := by
  induction line generalizing n with
  | nil => exact List.Sublist.refl _
  | cons c line ih =>
    rw [spread]
    split
    · exact (List.Sublist.cons_cons c (ih _)).cons _
    · exact List.Sublist.cons_cons c (ih _)

theorem mem_spread {c : Cell} (h : c ∈ spread cols n line) : c ∈ line ∨ c = {} := by
  induction line generalizing n with
  | nil => exact .inl h
  | cons d line ih =>
    have later {m : Nat} (hc : c ∈ spread cols m line) : c ∈ d :: line ∨ c = {} :=
      (ih hc).imp_left (List.mem_cons_of_mem d)
    rw [spread] at h
    split at h
    · rcases List.mem_cons.1 h with rfl | h
      · exact .inr rfl
      · rcases List.mem_cons.1 h with rfl | h
        · exact .inl List.mem_cons_self
        · exact later h
    · rcases List.mem_cons.1 h with rfl | h
      · exact .inl List.mem_cons_self
      · exact later h

theorem spread_eq_self_iff : spread cols n line = line ↔ Seated cols n line := by
  induction line generalizing n with
  | nil => simp [spread, Seated]
  | cons c line ih =>
    rw [spread, seated_cons]
    split
    · rename_i hgap
      rw [Bool.and_eq_true, decide_eq_true_eq] at hgap
      constructor
      · intro heq
        have longer := (sublist_spread cols (n + 2) line).length_le
        have length := congrArg List.length heq
        simp only [List.length_cons] at length
        omega
      · rintro ⟨seated, -⟩
        exact absurd hgap.2 (seated hgap.1)
    · rename_i hgap
      rw [Bool.and_eq_true, decide_eq_true_eq, not_and] at hgap
      rw [List.cons.injEq, ih]
      exact ⟨fun h => ⟨hgap, h.2⟩, fun h => ⟨rfl, h.2⟩⟩

instance (cols n : Nat) (line : List Cell) : Decidable (Seated cols n line) :=
  decidable_of_iff (spread cols n line = line) spread_eq_self_iff

/-! ## Trimming -/

theorem spread_append_narrow {e : List Cell} (he : ∀ c ∈ e, c.extent = .narrow) :
    spread cols n (line ++ e) = spread cols n line ++ e := by
  induction line generalizing n with
  | nil => exact spread_eq_self_iff.2 (seated_of_narrow he)
  | cons c line ih =>
    rw [List.cons_append, spread, spread]
    split
    · rw [ih, List.cons_append, List.cons_append]
    · rw [ih, List.cons_append]

theorem getLast?_spread (cols n : Nat) (line : List Cell) :
    (spread cols n line).getLast? = line.getLast? := by
  induction line generalizing n with
  | nil => rfl
  | cons c line ih =>
    rw [spread]
    split
    · rw [List.getLast?_cons_cons, List.getLast?_cons, List.getLast?_cons, ih]
    · rw [List.getLast?_cons, List.getLast?_cons, ih]

theorem trim_eq_self_iff : trim line = line ↔ ∀ c ∈ line.getLast?, ¬c.isEmpty := by
  rw [trim, List.rdropWhile_eq_self_iff]
  constructor
  · intro h c hc
    obtain ⟨hne, rfl⟩ := List.mem_getLast?_eq_getLast hc
    exact h hne
  · intro h hne
    exact h _ (List.getLast?_eq_some_getLast hne ▸ rfl)

/-- The empty cells at the end stay at the end. -/
theorem trim_spread (cols n : Nat) (h : Sound line) :
    trim (spread cols n line) = spread cols n (trim line) := by
  have parts : trim line ++ line.rtakeWhile Cell.isEmpty = line :=
    List.rdropWhile_append_rtakeWhile
  have empty : ∀ c ∈ line.rtakeWhile Cell.isEmpty, c.isEmpty := fun c hc =>
    List.mem_rtakeWhile_imp hc
  have narrow : ∀ c ∈ line.rtakeWhile Cell.isEmpty, c.extent = .narrow := by
    rw [← parts] at h
    exact (h.of_append empty).2.narrow empty
  have trimmed : trim (trim line) = trim line := List.rdropWhile_idempotent _ _
  calc trim (spread cols n line)
      = trim (spread cols n (trim line) ++ line.rtakeWhile Cell.isEmpty) := by
        rw [← spread_append_narrow narrow, parts]
    _ = trim (spread cols n (trim line)) := trim_append_of_empty empty
    _ = spread cols n (trim line) := by
        rw [trim_eq_self_iff, getLast?_spread, ← trim_eq_self_iff, trimmed]

end Teletype.Reflow
