import Teletype.Proofs.Grid.Page
import Teletype.Proofs.Terminal.Typing
import Teletype.Selection

/-!
# Selecting a page

A selection of all lines has the text of the page that they hold, with a line feed for each blank
row below.
-/

namespace Teletype

namespace Selection

variable {cols rows : Nat} {kind : ScreenKind} {g : Grid} {clusters : Clusters} {p : Page}

/-- All lines of a grid, from the first column to the last. -/
def whole (g : Grid) : Selection := ⟨⟨0, 0⟩, ⟨g.lineCount - 1, g.cols - 1⟩⟩

/-- What a whole row adds to the text of a selection. -/
def rowText (clusters : Clusters) (isLast : Bool) (r : Array Cell × Bool) : List Char :=
  let chars := textOf clusters r.1.toList
  let chars := if !r.2 || isLast then trimSpaces chars else chars
  if !isLast && !r.2 then chars ++ ['\n'] else chars

theorem lineText_whole (h : g.Valid kind cols rows) (clusters : Clusters) {line : Nat} {r : Row}
    (hline : g.line? line = some r) :
    (whole g).lineText g clusters (g.lineCount - 1) line =
      rowText clusters (line = g.lineCount - 1) r.shape := by
  have mem : r ∈ g.lines := by
    refine List.mem_filterMap.2 ⟨line, List.mem_range.2 ?_, hline⟩
    by_contra hbeyond
    rw [Grid.line?, if_neg hbeyond] at hline
    cases hline
  have width : r.cells.size = g.cols := (h.lines r mem).size.trans h.cols_eq.symm
  have positive : g.cols - 1 + 1 = g.cols := Nat.sub_add_cancel (h.cols_eq ▸ h.cols_pos)
  have first : (if line = min 0 (g.lineCount - 1) then min 0 (g.cols - 1) else 0) = 0 := by
    rw [Nat.zero_min, Nat.zero_min, ite_self]
  have last : (if line = g.lineCount - 1 then min (g.cols - 1) (g.cols - 1) else g.cols - 1) =
      g.cols - 1 := by
    rw [Nat.min_self, ite_self]
  unfold lineText whole
  rw [hline]
  dsimp only
  rw [first, last, positive, ← width, Array.extract_size, rowText, decide_not]
  rfl

theorem flatMap_filterMap {α β γ : Type} (f : α → Option β) (k : β → List γ) (l : List α) :
    (l.filterMap f).flatMap k = l.flatMap fun a => (f a).elim [] k := by
  induction l with
  | nil => rfl
  | cons a l ih =>
    rw [List.flatMap_cons, ← ih]
    cases h : f a with
    | none => rw [List.filterMap_cons_none h]; rfl
    | some b => rw [List.filterMap_cons_some h]; rfl

/-- A selection of all lines takes one after the other. -/
theorem text_whole_lines (g : Grid) (clusters : Clusters) {n : Nat} (hn : g.lineCount = n + 1) :
    (whole g).text g clusters = String.ofList
      ((List.range n).flatMap ((whole g).lineText g clusters n) ++
        (whole g).lineText g clusters n n) := by
  have ordered : (whole g).ordered = whole g := by
    rw [Selection.ordered, if_pos]
    unfold whole LinePlace.notAfter
    simp
    omega
  have top : min (whole g).first.line (g.lineCount - 1) = 0 := Nat.zero_min _
  have bottom : min (whole g).last.line (g.lineCount - 1) = n := by
    rw [whole, Nat.min_self, hn, Nat.add_sub_cancel]
  unfold text
  rw [ordered]
  dsimp only
  rw [top, bottom, Nat.sub_zero, ← List.range_eq_range', List.range_succ, List.flatMap_append,
    List.flatMap_singleton]

/-- The text of all lines is that of the rows one after the other. -/
theorem text_whole (h : g.Valid kind cols rows) (clusters : Clusters)
    {before : List (Array Cell × Bool)} {last : Array Cell × Bool}
    (hshapes : g.lines.map Row.shape = before ++ [last]) :
    (whole g).text g clusters =
      String.ofList (before.flatMap (rowText clusters false) ++ rowText clusters true last) := by
  obtain ⟨n, hn⟩ : ∃ n, g.lineCount = n + 1 := by
    have := h.rows_eq
    have := h.rows_pos
    exact ⟨g.lineCount - 1, by unfold Grid.lineCount; omega⟩
  obtain ⟨r, hr⟩ :=
    Option.isSome_iff_exists.1 (Grid.line?_isSome h.capacity_pos (show n < g.lineCount by omega))
  have lines : g.lines = (List.range n).filterMap g.line? ++ [r] := by
    rw [Grid.lines, hn, List.range_succ, List.filterMap_append, List.filterMap_cons_some hr]
    rfl
  rw [lines, List.map_append] at hshapes
  obtain ⟨rfl, hlast⟩ := List.append_inj' hshapes rfl
  obtain rfl : r.shape = last := (List.cons.inj hlast).1
  have above : ∀ line ∈ List.range n, (whole g).lineText g clusters n line =
      (g.line? line).elim [] fun r => rowText clusters false r.shape := by
    intro line hline
    cases hr : g.line? line with
    | none =>
      rw [lineText, hr]
      rfl
    | some r =>
      have text := lineText_whole h clusters hr
      rwa [hn, Nat.add_sub_cancel, decide_eq_false (Nat.ne_of_lt (List.mem_range.1 hline))] at text
  have below := lineText_whole h clusters hr
  rw [hn, Nat.add_sub_cancel, decide_eq_true rfl] at below
  rw [text_whole_lines g clusters hn, below, List.flatMap_map, flatMap_filterMap,
    List.flatMap_congr above]

/-! ## The text of a row -/

/-- Spaces at the end are left out. -/
theorem trimSpaces_eq (chars : List Char) : trimSpaces chars = chars.rdropWhile (· = ' ') := rfl

theorem trimSpaces_append_spaces (chars : List Char) (k : Nat) :
    trimSpaces (chars ++ List.replicate k ' ') = trimSpaces chars := by
  rw [trimSpaces_eq, trimSpaces_eq, Reflow.rdropWhile_append_of_forall]
  intro c hc
  rw [List.eq_of_mem_replicate hc]
  rfl

theorem trimSpaces_of_getLast {chars : List Char} (h : chars.getLast? ≠ some ' ') :
    trimSpaces chars = chars := by
  rw [trimSpaces_eq, List.rdropWhile_eq_self_iff]
  intro hne hlast
  rw [decide_eq_true_eq] at hlast
  rw [List.getLast?_eq_some_getLast hne, hlast] at h
  exact h rfl

theorem textOf_letters (clusters : Clusters) {bytes : List UInt8} (h : ∀ b ∈ bytes, Printable b) :
    textOf clusters (bytes.map letter) = bytes.map letterChar := by
  rw [textOf, List.flatMap_map, List.map_eq_flatMap]
  refine List.flatMap_congr fun b hb => ?_
  obtain ⟨low, high⟩ := printable_iff.1 (h b hb)
  have key : (letter b).key = b.toNat := rfl
  have single : b.toNat < clusterBase := by unfold clusterBase; omega
  have scalar : isScalar b.toNat = true := by simp [isScalar]; omega
  rw [show (letter b).isTail = false from rfl, if_neg Bool.false_ne_true, Clusters.text, key,
    if_neg (by omega), Clusters.resolve?, if_pos single, scalar?, if_pos scalar]
  rfl

theorem textOf_padding (clusters : Clusters) (k : Nat) :
    textOf clusters (Reflow.padding k) = List.replicate k ' ' := by
  have spaces : Reflow.padding k = (List.replicate k 0x20).map letter := by
    rw [List.map_replicate]
    rfl
  have printable : ∀ b ∈ List.replicate k (0x20 : UInt8), Printable b := fun b hb => by
    rw [List.eq_of_mem_replicate hb]
    decide
  rw [spaces, textOf_letters clusters printable, List.map_replicate]
  rfl

/-- The characters of the bytes. -/
theorem textOf_shape (cols : Nat) (clusters : Clusters) {r : List UInt8 × Bool}
    (h : ∀ b ∈ r.1, Printable b) : textOf clusters (Page.shape cols r).1.toList =
      r.1.map letterChar ++ List.replicate (cols - r.1.length) ' ' := by
  rw [← textOf_letters clusters h, ← textOf_padding clusters]
  exact List.flatMap_append

/-- A row of a page adds what was written in it, with a line feed if its line ends there. -/
theorem rowText_shape (clusters : Clusters) {r : List UInt8 × Bool} (h : ∀ b ∈ r.1, Printable b)
    (hfull : r.2 = true → r.1.length = cols) (hended : r.2 = false → r.1.getLast? ≠ some 0x20) :
    rowText clusters false (Page.shape cols r) =
        (if r.2 then r.1 else r.1 ++ [0x0a]).map letterChar ∧
      (r.2 = false → rowText clusters true (Page.shape cols r) = r.1.map letterChar) := by
  have text := textOf_shape cols clusters h
  obtain ⟨bytes, goesOn⟩ := r
  cases goesOn with
  | true =>
    rw [rowText, text, hfull rfl, Nat.sub_self]
    exact ⟨List.append_nil _, nofun⟩
  | false =>
    have trimmed : trimSpaces (textOf clusters (Page.shape cols (bytes, false)).1.toList) =
        bytes.map letterChar := by
      rw [text, trimSpaces_append_spaces, trimSpaces_of_getLast]
      rw [List.getLast?_map]
      intro hspace
      obtain ⟨b, hb, hchar⟩ := Option.map_eq_some_iff.1 hspace
      have number : b.toNat = 0x20 := by
        rw [← toNat_letterChar (h b (List.mem_of_getLast? hb)), hchar]
        rfl
      exact hended rfl (hb.trans (congrArg some (UInt8.toNat_inj.1 number)))
    constructor
    · show trimSpaces _ ++ ['\n'] = _
      rw [trimmed, if_neg Bool.false_ne_true, List.map_append]
      rfl
    · exact fun _ => trimmed

/-- The text of all lines is that of the page that they hold. -/
theorem text_whole_page (h : g.Valid kind cols rows) (clusters : Clusters) (hp : p.Fits cols)
    (hlast : p.row.getLast? ≠ some 0x20) (hshapes : g.lines.map Row.shape = p.shapes cols) :
    (whole g).text g clusters = String.ofList (p.text.map letterChar) := by
  rw [Page.shapes_eq] at hshapes
  have above : (p.above.map (Page.shape cols)).flatMap (rowText clusters false) =
      (p.above.flatMap fun r => if r.2 then r.1 else r.1 ++ [0x0a]).map letterChar := by
    rw [List.flatMap_map, List.map_flatMap]
    exact List.flatMap_congr fun r hr =>
      (rowText_shape clusters (hp.printable r hr) (hp.full r hr) (hp.ended r hr)).1
  have row : rowText clusters true (Page.shape cols (p.row, false)) = p.row.map letterChar :=
    (rowText_shape clusters hp.row_printable (fun h => absurd h Bool.false_ne_true)
      fun _ => hlast).2 rfl
  rw [text_whole h clusters hshapes, above, row, ← List.map_append]
  rfl

end Selection

namespace Grid

variable {cols rows scrollback : Nat} {g : Grid} {p : Page}

/-- What is selected is what was written, and a line feed for each row below. -/
theorem Paged.text_whole (h : g.Paged cols rows scrollback p) (hp : p.Fits cols)
    (hlast : p.row.getLast? ≠ some 0x20) (clusters : Clusters) :
    p.above.length + 1 ≤ g.lineCount ∧
      (Selection.whole g).text g clusters = String.ofList
        (p.text.map letterChar ++ List.replicate (g.lineCount - (p.above.length + 1)) '\n') := by
  obtain ⟨k, hshapes⟩ := h.shapes_eq
  obtain ⟨q, fits, last, shapes, text⟩ := hp.below hlast k
  have length := congrArg List.length hshapes
  rw [List.length_map, Grid.length_lines h.valid.capacity_pos, List.length_append, Page.shapes_eq,
    List.length_append, List.length_map, List.length_singleton, List.length_replicate] at length
  refine ⟨by omega, ?_⟩
  rw [Selection.text_whole_page h.valid clusters fits last (hshapes.trans shapes.symm), text,
    List.map_append, List.map_replicate, length, Nat.add_sub_cancel_left]
  rfl

end Grid

end Teletype
