import Mathlib.Order.Bounds.Defs
import Teletype.Proofs.Grid.Editing
import Teletype.Proofs.Terminal.Reachable

/-!
# Jumping between prompts

A jump takes the view to the nearest prompt above or below its top line, wherever in the ring that
line is. Below, the screen is as far as the view goes. Jumping up for as long as there is a prompt
comes to each prompt above the view once, from the lowest to the highest.
-/

namespace Teletype

namespace Grid

variable {kind : ScreenKind} {cols rows n line : Nat} {g g' : Grid}

/-! ## Where the view is -/

theorem capacity_setView (g : Grid) (view : Nat) :
    (g.setView view).capacity = g.capacity := Array.size_map ..

/-- The view is as many lines higher, or at the oldest line. -/
theorem Valid.viewTop_viewUp (h : g.Valid kind cols rows) (n : Nat) :
    (g.viewUp n).1.viewTop = g.viewTop - n := by
  have room := h.room
  have pos := h.rows_pos
  have above := h.view_le
  unfold Grid.viewUp
  dsimp only
  split
  · unfold viewTop
    omega
  · have fits : g.viewDistance + min n (g.history - g.viewDistance) < g.capacity := by omega
    have further :
        (g.setView (g.view + g.capacity - min n (g.history - g.viewDistance))).viewDistance =
        g.viewDistance + min n (g.history - g.viewDistance) := by
      rw [viewDistance, capacity_setView]
      exact distance_back h.offset_lt h.view_lt fits
    show g.history - _ = _
    rw [further]
    unfold viewTop
    omega

/-- The view is as many lines lower, or at the screen. -/
theorem Valid.viewTop_viewDown (h : g.Valid kind cols rows) (n : Nat) :
    (g.viewDown n).1.viewTop = min (g.viewTop + n) g.history := by
  have above := h.view_le
  unfold Grid.viewDown
  dsimp only
  split
  · unfold viewTop
    omega
  · have nearer : (g.setView (g.view + min n g.viewDistance)).viewDistance =
        g.viewDistance - min n g.viewDistance := by
      rw [viewDistance, capacity_setView]
      exact distance_nearer h.offset_lt h.view_lt (Nat.min_le_right _ _)
    show g.history - _ = _
    rw [nearer]
    unfold viewTop
    omega

/-- The top row that is displayed is that of the line at the top of the view. -/
theorem Valid.head?_displayed (h : g.Valid kind cols rows) :
    g.displayed.head? = g.line? g.viewTop := by
  have room := h.room
  have pos := h.rows_pos
  have height := h.rows_eq
  have view := h.view_lt
  have offset := h.offset_lt
  have above := h.view_le
  have slot : g.slotOfLine g.viewTop = g.view := by
    have around : g.offset + g.capacity - g.history + g.viewTop =
        g.offset + g.capacity - g.viewDistance := by
      unfold viewTop
      omega
    rw [slotOfLine, around]
    unfold viewDistance
    rw [mod_of_lt_add (n := g.offset + g.capacity - g.view) (by omega)]
    split <;> rw [mod_of_lt_add (by omega)] <;> split <;> omega
  have top : g.slots[g.view]? = some g.slots[g.view] := Array.getElem?_eq_getElem view
  obtain ⟨below, hrows⟩ : ∃ below, g.rows = below + 1 := ⟨rows - 1, by omega⟩
  have inside : g.viewTop < g.lineCount := by
    unfold viewTop lineCount
    omega
  rw [line?, if_pos inside, slot, displayed, hrows, List.range_succ_eq_map, List.filterMap_cons,
    Nat.add_zero, Nat.mod_eq_of_lt view, top]
  rfl

/-! ## The nearest prompt -/

/-- Prompts stay where they are when the view is moved. -/
theorem isPrompt_setView (g : Grid) (view line : Nat) :
    (g.setView view).isPrompt line = g.isPrompt line := by
  have same : ((g.setView view).line? line).map Row.prompt = (g.line? line).map Row.prompt := by
    have slot : (g.setView view).slotOfLine line = g.slotOfLine line := by
      unfold slotOfLine
      rw [capacity_setView]
      rfl
    show (if line < g.lineCount then (g.slots.map fun r => { r with dirty := true })[_]?
      else none).map Row.prompt = _
    rw [slot, line?]
    split
    · rw [Array.getElem?_map, Option.map_map]
      rfl
    · rfl
  rw [isPrompt, same, isPrompt]

theorem isPrompt_viewUp (g : Grid) (n line : Nat) :
    (g.viewUp n).1.isPrompt line = g.isPrompt line := by
  unfold viewUp
  dsimp only
  split
  · rfl
  · exact g.isPrompt_setView ..

/-- Only lines that exist have prompts. -/
theorem lt_lineCount_of_isPrompt (h : g.isPrompt line = true) : line < g.lineCount := by
  by_contra beyond
  rw [isPrompt, line?, if_neg beyond] at h
  exact Bool.false_ne_true h

/-- The lines above the view on which prompts start. -/
def promptsAbove (g : Grid) : Set Nat := {line | line < g.viewTop ∧ g.isPrompt line = true}

/-- The lines below the top line of the view on which prompts start. -/
def promptsBelow (g : Grid) : Set Nat := {line | g.viewTop < line ∧ g.isPrompt line = true}

/-- Looking down from `n` finds the greatest number below it. -/
theorem find?_reverse_range_eq_some_iff {p : Nat → Bool} {found : Nat} :
    (List.range n).reverse.find? p = some found ↔ IsGreatest {i | i < n ∧ p i = true} found := by
  induction n with
  | zero => simp [IsGreatest]
  | succ n ih =>
    rw [List.range_succ, List.reverse_concat, List.find?_cons]
    cases hp : p n with
    | true =>
      rw [Option.some_inj]
      constructor
      · rintro rfl
        exact ⟨⟨Nat.lt_succ_self _, hp⟩, fun i hi => Nat.le_of_lt_succ hi.1⟩
      · rintro ⟨⟨hlt, -⟩, greatest⟩
        exact Nat.le_antisymm (greatest ⟨Nat.lt_succ_self _, hp⟩) (Nat.le_of_lt_succ hlt)
    | false =>
      have same : {i | i < n + 1 ∧ p i = true} = {i | i < n ∧ p i = true} := by
        ext i
        simp only [Set.mem_ofPred_eq]
        refine and_congr_left fun hi => ⟨fun hlt => ?_, Nat.lt_succ_of_lt⟩
        rcases Nat.lt_succ_iff_lt_or_eq.1 hlt with lt | rfl
        · exact lt
        · rw [hp] at hi
          exact absurd hi Bool.false_ne_true
      rw [same]
      exact ih

theorem promptAbove?_eq_some_iff : g.promptAbove? = some line ↔ IsGreatest g.promptsAbove line :=
  find?_reverse_range_eq_some_iff

theorem promptAbove?_isSome_iff : g.promptAbove?.isSome = true ↔ g.promptsAbove.Nonempty := by
  rw [promptAbove?, List.find?_isSome]
  refine exists_congr fun line => and_congr_left fun _ => ?_
  rw [List.mem_reverse, List.mem_range]

theorem promptBelow?_eq_some_iff : g.promptBelow? = some line ↔ IsLeast g.promptsBelow line := by
  rw [promptBelow?, List.find?_range'_eq_some]
  constructor
  · rintro ⟨found, mem, first⟩
    rw [List.mem_range'_1] at mem
    refine ⟨⟨by omega, found⟩, fun other ⟨below, prompt⟩ => ?_⟩
    by_contra lt
    have none := first other (by omega) (by omega)
    rw [prompt] at none
    exact Bool.false_ne_true none
  · rintro ⟨⟨below, found⟩, least⟩
    have inside := lt_lineCount_of_isPrompt found
    refine ⟨found, List.mem_range'_1.2 (by omega), fun other hother hlt => ?_⟩
    rw [Bool.not_eq_true']
    refine Bool.eq_false_iff.2 fun prompt => ?_
    have le := least ⟨hother, prompt⟩
    omega

theorem promptBelow?_isSome_iff : g.promptBelow?.isSome = true ↔ g.promptsBelow.Nonempty := by
  rw [promptBelow?, List.find?_isSome]
  refine exists_congr fun line => and_congr_left fun prompt => ?_
  have inside := lt_lineCount_of_isPrompt prompt
  rw [List.mem_range'_1]
  omega

/-! ## One jump -/

theorem previousPrompt_snd (g : Grid) : g.previousPrompt.2 = g.promptAbove?.isSome := by
  unfold previousPrompt
  cases g.promptAbove? <;> rfl

theorem nextPrompt_snd (g : Grid) : g.nextPrompt.2 = g.promptBelow?.isSome := by
  unfold nextPrompt
  cases g.promptBelow? <;> rfl

/-- Without a prompt nothing moves. -/
theorem previousPrompt_eq_self (h : g.previousPrompt.2 = false) : g.previousPrompt.1 = g := by
  rw [previousPrompt_snd, Option.isSome_eq_false_iff, Option.isNone_iff_eq_none] at h
  rw [previousPrompt, h]

theorem nextPrompt_eq_self (h : g.nextPrompt.2 = false) : g.nextPrompt.1 = g := by
  rw [nextPrompt_snd, Option.isSome_eq_false_iff, Option.isNone_iff_eq_none] at h
  rw [nextPrompt, h]

/-- A jump up puts the nearest prompt above at the top. -/
theorem Valid.isGreatest_previousPrompt (h : g.Valid kind cols rows)
    (hfound : g.previousPrompt.2 = true) :
    IsGreatest g.promptsAbove g.previousPrompt.1.viewTop := by
  rw [previousPrompt_snd, Option.isSome_iff_exists] at hfound
  obtain ⟨line, found⟩ := hfound
  have nearest := promptAbove?_eq_some_iff.1 found
  have above : line < g.viewTop := nearest.1.1
  have top : g.previousPrompt.1.viewTop = line := by
    rw [Grid.previousPrompt, found]
    dsimp only
    rw [h.viewTop_viewUp]
    omega
  rwa [top]

/-- A jump down puts the nearest prompt below at the top, or the screen if that comes first. -/
theorem Valid.isLeast_nextPrompt (h : g.Valid kind cols rows) (hfound : g.nextPrompt.2 = true) :
    ∃ line, IsLeast g.promptsBelow line ∧ g.nextPrompt.1.viewTop = min line g.history := by
  rw [nextPrompt_snd, Option.isSome_iff_exists] at hfound
  obtain ⟨line, found⟩ := hfound
  have nearest := promptBelow?_eq_some_iff.1 found
  have below : g.viewTop < line := nearest.1.1
  refine ⟨line, nearest, ?_⟩
  rw [Grid.nextPrompt, found]
  dsimp only
  rw [h.viewTop_viewDown, Nat.add_sub_cancel' (Nat.le_of_lt below)]

theorem isPrompt_previousPrompt (g : Grid) (line : Nat) :
    g.previousPrompt.1.isPrompt line = g.isPrompt line := by
  unfold previousPrompt
  split
  · rfl
  · exact g.isPrompt_viewUp ..

/-- After a jump up those prompts are above that were, but for the one at the top. -/
theorem Valid.mem_promptsAbove_iff (h : g.Valid kind cols rows) (hfound : g.previousPrompt.2 = true)
    (line : Nat) : line ∈ g.promptsAbove ↔ line = g.previousPrompt.1.viewTop ∨
      line ∈ g.previousPrompt.1.promptsAbove := by
  obtain ⟨⟨above, prompt⟩, greatest⟩ := h.isGreatest_previousPrompt hfound
  have same : line ∈ g.previousPrompt.1.promptsAbove ↔
      line < g.previousPrompt.1.viewTop ∧ g.isPrompt line = true := by
    rw [← isPrompt_previousPrompt]
    rfl
  rw [same]
  constructor
  · intro mem
    rcases Nat.lt_or_eq_of_le (greatest mem) with lt | top
    · exact .inr ⟨lt, mem.2⟩
    · exact .inl top
  · rintro (rfl | ⟨lt, mem⟩)
    · exact ⟨above, prompt⟩
    · exact ⟨Nat.lt_trans lt above, mem⟩

/-! ## Jumping up again and again -/

/-- Jumping up until there is no prompt any more: the lines that came to the top, in order, and the
grid in the end. -/
inductive Climbs : Grid → List Nat → Grid → Prop
  | stop {g : Grid} : g.previousPrompt.2 = false → Climbs g [] g.previousPrompt.1
  | jump {g last : Grid} {tops : List Nat} : g.previousPrompt.2 = true →
    Climbs g.previousPrompt.1 tops last →
      Climbs g (g.previousPrompt.1.viewTop :: tops) last

/-- Jumping from prompt to prompt comes to an end, as each jump goes up. -/
theorem Valid.exists_climbs (h : g.Valid kind cols rows) : ∃ tops last, Climbs g tops last := by
  induction htop : g.viewTop using Nat.strongRecOn generalizing g with
  | ind top ih =>
    cases hfound : g.previousPrompt.2 with
    | false => exact ⟨_, _, .stop hfound⟩
    | true =>
      have higher : g.previousPrompt.1.viewTop < top :=
        htop ▸ (h.isGreatest_previousPrompt hfound).1.1
      obtain ⟨tops, last, climbs⟩ := ih _ higher h.previousPrompt rfl
      exact ⟨_, _, .jump hfound climbs⟩

/-- Each prompt above comes to the top once, the lowest first. -/
theorem Climbs.tops {tops : List Nat} {last : Grid} (hc : Climbs g tops last)
    (h : g.Valid kind cols rows) :
    tops.Pairwise (· > ·) ∧ ∀ line, line ∈ tops ↔ line ∈ g.promptsAbove := by
  induction hc with
  | @stop g none =>
    rw [previousPrompt_snd, Bool.eq_false_iff, Ne, promptAbove?_isSome_iff] at none
    exact ⟨.nil, fun line => iff_of_false List.not_mem_nil fun mem => none ⟨line, mem⟩⟩
  | @jump g last tops hfound _ ih =>
    obtain ⟨ordered, all⟩ := ih h.previousPrompt
    refine ⟨.cons (fun line mem => ((all line).1 mem).1) ordered, fun line => ?_⟩
    rw [List.mem_cons, all, h.mem_promptsAbove_iff hfound]

/-- A jump up finds a prompt just if there is one above the view, and puts the nearest at the top of
what is displayed. A jump down finds one just if there is one below the top line, and puts the
nearest there, or the first line of the screen. Nothing moves if there is none. Jumping up again and
again comes to an end, and to every prompt above once, from the lowest to the highest. -/
theorem Valid.jumps_nearest (h : g.Valid kind cols rows) :
    ((g.previousPrompt.2 = true ↔ g.promptsAbove.Nonempty) ∧
      (g.previousPrompt.2 = true → IsGreatest g.promptsAbove g.previousPrompt.1.viewTop ∧
        g.previousPrompt.1.displayed.head? = g.previousPrompt.1.line? g.previousPrompt.1.viewTop) ∧
      (g.previousPrompt.2 = false → g.previousPrompt.1 = g)) ∧
    ((g.nextPrompt.2 = true ↔ g.promptsBelow.Nonempty) ∧
      (g.nextPrompt.2 = true →
        (∃ line, IsLeast g.promptsBelow line ∧ g.nextPrompt.1.viewTop = min line g.history) ∧
        g.nextPrompt.1.displayed.head? = g.nextPrompt.1.line? g.nextPrompt.1.viewTop) ∧
      (g.nextPrompt.2 = false → g.nextPrompt.1 = g)) ∧
    (∃ tops last, Climbs g tops last) ∧
    ∀ tops last, Climbs g tops last →
      tops.Pairwise (· > ·) ∧ (∀ line, line ∈ tops ↔ line ∈ g.promptsAbove) := by
  refine ⟨⟨?_, fun hfound => ⟨h.isGreatest_previousPrompt hfound, h.previousPrompt.head?_displayed⟩,
    previousPrompt_eq_self⟩,
      ⟨?_, fun hfound => ⟨h.isLeast_nextPrompt hfound, h.nextPrompt.head?_displayed⟩,
    nextPrompt_eq_self⟩, h.exists_climbs, fun _ _ climbs => climbs.tops h⟩
  · rw [previousPrompt_snd, promptAbove?_isSome_iff]
  · rw [nextPrompt_snd, promptBelow?_isSome_iff]

/-- A shell that prompted before every other of eleven lines, on a screen of two rows with a
scrollback of six, with the view one line back. -/
def prompting : List HostAction :=
  [.feed
    (Text.Utf8.encode ("\x1b]133;A\x07a\r\nb\r\n\x1b]133;A\x07c\r\nd\r\n\x1b]133;A\x07e\r\nf\r\n" ++
      "\x1b]133;A\x07g\r\nh\r\n\x1b]133;A\x07i\r\nj\r\n\x1b]133;A\x07k")) 0, .viewUp 1]

/-- The ring has wrapped around. Jumps up come to the two prompts above the view; a jump down stops
at the screen, where the next prompt is. -/
theorem jumps_nearest_prompting :
    let g := (Terminal.drive { size := ⟨2, 2⟩, scrollback := 6 } prompting).grid
    g.offset < g.history ∧ g.history + g.rows = g.capacity ∧ g.viewTop = 5 ∧
      IsGreatest g.promptsAbove 3 ∧ g.previousPrompt.1.viewTop = 3 ∧
      (∃ line, IsLeast g.promptsBelow line ∧ min line g.history = 6) ∧ g.nextPrompt.1.viewTop = 6 ∧
      ∃ tops last, Climbs g tops last ∧ ∀ line, line ∈ tops ↔ line ∈ g.promptsAbove := by
  intro g
  obtain ⟨⟨-, up, -⟩, ⟨-, down, -⟩, ⟨tops, last, climbs⟩, all⟩ :=
    Valid.jumps_nearest (Terminal.drive_valid { size := ⟨2, 2⟩, scrollback := 6 } prompting).grid
  have above : g.previousPrompt.1.viewTop = 3 := by decide +kernel
  have below : g.nextPrompt.1.viewTop = 6 := by decide +kernel
  obtain ⟨line, least, top⟩ := (down (by decide +kernel)).1
  exact ⟨by decide +kernel, by decide +kernel, by decide +kernel,
    above ▸ (up (by decide +kernel)).1, above, ⟨line, least, top.symm.trans below⟩, below, tops,
    last, climbs, (all tops last climbs).2⟩

end Grid

end Teletype
