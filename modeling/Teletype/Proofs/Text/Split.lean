import Mathlib.Data.List.TakeDrop
import Mathlib.Data.List.TakeWhile
import Teletype.Text.Split

/-!
# What the parts of a text say about it

Cutting loses nothing: a text is its parts with the separators between them, and the parts are the
only ones without a separator that make it up.
-/

namespace Teletype.Text

variable {α : Type} [DecidableEq α] {separator : α} {items : List α}

theorem after?_eq_some_iff {start rest : List α} :
    after? start items = some rest ↔ items = start ++ rest := by
  unfold after?
  split
  · rename_i hprefix
    obtain ⟨tail, rfl⟩ := List.isPrefixOf_iff_prefix.1 hprefix
    rw [List.drop_left, Option.some_inj, List.append_cancel_left_eq]
  · rename_i hprefix
    refine iff_of_false nofun fun heq => hprefix ?_
    exact List.isPrefixOf_iff_prefix.2 ⟨rest, heq.symm⟩

theorem cutAt?_cons (a : α) (rest : List α) : cutAt? separator (a :: rest) =
    if a = separator then some ([], rest)
    else (cutAt? separator rest).map fun parts => (a :: parts.1, parts.2) := by
  unfold cutAt?
  rw [List.span_eq_takeWhile_dropWhile, List.span_eq_takeWhile_dropWhile]
  by_cases ha : a = separator
  · simp [ha]
  · rw [List.takeWhile_cons_of_pos (by simpa using ha),
      List.dropWhile_cons_of_pos (by simpa using ha), if_neg ha]
    cases rest.dropWhile (· ≠ separator) <;> rfl

/-- What stands before the first separator has none. -/
theorem cutAt?_eq_some_iff {before after : List α} : cutAt? separator items = some (before, after) ↔
    items = before ++ separator :: after ∧ separator ∉ before := by
  induction items generalizing before with
  | nil =>
    exact iff_of_false nofun
      fun h => List.append_ne_nil_of_right_ne_nil _ (List.cons_ne_nil _ _) h.1.symm
  | cons a rest ih =>
    rw [cutAt?_cons]
    split
    · rename_i ha
      subst ha
      cases before with
      | nil => simp
      | cons b before =>
        refine iff_of_false (by simp) fun h => ?_
        obtain ⟨rfl, -⟩ := List.cons.inj h.1
        exact h.2 List.mem_cons_self
    · rename_i ha
      cases before with
      | nil => simp [ha]
      | cons b before =>
        rw [Option.map_eq_some_iff]
        simp only [Prod.exists, Prod.mk.injEq, List.cons.injEq, List.cons_append,
          List.mem_cons, not_or]
        constructor
        · rintro ⟨_, _, hcut, ⟨rfl, rfl⟩, rfl⟩
          obtain ⟨hrest, hnone⟩ := ih.1 hcut
          exact ⟨⟨rfl, hrest⟩, fun h => ha h.symm, hnone⟩
        · rintro ⟨⟨rfl, hrest⟩, -, hnone⟩
          exact ⟨before, after, ih.2 ⟨hrest, hnone⟩, ⟨rfl, rfl⟩, rfl⟩

/-! ## All parts -/

theorem splitAfter_eq (done : List (List α)) (part : List α) :
    splitAfter separator done part items =
      done.reverse ++ (items.splitOn separator).modifyHead (part.reverse ++ ·) := by
  induction items generalizing done part with
  | nil => simp [splitAfter]
  | cons a rest ih =>
    have keep : (fun items : List α => items) = id := rfl
    rw [splitAfter, List.splitOn_cons_eq_if_modifyHead]
    split
    · rename_i ha
      rw [ih, if_pos (beq_iff_eq.2 ha)]
      simp [keep]
    · rename_i ha
      rw [ih, if_neg fun h => ha (beq_iff_eq.1 h), List.modifyHead_modifyHead]
      simp [Function.comp_def]

theorem splitAt_eq_splitOn : splitAt separator items = items.splitOn separator := by
  have keep : (fun items : List α => [].reverse ++ items) = id := rfl
  rw [splitAt, splitAfter_eq, keep, List.modifyHead_id]
  rfl

theorem not_mem_of_mem_splitAt {part : List α} (h : part ∈ splitAt separator items) :
    separator ∉ part := by
  rw [splitAt_eq_splitOn] at h
  induction items generalizing part with
  | nil =>
    rw [List.splitOn_nil, List.mem_singleton] at h
    exact h ▸ List.not_mem_nil
  | cons a rest ih =>
    rw [List.splitOn_cons_eq_if_modifyHead] at h
    split at h
    · rcases List.mem_cons.1 h with rfl | h
      · exact List.not_mem_nil
      · exact ih h
    · rename_i ha
      cases hrest : rest.splitOn separator with
      | nil => exact absurd hrest (List.splitOn_ne_nil _ _)
      | cons first more =>
        rw [hrest] at h ih
        rcases List.mem_cons.1 h with rfl | h
        · have other : separator ≠ a := fun h => ha (beq_iff_eq.2 h.symm)
          simpa [other] using ih List.mem_cons_self
        · exact ih (List.mem_cons_of_mem _ h)

/-- The parts between the separators are the parts without a separator that make up the text. -/
theorem splitAt_eq_iff {parts : List (List α)} : splitAt separator items = parts ↔
    parts ≠ [] ∧ (∀ part ∈ parts, separator ∉ part) ∧ [separator].intercalate parts = items := by
  constructor
  · rintro rfl
    refine ⟨?_, fun _ => not_mem_of_mem_splitAt, ?_⟩
    · rw [splitAt_eq_splitOn]
      exact List.splitOn_ne_nil _ _
    · rw [splitAt_eq_splitOn]
      exact List.intercalate_splitOn separator
  · rintro ⟨hne, hnone, rfl⟩
    rw [splitAt_eq_splitOn]
    exact List.splitOn_intercalate separator hnone hne

end Teletype.Text
