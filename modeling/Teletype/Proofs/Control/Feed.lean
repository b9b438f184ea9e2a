import Teletype.Control.Decoder

/-!
# Feeding the decoder is a fold

What the bytes complete depends on the state and on whether images are read, and reading on adds to
what was completed before.
-/

namespace Teletype.Control.Decoder

/-- Reports leave the machine as it is. -/
theorem note_eq (d : Decoder) (notice : Option DecoderNotice) :
    (d.note notice).state = d.state ∧ (d.note notice).sixel = d.sixel := by
  unfold note
  split
  · exact ⟨rfl, rfl⟩
  · split
    · split <;> exact ⟨rfl, rfl⟩
    · exact ⟨rfl, rfl⟩

theorem sixel_step (d : Decoder) (b : UInt8) : (d.step b).1.sixel = d.sixel := (note_eq _ _).2

/-- What a byte completes depends on the state and on whether images are read. -/
theorem step_congr {d d' : Decoder} (hstate : d.state = d'.state) (hsixel : d.sixel = d'.sixel)
    (b : UInt8) : (d.step b).2 = (d'.step b).2 ∧ (d.step b).1.state = (d'.step b).1.state := by
  unfold step
  dsimp only
  rw [(note_eq _ _).1, (note_eq _ _).1, hstate, hsixel]
  exact ⟨rfl, rfl⟩

/-- Reading on adds to what was completed before. -/
theorem foldl_advance (d : Decoder) (actions : Array Action) (bytes : List UInt8) :
    bytes.foldl advance (d, actions) = ((d.feed bytes).1, actions ++ (d.feed bytes).2) := by
  induction bytes generalizing d actions with
  | nil => simp [feed]
  | cons b bytes ih =>
    have first (actions : Array Action) : (b :: bytes).foldl advance (d, actions) =
        (((d.step b).1.feed bytes).1, actions ++ (d.step b).2 ++ ((d.step b).1.feed bytes).2) :=
      ih (d.step b).1 (actions ++ (d.step b).2)
    rw [feed, first, first]
    refine Prod.ext rfl ?_
    rw [← Array.toList_inj]
    simp

theorem feed_cons (d : Decoder) (b : UInt8) (bytes : List UInt8) :
    (d.feed (b :: bytes)).1 = ((d.step b).1.feed bytes).1 ∧
      (d.feed (b :: bytes)).2.toList = (d.step b).2 ++ ((d.step b).1.feed bytes).2.toList := by
  have run : d.feed (b :: bytes) = (((d.step b).1.feed bytes).1, (#[] ++ (d.step b).2) ++
      ((d.step b).1.feed bytes).2) := foldl_advance (d.step b).1 (#[] ++ (d.step b).2) bytes
  rw [run]
  exact ⟨rfl, by simp⟩

/-- Output in two parts is output in one. -/
theorem feed_append (d : Decoder) (first rest : List UInt8) :
    d.feed (first ++ rest) =
      (((d.feed first).1.feed rest).1, (d.feed first).2 ++ ((d.feed first).1.feed rest).2) := by
  show (first ++ rest).foldl advance (d, #[]) = _
  rw [List.foldl_append]
  exact foldl_advance (d.feed first).1 (d.feed first).2 rest

theorem sixel_feed (d : Decoder) (bytes : List UInt8) : (d.feed bytes).1.sixel = d.sixel := by
  induction bytes generalizing d with
  | nil => rfl
  | cons b bytes ih => rw [(feed_cons d b bytes).1, ih, sixel_step]

theorem feed_congr {d d' : Decoder} (hstate : d.state = d'.state) (hsixel : d.sixel = d'.sixel)
    (bytes : List UInt8) : (d.feed bytes).2.toList = (d'.feed bytes).2.toList ∧
      (d.feed bytes).1.state = (d'.feed bytes).1.state := by
  induction bytes generalizing d d' with
  | nil => exact ⟨rfl, hstate⟩
  | cons b bytes ih =>
    obtain ⟨hactions, hstate'⟩ := step_congr hstate hsixel b
    obtain ⟨hrest, hend⟩ := ih hstate' (by rw [sixel_step, sixel_step, hsixel])
    rw [(feed_cons d b bytes).1, (feed_cons d b bytes).2, (feed_cons d' b bytes).1,
      (feed_cons d' b bytes).2]
    exact ⟨by rw [hactions, hrest], hend⟩

end Teletype.Control.Decoder
