import Teletype.Proofs.Control.Commands
import Teletype.Terminal.Run

/-!
# Feeding is a fold

The decoder reads output, and the actions that it completes are performed one after the other.
-/

namespace Teletype.Terminal

/-- The terminal that carries out what the output completes. -/
def reading (t : Terminal) (bytes : List UInt8) : Terminal :=
  let (decoder, reports) := (t.decoder.feed bytes).1.takeReports
  { t with decoder := decoder }.noteAll reports

theorem feed_eq (t : Terminal) (bytes : List UInt8) (now : Instant) :
    t.feed bytes now =
      let fed := (t.decoder.feed bytes).2.toList.foldl (perform now) (t.reading bytes)
      if bytes.isEmpty then fed else { fed with schedule := fed.schedule.onOutput now } := by
  rw [Array.foldl_toList]
  rfl

/-- Output is what it completes and where it leaves the decoder. -/
theorem feed_eq_of_becomes {t : Terminal} {d : Control.Decoder} {bytes bytes' : List UInt8}
    {actions actions' : List Control.Action} {now : Instant} (h : t.decoder.Becomes bytes actions d)
    (h' : t.decoder.Becomes bytes' actions' d) (hempty : bytes.isEmpty = bytes'.isEmpty)
    (hactions : actions.foldl (perform now) (t.reading bytes) =
      actions'.foldl (perform now) (t.reading bytes)) :
    t.feed bytes now = t.feed bytes' now := by
  have read : t.reading bytes = t.reading bytes' := by rw [reading, reading, h.decoder, h'.decoder]
  rw [feed_eq, feed_eq, h.actions, h'.actions, hactions, read, hempty]

/-- What holds when output was read, and is kept by each action that it completes, holds after the
output. When a frame is drawn for it does not matter. -/
theorem feed_induction {p : Terminal → Prop} {t : Terminal} {bytes : List UInt8} {now : Instant}
    (hread : p (t.reading bytes))
    (hperform : ∀ u, p u → ∀ action ∈ (t.decoder.feed bytes).2.toList, p (perform now u action))
    (hdrawn : ∀ u schedule, p u → p { u with schedule := schedule }) : p (t.feed bytes now) := by
  have performed : p ((t.decoder.feed bytes).2.toList.foldl (perform now) (t.reading bytes)) :=
    List.foldlRecOn _ _ hread hperform
  rw [feed_eq]
  dsimp only
  split
  · exact performed
  · exact hdrawn _ _ performed

end Teletype.Terminal
