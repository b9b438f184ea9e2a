import Teletype.Text.Property.Extend
import Teletype.Text.Property.Width

/-!
# The width of a character

How many columns a character takes on a terminal: none, one or two.
-/

namespace Teletype.Text

/-- The C0 and C1 controls and DEL. -/
def isControl (c : Char) : Bool :=
  c.toNat < 0x20 || (0x7f ≤ c.toNat && c.toNat < 0xa0)

/-- The columns that a character takes: none for a control or a mark, else one or two. -/
def displayWidth (c : Char) : Nat :=
  if isControl c then 0
  else if c.toNat < 0x7f then 1
  else if Property.wide.contains c then 2
  else if Property.graphemeExtend.contains c || Property.zeroWidth.contains c then 0
  else 1

/-! ## What proofs rely on

The widths come from tables. What is proved of terminals rests on no more of them than these three
facts.
-/

theorem displayWidth_le_two (c : Char) : displayWidth c ≤ 2 := by
  unfold displayWidth
  repeat' split
  all_goals omega

theorem displayWidth_null : displayWidth '\x00' = 0 := by decide

theorem displayWidth_ascii {c : Char} (low : 0x20 ≤ c.toNat) (high : c.toNat < 0x7f) :
    displayWidth c = 1 := by
  have printable : isControl c = false := by
    simp [isControl]
    omega
  rw [displayWidth, printable, if_neg Bool.false_ne_true, if_pos high]

end Teletype.Text
