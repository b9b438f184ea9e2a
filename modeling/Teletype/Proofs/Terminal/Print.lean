import Teletype.Terminal.Print

/-!
# The steps of printing

What printing comes down to: lines are wrapped to make room, a character joins the one before it or
gets a cell of its own, and a repeated character is printed again and again.
-/

namespace Teletype.Terminal

theorem cursorAfter_row (row next cols : Nat) : (cursorAfter row next cols).row = row := by
  unfold cursorAfter
  split <;> rfl

/-- What no line that is wrapped changes is there after room was made. -/
theorem makeRoom_induction {p : Terminal → Prop} (hwrap : ∀ t, p t → p t.wrapLine) {t : Terminal}
    (h : p t) (width : Nat) : p (t.makeRoom width).1 := by
  have wrapped : p (if t.cursor.pendingWrap && t.modes.dec.autowrap then t.wrapLine else t) := by
    split
    · exact hwrap t h
    · exact h
  unfold makeRoom
  dsimp only
  generalize (if t.cursor.pendingWrap && t.modes.dec.autowrap then t.wrapLine else t) =
    t' at wrapped ⊢
  split
  · split
    · exact hwrap t' wrapped
    · exact wrapped
  · exact wrapped

/-- A character that is printed joins the one before it, is dropped, or gets a cell of its own. -/
theorem print_cases (t : Terminal) (c : Char) :
    let u : Terminal := { t with charsets := (t.charsets.translate c).1 }
    (∃ row col c', t.composeAt = some (row, col) ∧
      u.attaches row col c' (Text.displayWidth c') = true ∧
        t.print c = u.compose row col c') ∨
      t.print c = u ∨
      ∃ c', Text.displayWidth c' ≠ 0 ∧ t.print c = u.printGlyph c' (Text.displayWidth c') := by
  intro u
  unfold print
  dsimp only
  split
  · rename_i row col hjoined
    split at hjoined
    · rename_i hat
      split at hjoined
      · rename_i hattaches
        obtain ⟨rfl, rfl⟩ := Prod.mk.inj (Option.some.inj hjoined)
        exact .inl ⟨_, _, _, hat, hattaches, rfl⟩
      · exact absurd hjoined nofun
    · exact absurd hjoined nofun
  · split
    · exact .inr (.inl rfl)
    · rename_i hwidth
      exact .inr (.inr ⟨_, hwidth, rfl⟩)

/-- What no glyph that is printed changes is there after a character was repeated. -/
theorem repeatLast_induction {p : Terminal → Prop}
    (hprint : ∀ t c, Text.displayWidth c ≠ 0 → p t → p (t.printGlyph c (Text.displayWidth c)))
    {t : Terminal} (h : p t) (n : Nat) : p (t.repeatLast n) := by
  unfold repeatLast
  split
  · exact h
  · rename_i c _
    dsimp only
    split
    · exact h
    · rename_i hwidth
      induction n with
      | zero => exact h
      | succ n ih => exact hprint _ c hwidth ih

end Teletype.Terminal
