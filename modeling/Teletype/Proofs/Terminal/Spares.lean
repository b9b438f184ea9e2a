import Teletype.Proofs.Terminal.Damage

/-!
# The screen that is not in use

Output changes the screen in use only. The other one stays as it is until the screens are exchanged,
whatever is drawn, saved, restored or reset in the meantime.
-/

namespace Teletype.Terminal

/-- Between two states of a terminal the screen in use is the same, and the other one was left
alone. -/
structure Spares (t t' : Terminal) : Prop where
  screen : t'.screen = t.screen
  hidden : t'.hidden = t.hidden

theorem Spares.refl (t : Terminal) : t.Spares t := ⟨rfl, rfl⟩

theorem Spares.trans {t t' t'' : Terminal} (h : t.Spares t') (h' : t'.Spares t'') : t.Spares t'' :=
  ⟨h'.screen.trans h.screen, h'.hidden.trans h.hidden⟩

variable {t t' : Terminal}

/-- On the alternate screen the primary one is left alone. -/
theorem Spares.primary (h : t.Spares t') (ht : t.screen = .alternate) :
    t'.screen = .alternate ∧ t'.primary = t.primary := by
  have screen := h.screen.trans ht
  have hidden := h.hidden
  unfold Terminal.hidden at hidden
  rw [screen, ht] at hidden
  exact ⟨screen, hidden⟩

theorem Spares.of_alters {aspects : List Aspect} (h : t.Alters aspects t')
    (hapart : Aspect.apart [.screen, .hidden] aspects = true) : t.Spares t' :=
  ⟨h.of_apart hapart (a := .screen) (by decide), h.of_apart hapart (a := .hidden) (by decide)⟩

/-! ## Commands -/

/-- While the alternate screen is in use, no mode concerns the other one. -/
theorem spares_setDecMode (ht : t.screen = .alternate) (now : Instant) (on : Bool) (number : Nat)
    (hstays : (setDecMode now on t number).screen = .alternate) :
    t.Spares (setDecMode now on t number) := by
  have enters (save : Bool) : t.Spares (t.enterAlternate save) := by
    rw [enterAlternate, if_pos (by rw [isAlternate, ht]; rfl)]
    exact .refl t
  have leaves {restore : Bool} (hstays : (t.leaveAlternate restore).screen = .alternate) :
      t.Spares (t.leaveAlternate restore) := by
    rw [screen_leaveAlternate] at hstays
    cases hstays
  by_cases h : number ∈ screenNumbers
  · simp only [screenNumbers, List.mem_cons, List.not_mem_nil, or_false] at h
    cases on with
    | true =>
      rcases h with rfl | rfl | rfl | rfl
      · exact enters false
      · exact enters false
      · exact .of_alters t.alters_saveCursor rfl
      · exact enters true
    | false =>
      rcases h with rfl | rfl | rfl | rfl
      · exact leaves hstays
      · exact leaves hstays
      · exact .of_alters t.alters_restoreCursor rfl
      · exact leaves hstays
  · exact .of_alters (t.alters_setDecMode_toggled now on h) rfl

theorem spares_restoreDecMode (ht : t.screen = .alternate) (now : Instant) (number : Nat)
    (hstays : (restoreDecMode now t number).screen = .alternate) :
    t.Spares (restoreDecMode now t number) := by
  unfold restoreDecMode at hstays ⊢
  split at hstays
  · rw [if_pos ‹_›]
    exact .of_alters t.alters_restoreCursor rfl
  · rw [if_neg ‹_›]
    split at hstays
    · exact spares_setDecMode ht now _ number hstays
    · exact .of_alters (t.alters_note ..) rfl

/-- The terminals that a command leads through. One that switches modes can go to the other screen
and back in between. -/
def stages (now : Instant) (t : Terminal) : Command → List Terminal
  | .setDecModes numbers on => numbers.scanl (setDecMode now on) t
  | .restoreDecModes numbers => numbers.scanl (restoreDecMode now) t
  | command => [t.run now command]

/-- Steps that spare the other screen as long as they stay on the alternate one. -/
theorem spares_foldl {α : Type} {f : Terminal → α → Terminal}
    (hf : ∀ t a, t.screen = .alternate → (f t a).screen = .alternate → t.Spares (f t a))
    (l : List α) (hstays : ∀ u ∈ l.scanl f t, u.screen = .alternate) : t.Spares (l.foldl f t) := by
  induction l generalizing t with
  | nil => exact .refl t
  | cons a l ih =>
    rw [List.scanl_cons] at hstays
    have first : (f t a).screen = .alternate :=
      hstays _ (List.mem_cons_of_mem _ (by cases l <;> simp))
    have here : t.screen = .alternate := hstays _ List.mem_cons_self
    exact (hf t a here first).trans (ih fun u hu => hstays u (List.mem_cons_of_mem _ hu))

theorem spares_run (now : Instant) (command : Command)
    (hstays : ∀ u ∈ stages now t command, u.screen = .alternate) :
    t.Spares (t.run now command) := by
  cases command with
  | setDecModes numbers on =>
    exact spares_foldl (fun _ n here hn => spares_setDecMode here now on n hn) numbers hstays
  | restoreDecModes numbers =>
    exact spares_foldl (fun _ n here hn => spares_restoreDecMode here now n hn) numbers hstays
  | hardReset =>
    -- a reset ends on the primary screen
    have ends : t.hardReset.screen = .alternate := hstays _ List.mem_cons_self
    exact nomatch (t.screen_leaveAlternate false).symm.trans ends
  | _ => exact .of_alters (t.alters_run now _) rfl

/-! ## Output -/

/-- The terminals that an action leads through. -/
def passed (now : Instant) (t : Terminal) : Control.Action → List Terminal
  | .execute byte => stages now { t with composeAt := none } (.ofControl byte)
  | .escape s => stages now { t with composeAt := none } (.ofEscape s)
  | .control s => stages now { t with composeAt := none } (.ofSequence s)
  | action => [perform now t action]

theorem spares_perform (now : Instant) (action : Control.Action)
    (hstays : ∀ u ∈ passed now t action, u.screen = .alternate) :
    t.Spares (perform now t action) := by
  have apart : t.Spares { t with composeAt := none } := .of_alters (t.alters_composeAt none) rfl
  cases action with
  | execute | escape | control => exact apart.trans (spares_run now _ hstays)
  | _ => exact .of_alters (t.alters_perform now _) rfl

/-- The terminals that actions lead through. -/
def passedThrough (now : Instant) (t : Terminal) : List Control.Action → List Terminal
  | [] => []
  | action :: actions => passed now t action ++ (perform now t action).passedThrough now actions

theorem spares_foldl_perform (now : Instant) (actions : List Control.Action)
    (hstays : ∀ u ∈ t.passedThrough now actions, u.screen = .alternate) :
    t.Spares (actions.foldl (perform now) t) := by
  induction actions generalizing t with
  | nil => exact .refl t
  | cons action actions ih =>
    have first := spares_perform now action fun u hu => hstays u (List.mem_append_left _ hu)
    exact first.trans (ih fun u hu => hstays u (List.mem_append_right _ hu))

/-- While output is read, the alternate screen is in use all the time. -/
def Stays (now : Instant) (t : Terminal) (bytes : List UInt8) : Prop :=
  ∀ u ∈ (t.reading bytes).passedThrough now (t.decoder.feed bytes).2.toList, u.screen = .alternate

instance (now : Instant) (t : Terminal) (bytes : List UInt8) : Decidable (t.Stays now bytes) :=
  inferInstanceAs (Decidable (∀ u ∈ passedThrough now _ _, u.screen = .alternate))

/-- Output that is read on the alternate screen, without leaving it, leaves the primary one
alone. -/
theorem spares_feed {now : Instant} {bytes : List UInt8} (h : t.Stays now bytes) :
    t.Spares (t.feed bytes now) := by
  have read : t.Spares (t.reading bytes) := .of_alters (t.alters_reading bytes) rfl
  have fed := read.trans (spares_foldl_perform now _ h)
  rw [feed_eq]
  dsimp only
  split
  · exact fed
  · exact fed.trans (.of_alters (alters_schedule ..) rfl)

end Teletype.Terminal
