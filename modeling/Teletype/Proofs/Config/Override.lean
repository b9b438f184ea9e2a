import Teletype.Config.Override
import Teletype.Proofs.Text.Numeral

/-!
# What an override changes

An item names a setting and gives it a value. What it can change is said once, one case for each
kind of setting, and what a list of items leaves behind follows from what each of them keeps.
-/

namespace Teletype

open Text

/-- A size that sixteen bits hold, with at least one column and row. -/
structure Size.Proper (s : Size) : Prop where
  width_pos : 1 ≤ s.width
  width_le : s.width ≤ 65535
  height_pos : 1 ≤ s.height
  height_le : s.height ≤ 65535

namespace Config

variable {c c' : Config} {key value : String} {items : List String}

/-- The setting that an item names and the value that it gives it. -/
def setting? (item : String) : Option (String × String) :=
  (cutAt? '=' item.toList).map
    fun parts => (String.ofList (trim parts.1), String.ofList (trim parts.2))

/-! ## One setting -/

/-- What a setting changes when it is given a value. -/
inductive Changes (c : Config) : String → String → Config → Prop where
  | term (value : String) : Changes c "term" value { c with term := value }
  | title (value : String) : Changes c "title" value { c with title := some value }
  | appId (value : String) : Changes c "app-id" value { c with appId := some value }
  | scrollback {value : String} {n : Nat} (read : Numeral.decimal? Numeral.max64 value = some n) :
      Changes c "scrollback.lines" value { c with scrollback := n }
  | size {key value : String} {size : Size} (named : key ∉ ["term", "title", "app-id"])
    (proper : size.Proper) :
      Changes c key value { c with size := size }
  /-- No setting but those above changes a text, the scrollback or the size. -/
  | other {key value : String} (named : key ∉ ["term", "title", "app-id"])
      (lowerDelay upperDelay : Nat) (shaping : Bool) (widthMethod : WidthMethod) (sixel : Bool)
      (cursorShape : CursorShape) (cursorBlink : Bool) (windowMode : WindowMode) :
      Changes c key value
        { c with
          lowerDelay, upperDelay, shaping, widthMethod, sixel
          cursorShape, cursorBlink, windowMode }

theorem proper_of_readSize? {s : Size} (h : readSize? value = some s) : s.Proper := by
  simp only [readSize?, Option.bind_eq_bind, Option.bind_eq_some_iff] at h
  obtain ⟨⟨width, height⟩, -, w, hw, h', hh, h⟩ := h
  split at h
  · rename_i positive
    simp only [Bool.and_eq_true, decide_eq_true_eq] at positive
    cases h
    exact ⟨positive.1, Numeral.le_of_read? (by decide) hw, positive.2,
      Numeral.le_of_read? (by decide) hh⟩
  · cases h

/-- At least one cell fits in a window of any size. -/
theorem proper_cellsIn {pixels : Size} (h : pixels.Proper) : (c.cellsIn pixels).Proper := by
  have fewer (n d : Nat) (hn : n ≤ 65535) : max (n / d) 1 ≤ 65535 :=
    Nat.max_le.2 ⟨Nat.le_trans (Nat.div_le_self n d) hn, by decide⟩
  exact ⟨Nat.le_max_right _ _, fewer _ _ h.width_le, Nat.le_max_right _ _, fewer _ _ h.height_le⟩

theorem changes_of_set? (h : c.set? key value = some c') : c.Changes key value c' := by
  unfold set? at h
  split at h
  case h_1 => cases h; exact .term value
  case h_2 =>
    obtain ⟨n, read, rfl⟩ := Option.map_eq_some_iff.1 h
    exact .scrollback read
  case h_10 => cases h; exact .title value
  case h_11 => cases h; exact .appId value
  case h_12 =>
    obtain ⟨s, read, rfl⟩ := Option.map_eq_some_iff.1 h
    exact .size (by decide) (proper_of_readSize? read)
  case h_13 =>
    obtain ⟨s, read, rfl⟩ := Option.map_eq_some_iff.1 h
    exact .size (by decide) (proper_cellsIn (proper_of_readSize? read))
  case h_15 => cases h
  all_goals
    obtain ⟨v, -, rfl⟩ := Option.map_eq_some_iff.1 h
    exact .other (by decide) ..

/-! ## Lists of items -/

/-- The configuration after an item changed what it can change. -/
def after (c : Config) (item : String) : Config :=
  match setting? item with
  | some (key, value) => (c.set? key value).getD c
  | none => c

theorem value_overrideItem (c : Config) (item : String) :
    (c.overrideItem item).value = c.after item := by
  unfold overrideItem after setting?
  cases cutAt? '=' item.toList with
  | none => rfl
  | some parts =>
    show (c.override _ _).value.1 = (c.set? _ _).getD c
    unfold override
    split <;> simp [*]

theorem value_overrideAll (c : Config) (items : List String) :
    (c.overrideAll items).value = items.foldl after c := by
  induction items generalizing c with
  | nil => rfl
  | cons item items ih =>
    show ((c.overrideItem item).value.overrideAll items).value = _
    rw [ih, value_overrideItem, List.foldl_cons]

/-- What every change that the items can make keeps is there in the end. -/
theorem foldl_after_induction {p : Config → Prop} (h : p c)
    (hchange : ∀ item ∈ items, ∀ key value, setting? item = some (key, value) →
      ∀ c c', p c → c.Changes key value c' → p c') : p (items.foldl after c) := by
  refine List.foldlRecOn items after h fun c hc item hitem => ?_
  unfold after
  split
  · rename_i key value named
    cases set : c.set? key value with
    | none => exact hc
    | some c' => exact hchange item hitem key value named c c' hc (changes_of_set? set)
  · exact hc

end Config

end Teletype
