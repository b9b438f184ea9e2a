import Teletype.Proofs.Config.Override
import Teletype.Proofs.Machine.Drive

/-!
# Overrides and the size of the ring

The rows of the scrollback and of the screen are counted together in a machine word and rounded up
to a power of two. Items cannot give a screen without a cell or with more than sixteen bits count,
but they can ask for a scrollback that no word can count together with the screen. The condition is
exact.
-/

namespace Teletype

open Machine

/-! ## The capacity of a ring -/

namespace Grid

/-- Rounding up does not pass a power of two. -/
theorem nextPowerOfTwo_le_iff {n k : Nat} : nextPowerOfTwo n ≤ 2 ^ k ↔ n ≤ 2 ^ k := by
  constructor
  · exact Nat.le_trans (le_nextPowerOfTwo n)
  · intro hn
    unfold nextPowerOfTwo
    split
    · exact Nat.one_le_two_pow
    · have below : (n - 1).log2 < k := (Nat.log2_lt (by omega)).2 (by omega)
      exact Nat.pow_le_pow_right (by decide) below

/-- Half of the numbers of a word can be rounded up in it. -/
theorem nextPowerOfTwo_le_usize_iff {n : Nat} : nextPowerOfTwo n ≤ Word.usize.max ↔ n ≤ 2 ^ 63 := by
  obtain ⟨k, hk⟩ := isPowerOfTwo_nextPowerOfTwo n
  rw [← nextPowerOfTwo_le_iff, hk]
  show 2 ^ k ≤ 18446744073709551615 ↔ 2 ^ k ≤ 2 ^ 63
  rw [Nat.pow_le_pow_iff_right (by decide)]
  constructor
  · intro fits
    have below : 2 ^ k < 2 ^ 64 := Nat.lt_of_le_of_lt fits (by decide)
    have := (Nat.pow_lt_pow_iff_right (by decide)).1 below
    omega
  · intro hk
    exact Nat.le_trans (Nat.pow_le_pow_right (by decide) hk) (by decide)

theorem checkedCapacityFor_primary (rows scrollback : Nat) :
    checkedCapacityFor .primary rows scrollback = if scrollback + rows ≤ 2 ^ 63
        then some (capacityFor .primary rows scrollback) else none := by
  have rounded : fit .usize (nextPowerOfTwo (scrollback + rows)) =
      if scrollback + rows ≤ 2 ^ 63 then some (capacityFor .primary rows scrollback) else none := by
    unfold fit
    simp only [nextPowerOfTwo_le_usize_iff]
    rfl
  by_cases sum : scrollback + rows ≤ Word.usize.max
  · rw [← rounded]
    show (add .usize scrollback rows >>= fun n => fit .usize (nextPowerOfTwo n)) = _
    rw [add_usize sum]
    rfl
  · have great : ¬scrollback + rows ≤ 2 ^ 63 := fun h => sum (Nat.le_trans h (by decide))
    have stuck : add .usize scrollback rows = none := if_neg sum
    rw [if_neg great]
    show (add .usize scrollback rows >>= fun n => fit .usize (nextPowerOfTwo n)) = none
    rw [stuck]
    rfl

theorem capacity_new (kind : ScreenKind) (cols rows scrollback : Nat) :
    (new kind cols rows scrollback).capacity = capacityFor kind (max rows 1) scrollback :=
  congrArg Format.capacity format_new

end Grid

/-- Both grids can be made just if there is a word for the capacity of the first one. -/
theorem Terminal.checkedNew_eq_ite (config : Config) : checkedNew config =
    if config.scrollback + max config.size.height 1 ≤ 2 ^ 63 then some (.new config) else none := by
  unfold checkedNew Grid.checkedNew
  rw [Grid.checkedCapacityFor_primary]
  split <;> rfl

/-! ## Configurations that items lead to -/

namespace Config

open Text (Numeral.decimal? Numeral.max64)

/-- The default configuration with what the items change. -/
def requested (items : List String) : Config := (({} : Config).overrideAll items).value

/-- The scrollback is what was configured, or what an item asked for. -/
def ScrollbackFrom (items : List String) (before c : Config) : Prop :=
  c.scrollback = before.scrollback ∨ ∃ item ∈ items, ∃ value,
    setting? item = some ("scrollback.lines", value) ∧
    Numeral.decimal? Numeral.max64 value = some c.scrollback

theorem proper_foldl_after {c : Config} (h : c.size.Proper) (items : List String) :
    (items.foldl after c).size.Proper := by
  refine foldl_after_induction (p := (·.size.Proper)) h fun item _ key value _ c c' hc changes => ?_
  cases changes with
  | size named proper => exact proper
  | term | title | appId | scrollback | other => exact hc

theorem scrollbackFrom_foldl_after (c : Config) (items : List String) :
    ScrollbackFrom items c (items.foldl after c) := by
  refine foldl_after_induction (p := ScrollbackFrom items c) (.inl rfl) ?_
  intro item hitem key value named d d' hd changes
  cases changes with
  | scrollback read => exact .inr ⟨item, hitem, value, named, read⟩
  | term | title | appId | size | other => exact hd

/-- Whatever the items are, the screen has a size. A terminal can be made of the configuration just
if the rows of its scrollback and of its screen are at most half of what a word counts, and its
rings have room for them then. Where it cannot be made, an item asked for the scrollback. -/
theorem terminal_made_iff (items : List String) :
    (requested items).size.Proper ∧
      let c := requested items
      let t := Terminal.new c
      t.cols = c.size.width ∧ t.rows = c.size.height ∧
        Terminal.checkedNew c = (if c.scrollback + t.rows ≤ 2 ^ 63 then some t else none) ∧
        c.scrollback + t.rows ≤ t.primary.capacity ∧ t.rows ≤ t.alternate.capacity ∧
        (c.scrollback + t.rows ≤ 2 ^ 63 ∨ ∃ item ∈ items, ∃ value,
          setting? item = some ("scrollback.lines", value) ∧
            Numeral.decimal? Numeral.max64 value = some c.scrollback) := by
  have proper := proper_foldl_after (c := {}) ⟨by decide, by decide, by decide, by decide⟩ items
  have asked := scrollbackFrom_foldl_after {} items
  rw [requested, value_overrideAll]
  generalize items.foldl after {} = c at proper asked ⊢
  refine ⟨proper, ?_⟩
  intro c' t
  have rows : t.rows = max c.size.height 1 := rfl
  have primary : t.primary.capacity = Grid.nextPowerOfTwo (c.scrollback + t.rows) :=
    Grid.capacity_new ..
  have alternate : t.alternate.capacity = t.rows := Grid.capacity_new ..
  have height : max c.size.height 1 = c.size.height := Nat.max_eq_left proper.height_pos
  have width : max c.size.width 1 = c.size.width := Nat.max_eq_left proper.width_pos
  refine ⟨width, height, Terminal.checkedNew_eq_ite c, ?_, ?_, ?_⟩
  · rw [primary]
    exact Grid.le_nextPowerOfTwo _
  · exact Nat.le_of_eq alternate.symm
  · rcases asked with default | asked
    · left
      have small := proper.height_le
      have lines : c.scrollback = 1000 := default
      rw [rows, height, lines]
      omega
    · exact .inr asked

/-- A scrollback that a word can hold, but not together with the screen; and one whose sum with the
screen is in a word, but not rounded up. -/
theorem terminal_unmade :
    let most := requested ["scrollback.lines=18446744073709551615"]
    let half := requested ["scrollback.lines=9223372036854775808"]
    Machine.add .usize most.scrollback most.size.height = none ∧ Terminal.checkedNew most = none ∧
      Machine.add .usize half.scrollback half.size.height = some (2 ^ 63 + 24) ∧
      Terminal.checkedNew half = none := by
  simp only [Terminal.checkedNew_eq_ite]
  decide +kernel

end Config

end Teletype
