import Teletype.Clusters
import Teletype.Proofs.Machine.Word

/-!
# Numbers of clusters in machine words

The number of a cluster has twenty bits, wherever the search for it starts.
-/

namespace Teletype.Clusters

open Machine

/-- Looks for a number, and counts the numbers that belong to other clusters. -/
def checkedPlace (table : Clusters) (chars : List Char) : Nat → Nat → Option Place
  | 0, _ => some .crowded
  | tries + 1, number =>
    match table.entries[number]? with
    | none => some (.free number)
    | some cluster =>
      if cluster.chars = chars then some (.taken cluster)
      else do
        let next ← add .u32 number 1
        forget (add .u32 (maxTries - (tries + 1)) 1)
        checkedPlace table chars tries (next % 0x100000)

/-- The key of a cell follows from the number of its cluster. A cluster that is full keeps its
key. -/
def appendSteps (table : Clusters) (key : Nat) (c : Char) : Option Unit :=
  match table.base? key c with
  | none => some ()
  | some (base, start) =>
    when (base.chars.length < maxLength) do
      match ← table.checkedPlace (base.chars ++ [c]) maxTries start with
      | .taken cluster => forget (add .u32 clusterBase cluster.number)
      | .free number => forget (add .u32 clusterBase number)
      | .crowded => some ()

/-- A place in the table has a number of twenty bits. -/
def Place.Bounded : Place → Prop
  | .taken cluster => cluster.number < 0x100000
  | .free number => number < 0x100000
  | .crowded => True

theorem checkedPlace_eq (table : Clusters) (chars : List Char) (tries : Nat) {number : Nat}
    (h : number < 0x100000) :
    table.checkedPlace chars tries number = some (table.place chars tries number) ∧
      (table.place chars tries number).Bounded := by
  induction tries generalizing number with
  | zero => exact ⟨rfl, trivial⟩
  | succ tries ih =>
    have count : maxTries - (tries + 1) ≤ 129 := Nat.sub_le _ _
    unfold checkedPlace place
    cases hentry : table.entries[number]? with
    | none => exact ⟨rfl, h⟩
    | some cluster =>
      dsimp only
      split
      · refine ⟨rfl, ?_⟩
        rw [Place.Bounded, table.keyed number cluster hentry]
        exact h
      · obtain ⟨steps, bounded⟩ := ih (Nat.mod_lt (number + 1) (by decide))
        refine ⟨bind_eq (add_u32 (by omega)) ?_, bounded⟩
        exact bind_eq (forget_of_eq (add_u32 (by omega))) steps

theorem base_bounded {table : Clusters} {key : Nat} {c : Char} {base : Spelling} {start : Nat}
    (h : table.base? key c = some (base, start)) : start < 0x100000 := by
  unfold base? at h
  split at h
  · rw [← (Prod.mk.inj (Option.some.inj h)).2]
    exact Nat.mod_lt _ (by decide)
  · obtain ⟨scalar, -, heq⟩ := Option.map_eq_some_iff.1 h
    rw [← (Prod.mk.inj heq).2]
    exact Nat.mod_lt _ (by decide)

theorem appendSteps_eq (table : Clusters) (key : Nat) (c : Char) :
    table.appendSteps key c = some () := by
  unfold appendSteps
  cases hbase : table.base? key c with
  | none => rfl
  | some found =>
    obtain ⟨base, start⟩ := found
    obtain ⟨steps, bounded⟩ :=
      table.checkedPlace_eq (base.chars ++ [c]) maxTries (base_bounded hbase)
    have offset : clusterBase = 0x40000000 := rfl
    refine when_of_imp fun _ => bind_eq steps ?_
    generalize table.place (base.chars ++ [c]) maxTries _ = found at bounded ⊢
    cases found with
    | taken cluster =>
      have : cluster.number < 0x100000 := bounded
      exact forget_of_eq (add_u32 (by omega))
    | free number =>
      have : number < 0x100000 := bounded
      exact forget_of_eq (add_u32 (by omega))
    | crowded => rfl

end Teletype.Clusters
