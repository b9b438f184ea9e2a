import Mathlib.Data.List.Lex
import Teletype.Capability

/-!
# Looking a capability up

Halving finds in a sorted table what stands there under a name, and the table of capabilities is
sorted.
-/

namespace Teletype.Capability

open Text.Utf8 (encode)

/-- Names are in the order of their bytes. -/
theorem precedes_iff {a b : List UInt8} :
    precedes a b = true ↔ a.map UInt8.toNat < b.map UInt8.toNat := by
  induction a generalizing b with
  | nil =>
    cases b with
    | nil => exact iff_of_false nofun (lt_irrefl _)
    | cons y b => exact iff_of_true rfl (List.nil_lt_cons _ _)
  | cons x a ih =>
    cases b with
    | nil => exact iff_of_false nofun (List.not_lt_nil _)
    | cons y b =>
      rw [precedes, List.map_cons, List.map_cons, List.cons_lt_cons_iff, ← ih]
      simp [UInt8.lt_iff_toNat_lt, ← UInt8.toNat_inj]

/-- Each entry's name comes before those of the entries after it. -/
def Sorted (entries : List (String × Capability)) : Prop :=
  entries.Pairwise fun e f => precedes (encode e.1) (encode f.1) = true

section

variable {entries : Array (String × Capability)} {name : List UInt8} {value : Capability}
    {lo hi : Nat}

/-- An entry stands under the name in a part of the table. -/
def Within (entries : Array (String × Capability)) (name : List UInt8) (value : Capability)
    (lo hi : Nat) : Prop :=
  ∃ i entry, lo ≤ i ∧ i < hi ∧ entries[i]? = some (entry, value) ∧ encode entry = name

/-- The names of two entries are ordered as their places. -/
theorem Sorted.lt (h : Sorted entries.toList) {i j : Nat} {e f : String × Capability}
    (hi : entries[i]? = some e) (hj : entries[j]? = some f) (hij : i < j) :
    (encode e.1).map UInt8.toNat < (encode f.1).map UInt8.toNat := by
  obtain ⟨_, rfl⟩ := Array.getElem?_eq_some_iff.1 hi
  obtain ⟨_, rfl⟩ := Array.getElem?_eq_some_iff.1 hj
  exact precedes_iff.1 (List.pairwise_iff_getElem.1 h i j _ _ hij)

/-- Under a name before that of an entry nothing stands from that entry on. -/
theorem Sorted.within_lower (h : Sorted entries.toList) {mid : Nat} {e : String × Capability}
    (hmid : entries[mid]? = some e) (hle : mid ≤ hi) (hname : precedes name (encode e.1) = true) :
    Within entries name value lo hi ↔ Within entries name value lo mid := by
  constructor
  · rintro ⟨i, entry, hlo, -, hi, rfl⟩
    refine ⟨i, entry, hlo, Nat.lt_of_not_le fun hge => ?_, hi, rfl⟩
    rcases Nat.eq_or_lt_of_le hge with rfl | hlt
    · obtain rfl := Option.some.inj (hmid.symm.trans hi)
      exact lt_irrefl _ (precedes_iff.1 hname)
    · exact lt_asymm (precedes_iff.1 hname) (h.lt hmid hi hlt)
  · rintro ⟨i, entry, hlo, hlt, hi, hentry⟩
    exact ⟨i, entry, hlo, hlt.trans_le hle, hi, hentry⟩

/-- Under a name after that of an entry nothing stands up to that entry. -/
theorem Sorted.within_upper (h : Sorted entries.toList) {mid : Nat} {e : String × Capability}
    (hmid : entries[mid]? = some e) (hle : lo ≤ mid) (hname : precedes (encode e.1) name = true) :
    Within entries name value lo hi ↔ Within entries name value (mid + 1) hi := by
  constructor
  · rintro ⟨i, entry, -, hhi, hi, rfl⟩
    refine ⟨i, entry, Nat.lt_of_not_le fun hge => ?_, hhi, hi, rfl⟩
    rcases Nat.eq_or_lt_of_le hge with rfl | hlt
    · obtain rfl := Option.some.inj (hmid.symm.trans hi)
      exact lt_irrefl _ (precedes_iff.1 hname)
    · exact lt_asymm (precedes_iff.1 hname) (h.lt hi hmid hlt)
  · rintro ⟨i, entry, hlo, hhi, hi, hentry⟩
    exact ⟨i, entry, hle.trans (Nat.le_of_succ_le hlo), hhi, hi, hentry⟩

/-- Names that are the same to the order are the same. -/
theorem eq_of_not_precedes {a b : List UInt8} (hab : ¬precedes a b = true)
    (hba : ¬precedes b a = true) : a = b := by
  rw [precedes_iff] at hab hba
  exact List.map_injective_iff.2 (fun x y => UInt8.toNat_inj.1)
    (le_antisymm (not_lt.1 hba) (not_lt.1 hab))

theorem search_of_lt (hlt : lo < hi) {entry : String} {found : Capability}
    (hmid : entries[(lo + hi) / 2]? = some (entry, found)) : search entries name lo hi =
      if precedes name (encode entry) then search entries name lo ((lo + hi) / 2)
      else if precedes (encode entry) name then search entries name ((lo + hi) / 2 + 1) hi
      else some found := by
  rw [search, if_pos hlt]
  dsimp only
  rw [hmid]

/-- Halving misses nothing that stands in its part of the table. -/
theorem search_eq_some_iff (h : Sorted entries.toList) (hhi : hi ≤ entries.size) :
    search entries name lo hi = some value ↔ Within entries name value lo hi := by
  induction lo, hi using search.induct entries name with
  | case1 lo hi hlt mid hnone =>
    have inside : mid < entries.size := by omega
    rw [Array.getElem?_eq_getElem inside] at hnone
    exact absurd hnone nofun
  | case2 lo hi hlt mid entry found hmid text hbefore ih =>
    rw [search_of_lt hlt hmid, if_pos hbefore, ih (by omega)]
    exact (h.within_lower hmid (by omega) hbefore).symm
  | case3 lo hi hlt mid entry found hmid text hbefore hafter ih =>
    rw [search_of_lt hlt hmid, if_neg hbefore, if_pos hafter, ih hhi]
    exact (h.within_upper hmid (by omega) hafter).symm
  | case4 lo hi hlt mid entry found hmid text hbefore hafter =>
    have same : name = encode entry := eq_of_not_precedes hbefore hafter
    rw [search_of_lt hlt hmid, if_neg hbefore, if_neg hafter]
    constructor
    · intro hfound
      exact ⟨mid, entry, by omega, by omega, Option.some.inj hfound ▸ hmid, same.symm⟩
    · rintro ⟨i, other, hlo, hhi, hi, hother⟩
      -- entries of one name stand at one place
      rcases lt_trichotomy i mid with hlt | rfl | hlt
      · exact absurd (h.lt hi hmid hlt) (by rw [hother, same]; exact lt_irrefl _)
      · rw [hmid] at hi
        rw [(Prod.mk.inj (Option.some.inj hi)).2]
      · exact absurd (h.lt hmid hi hlt) (by rw [hother, same]; exact lt_irrefl _)
  | case5 lo hi hge =>
    rw [search, if_neg hge]
    refine iff_of_false nofun ?_
    rintro ⟨i, _, hlo, hhi, -⟩
    omega

end

/-! ## The table -/

theorem sorted_table : Sorted table.toList := by
  let Before (e f : String × Capability) : Prop := precedes (encode e.1) (encode f.1) = true
  have adjacent : table.toList.IsChain Before := by decide +kernel
  have : Trans Before Before Before :=
    ⟨fun h h' => precedes_iff.2 (lt_trans (precedes_iff.1 h) (precedes_iff.1 h'))⟩
  exact List.isChain_iff_pairwise.1 adjacent

/-- A name is found just if it occurs in the table, and with the value that stands there. -/
theorem find?_eq_some_iff {name : List UInt8} {value : Capability} :
    find? name = some value ↔ ∃ entry, (entry, value) ∈ table ∧ encode entry = name := by
  rw [find?, search_eq_some_iff sorted_table le_rfl]
  constructor
  · rintro ⟨i, entry, -, -, hi, hentry⟩
    exact ⟨entry, Array.mem_of_getElem? hi, hentry⟩
  · rintro ⟨entry, hmem, hentry⟩
    obtain ⟨i, hlt, hi⟩ := Array.mem_iff_getElem.1 hmem
    exact ⟨i, entry, Nat.zero_le i, hlt, Array.getElem?_eq_some_iff.2 ⟨hlt, hi⟩, hentry⟩

theorem find?_eq_none_iff {name : List UInt8} :
    find? name = none ↔ ∀ entry ∈ table, encode entry.1 ≠ name := by
  rw [Option.eq_none_iff_forall_ne_some]
  constructor
  · rintro h ⟨entry, value⟩ hmem hname
    exact h value (find?_eq_some_iff.2 ⟨entry, hmem, hname⟩)
  · intro h value hfound
    obtain ⟨entry, hmem, hname⟩ := find?_eq_some_iff.1 hfound
    exact h _ hmem hname

end Teletype.Capability
