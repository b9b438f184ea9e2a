import Mathlib.Data.List.Forall2
import Mathlib.Data.Nat.Digits.Defs
import Teletype.Text.Numeral

/-!
# Numerals stand for their numbers

The numbers that can be read are those within the bound that digits of the radix write, most
significant digit first; a sign before them changes nothing.
-/

namespace Teletype.Text.Numeral

/-- The character is the digit of a value below the radix, of the letters in either case. -/
def IsDigit (radix : Nat) (c : Char) (d : Nat) : Prop :=
  d < radix ∧ (c = Nat.digitChar d ∨ c = (Nat.digitChar d).toUpper)

/-- The text writes the number: it has digits, and nothing else. -/
def Writes (radix : Nat) (text : List Char) (n : Nat) : Prop :=
  text ≠ [] ∧ ∃ ds, List.Forall₂ (IsDigit radix) text ds ∧ n = Nat.ofDigits radix ds.reverse

variable {radix bound value n : Nat} {text : List Char} {c : Char}

/-! ## Digits -/

theorem digit?_eq_some_iff_toNat {d : Nat} : digit? c = some d ↔
    48 ≤ c.toNat ∧ c.toNat ≤ 57 ∧ c.toNat = 48 + d ∨ 97 ≤ c.toNat ∧ c.toNat ≤ 122 ∧
      c.toNat = 87 + d ∨ 65 ≤ c.toNat ∧ c.toNat ≤ 90 ∧ c.toNat = 55 + d := by
  have range (low high : Char) : (decide (low ≤ c) && decide (c ≤ high)) = true ↔
      low.toNat ≤ c.toNat ∧ c.toNat ≤ high.toNat := by
    simp only [Bool.and_eq_true, decide_eq_true_eq, Char.le_def, UInt32.le_iff_toNat_le]
    rfl
  unfold digit?
  simp only [range, Char.reduceToNat]
  split_ifs <;> simp only [Option.some_inj, false_iff] <;> omega

/-- The values of the sixteen digits and of their other forms. -/
theorem toNat_digitChar : ∀ d < 16,
    (Nat.digitChar d).toNat = (if d < 10 then 48 + d else 87 + d) ∧
      (Nat.digitChar d).toUpper.toNat = (if d < 10 then 48 + d else 55 + d) := by
  decide

theorem digit?_eq_some_iff {d : Nat} (hd : d < 16) :
    digit? c = some d ↔ c = Nat.digitChar d ∨ c = (Nat.digitChar d).toUpper := by
  obtain ⟨hlower, hupper⟩ := toNat_digitChar d hd
  rw [digit?_eq_some_iff_toNat, ← Char.toNat_inj, ← Char.toNat_inj, hlower, hupper]
  split_ifs <;> omega

theorem isDigit_iff (hradix : radix ≤ 16) {d : Nat} :
    IsDigit radix c d ↔ digit? c = some d ∧ d < radix := by
  rw [IsDigit, and_comm]
  exact and_congr_left fun hd => (digit?_eq_some_iff (Nat.lt_of_lt_of_le hd hradix)).symm

theorem IsDigit.range (hradix : radix ≤ 16) {d : Nat} (h : IsDigit radix c d) :
    48 ≤ c.toNat ∧ c.toNat ≤ 57 ∨ 65 ≤ c.toNat ∧ c.toNat ≤ 70 ∨ 97 ≤ c.toNat ∧ c.toNat ≤ 102 := by
  obtain ⟨hdigit, hlt⟩ := (isDigit_iff hradix).1 h
  rw [digit?_eq_some_iff_toNat] at hdigit
  omega

/-! ## Numbers -/

theorem digits_cons (hradix : radix ≤ 16) : digits radix bound value (c :: text) = some n ↔
    ∃ d, IsDigit radix c d ∧ value * radix + d ≤ bound ∧
      digits radix bound (value * radix + d) text = some n := by
  simp only [isDigit_iff hradix]
  rw [digits]
  cases hdigit : digit? c with
  | none => simp
  | some d =>
    by_cases h : d < radix ∧ value * radix + d ≤ bound
    · simp [h]
    · rw [not_and_or] at h
      rcases h with h | h <;> simp [h]

/-- Digits that stay within the bound continue the number; it is enough that they do so at the
end. -/
theorem digits_eq_some_iff (hradix : radix ≤ 16) (hvalue : value ≤ bound) :
    digits radix bound value text = some n ↔ ∃ ds, List.Forall₂ (IsDigit radix) text ds ∧
      n = ds.foldl (fun v d => v * radix + d) value ∧ n ≤ bound := by
  induction text generalizing value with
  | nil =>
    simp only [digits, Option.some_inj, List.forall₂_nil_left_iff, exists_eq_left, List.foldl_nil]
    constructor
    · rintro rfl
      exact ⟨rfl, hvalue⟩
    · rintro ⟨rfl, -⟩
      rfl
  | cons c text ih =>
    rw [digits_cons hradix]
    simp only [List.forall₂_cons_left_iff]
    constructor
    · rintro ⟨d, hd, hnext, h⟩
      obtain ⟨ds, hds, hn, hbound⟩ := (ih hnext).1 h
      exact ⟨d :: ds, ⟨d, ds, hd, hds, rfl⟩, hn, hbound⟩
    · rintro ⟨_, ⟨d, ds, hd, hds, rfl⟩, hn, hbound⟩
      have grows (ds : List Nat) (v : Nat) : v ≤ ds.foldl (fun v d => v * radix + d) v := by
        induction ds generalizing v with
        | nil => exact Nat.le_refl v
        | cons e ds ih =>
          have positive : 0 < radix := Nat.zero_lt_of_lt hd.1
          calc v ≤ v * radix + e := Nat.le_add_right_of_le (Nat.le_mul_of_pos_right v positive)
            _ ≤ _ := ih _
      have hnext : value * radix + d ≤ bound := Nat.le_trans (hn ▸ grows ds _) hbound
      exact ⟨d, hd, hnext, (ih hnext).2 ⟨ds, hds, hn, hbound⟩⟩

theorem ofDigits_reverse (ds : List Nat) :
    Nat.ofDigits radix ds.reverse = ds.foldl (fun v d => v * radix + d) 0 := by
  rw [Nat.ofDigits_eq_foldr, List.foldr_reverse]
  simp only [Nat.cast_id, Nat.mul_comm, Nat.add_comm]

theorem writes_iff (hradix : radix ≤ 16) (hn : n ≤ bound) :
    Writes radix text n ↔ text ≠ [] ∧ digits radix bound 0 text = some n := by
  rw [Writes, digits_eq_some_iff hradix (Nat.zero_le bound)]
  simp only [ofDigits_reverse, hn, and_true]

/-- Every character of a written number is a digit. -/
theorem Writes.isDigit (h : Writes radix text n) : ∀ c ∈ text, ∃ d, IsDigit radix c d := by
  obtain ⟨-, ds, hds, -⟩ := h
  induction hds with
  | nil => exact List.forall_mem_nil _
  | cons hd _ ih => exact List.forall_mem_cons.2 ⟨⟨_, hd⟩, ih⟩

theorem Writes.range (hradix : radix ≤ 16) (h : Writes radix text n) : ∀ c ∈ text,
    48 ≤ c.toNat ∧ c.toNat ≤ 57 ∨ 65 ≤ c.toNat ∧ c.toNat ≤ 70 ∨ 97 ≤ c.toNat ∧ c.toNat ≤ 102 := by
  intro c hc
  obtain ⟨d, hd⟩ := h.isDigit c hc
  exact hd.range hradix

/-- As many digits write numbers below the power of the radix. -/
theorem Writes.lt (hradix : 1 < radix) (h : Writes radix text n) : n < radix ^ text.length := by
  obtain ⟨-, ds, hds, rfl⟩ := h
  have below : ∀ d ∈ ds.reverse, d < radix := by
    simp only [List.mem_reverse]
    clear * - hds
    induction hds with
    | nil => exact List.forall_mem_nil _
    | cons hd _ ih => exact List.forall_mem_cons.2 ⟨hd.1, ih⟩
  have h := Nat.ofDigits_lt_base_pow_length hradix below
  rwa [List.length_reverse, ← hds.length_eq] at h

/-- A text is read as a number just if it writes the number, perhaps after a sign, and the number is
within the bound. -/
theorem read?_eq_some_iff (hradix : radix ≤ 16) : read? radix bound text = some n ↔
    ∃ body, (text = body ∨ text = '+' :: body) ∧ Writes radix body n ∧ n ≤ bound := by
  have reads {text : List Char} (hne : text ≠ []) :
      digits radix bound 0 text = some n ↔ Writes radix text n ∧ n ≤ bound := by
    constructor
    · intro h
      obtain ⟨-, -, -, hn⟩ := (digits_eq_some_iff hradix (Nat.zero_le bound)).1 h
      exact ⟨(writes_iff hradix hn).2 ⟨hne, h⟩, hn⟩
    · rintro ⟨h, hn⟩
      exact ((writes_iff hradix hn).1 h).2
  have noSign {rest : List Char} (h : Writes radix ('+' :: rest) n) : False := by
    have range := h.range hradix '+' List.mem_cons_self
    simp at range
  unfold read?
  split
  · refine iff_of_false nofun ?_
    rintro ⟨body, rfl | hbody, h, -⟩
    · exact h.1 rfl
    · cases hbody
  · refine iff_of_false nofun ?_
    rintro ⟨body, rfl | hbody, h, -⟩
    · exact noSign h
    · exact h.1 (List.cons.inj hbody).2.symm
  · rename_i rest hrest
    rw [reads hrest]
    constructor
    · exact fun h => ⟨rest, .inr rfl, h⟩
    · rintro ⟨body, rfl | hbody, h⟩
      · exact (noSign h.1).elim
      · exact (List.cons.inj hbody).2 ▸ h
  · rename_i hne hsign hplus
    rw [reads hne]
    constructor
    · exact fun h => ⟨text, .inl rfl, h⟩
    · rintro ⟨body, rfl | rfl, h⟩
      · exact h
      · exact absurd rfl (hplus body)

theorem le_of_read? (hradix : radix ≤ 16) (h : read? radix bound text = some n) : n ≤ bound := by
  obtain ⟨_, -, -, hn⟩ := (read?_eq_some_iff hradix).1 h
  exact hn

end Teletype.Text.Numeral
