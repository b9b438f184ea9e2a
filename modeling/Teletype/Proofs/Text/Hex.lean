import Mathlib.Data.List.Basic
import Teletype.Text.Hex

/-!
# Hexadecimal text stands for one byte string

In upper case every byte string is written in one way. Reading takes just what is written so once
its letters are raised to upper case, and gives what was written.
-/

namespace Teletype.Text.Hex

/-- The byte with a hexadecimal letter raised to upper case. -/
def upper (b : UInt8) : UInt8 := if 0x61 ≤ b && b ≤ 0x66 then b - 0x20 else b

/-- The bytes are written by the digits, in either case. -/
def Writes (digits bytes : List UInt8) : Prop := digits.map upper = encode bytes

instance (digits bytes : List UInt8) : Decidable (Writes digits bytes) :=
  inferInstanceAs (Decidable (_ = _))

theorem encode_cons (b : UInt8) (bytes : List UInt8) :
    encode (b :: bytes) = digit (b / 16) :: digit (b % 16) :: encode bytes := rfl

/-! ## Digits -/

section

variable {b n : UInt8}

theorem toNat_digit (h : n.toNat < 16) :
    (digit n).toNat = if n.toNat < 10 then 48 + n.toNat else 55 + n.toNat := by
  have ten : n < 10 ↔ n.toNat < 10 := UInt8.lt_iff_toNat_lt
  unfold digit
  simp only [ten]
  split
  · rw [UInt8.toNat_add]
    exact Nat.mod_eq_of_lt (by simp; omega)
  · rw [UInt8.toNat_add]
    exact Nat.mod_eq_of_lt (by simp; omega)

theorem toNat_upper (b : UInt8) :
    (upper b).toNat = if 97 ≤ b.toNat ∧ b.toNat ≤ 102 then b.toNat - 32 else b.toNat := by
  unfold upper
  simp only [Bool.and_eq_true, decide_eq_true_eq, UInt8.le_iff_toNat_le, UInt8.reduceToNat]
  split
  · rename_i h
    exact UInt8.toNat_sub_of_le _ _ (UInt8.le_iff_toNat_le.2 (by simp; omega))
  · rfl

theorem upper_digit (h : n.toNat < 16) : upper (digit n) = digit n := by
  rw [← UInt8.toNat_inj, toNat_upper, toNat_digit h]
  split_ifs <;> omega

theorem value?_eq_some_iff_toNat : value? b = some n ↔
    48 ≤ b.toNat ∧ b.toNat ≤ 57 ∧ b.toNat = 48 + n.toNat ∨ 65 ≤ b.toNat ∧ b.toNat ≤ 70 ∧
      b.toNat = 55 + n.toNat ∨ 97 ≤ b.toNat ∧ b.toNat ≤ 102 ∧ b.toNat = 87 + n.toNat := by
  have range (low high : UInt8) : (decide (low ≤ b) && decide (b ≤ high)) = true ↔
      low.toNat ≤ b.toNat ∧ b.toNat ≤ high.toNat := by
    simp [UInt8.le_iff_toNat_le]
  have less {k : UInt8} (hk : k.toNat ≤ b.toNat) : some (b - k) = some n ↔
      b.toNat = k.toNat + n.toNat := by
    rw [Option.some_inj, ← UInt8.toNat_inj, UInt8.toNat_sub_of_le _ _ (UInt8.le_iff_toNat_le.2 hk)]
    omega
  unfold value?
  simp only [range, UInt8.reduceToNat]
  split_ifs with decimal capital letter
  · rw [less (Nat.le_trans (by decide) decimal.1)]
    simp
    omega
  · rw [less (Nat.le_trans (by decide) capital.1)]
    simp
    omega
  · rw [less (Nat.le_trans (by decide) letter.1)]
    simp
    omega
  · refine iff_of_false nofun ?_
    omega

/-- The value of a byte is the number whose digit it is. -/
theorem value?_eq_some_iff : value? b = some n ↔ n.toNat < 16 ∧ upper b = digit n := by
  have raised (h : n.toNat < 16) : upper b = digit n ↔
      (if 97 ≤ b.toNat ∧ b.toNat ≤ 102 then b.toNat - 32 else b.toNat) =
        if n.toNat < 10 then 48 + n.toNat else 55 + n.toNat := by
    rw [← UInt8.toNat_inj, toNat_upper, toNat_digit h]
  rw [value?_eq_some_iff_toNat, and_congr_right raised]
  split_ifs <;> omega

end

/-! ## Texts -/

theorem decodeAfter_eq (done digits : List UInt8) :
    decodeAfter done digits = (decode? digits).map (done.reverse ++ ·) := by
  have general (done before : List UInt8) :
      decodeAfter (done ++ before) digits =
      (decodeAfter done digits).map (before.reverse ++ ·) := by
    induction done, digits using decodeAfter.induct with
    | case1 done => simp [decodeAfter]
    | case2 done b => simp [decodeAfter]
    | case3 done high low rest h l hhigh hlow ih =>
      rw [decodeAfter, decodeAfter, hhigh, hlow]
      exact ih
    | case4 done high low rest hnone =>
      rw [decodeAfter, decodeAfter]
      split
      · exact absurd ‹_› (hnone _ _ ‹_›)
      · rfl
  exact general [] done

theorem decode?_cons_cons (high low : UInt8) (rest : List UInt8) : decode? (high :: low :: rest) =
    (value? high).bind fun h => (value? low).bind
      fun l => (decode? rest).map ((h * 16 + l) :: ·) := by
  rw [decode?, decodeAfter]
  cases value? high with
  | none => rfl
  | some h =>
    cases value? low with
    | none => rfl
    | some l => exact decodeAfter_eq _ rest

/-- A byte is its two halves. -/
theorem halves {b h l : UInt8} (hh : h.toNat < 16) (hl : l.toNat < 16) :
    h * 16 + l = b ↔ h = b / 16 ∧ l = b % 16 := by
  have whole : (h * 16 + l).toNat = h.toNat * 16 + l.toNat := by
    rw [UInt8.toNat_add, UInt8.toNat_mul]
    simp
    omega
  simp only [← UInt8.toNat_inj, whole, UInt8.toNat_div, UInt8.toNat_mod]
  simp
  omega

theorem toNat_halves_lt (b : UInt8) : (b / 16).toNat < 16 ∧ (b % 16).toNat < 16 := by
  have size := b.toNat_lt
  simp
  omega

/-- Digits are read just if they write a byte string in either case, and as that one. -/
theorem decode?_eq_some_iff : ∀ {digits bytes : List UInt8}, decode? digits = some bytes ↔
    Writes digits bytes
  | [], [] => iff_of_true rfl rfl
  | [], b :: bytes => iff_of_false nofun nofun
  | [_], [] => iff_of_false nofun (List.cons_ne_nil _ _)
  | [_], b :: bytes => iff_of_false nofun fun h => List.cons_ne_nil _ _ (List.cons.inj h).2.symm
  | high :: low :: rest, [] => by
    refine iff_of_false (fun h => ?_) (List.cons_ne_nil _ _)
    simp [decode?_cons_cons, Option.bind_eq_some_iff] at h
  | high :: low :: rest, b :: bytes => by
    obtain ⟨highHalf, lowHalf⟩ := toNat_halves_lt b
    have tail : decode? rest = some bytes ↔ Writes rest bytes := decode?_eq_some_iff
    rw [decode?_cons_cons, Writes, encode_cons]
    simp only [Option.bind_eq_some_iff, Option.map_eq_some_iff, value?_eq_some_iff, List.map_cons,
      List.cons.injEq]
    constructor
    · rintro ⟨h, ⟨hh, hhigh⟩, l, ⟨hl, hlow⟩, _, hrest, hb, rfl⟩
      obtain ⟨rfl, rfl⟩ := (halves hh hl).1 hb
      exact ⟨hhigh, hlow, tail.1 hrest⟩
    · rintro ⟨hhigh, hlow, hrest⟩
      exact ⟨_, ⟨highHalf, hhigh⟩, _, ⟨lowHalf, hlow⟩, _, tail.2 hrest,
        (halves highHalf lowHalf).2 ⟨rfl, rfl⟩, rfl⟩

theorem writes_encode (bytes : List UInt8) : Writes (encode bytes) bytes := by
  induction bytes with
  | nil => rfl
  | cons b bytes ih =>
    obtain ⟨highHalf, lowHalf⟩ := toNat_halves_lt b
    rw [Writes, encode_cons, List.map_cons, List.map_cons, upper_digit highHalf,
      upper_digit lowHalf, ih]

/-- Digits are among the letters and numbers of ASCII. -/
theorem Writes.bounds {digits bytes : List UInt8} (h : Writes digits bytes) :
    ∀ b ∈ digits, 0x30 ≤ b.toNat ∧ b.toNat ≤ 0x66 ∧ b ≠ 0x3b := by
  intro b hb
  have raised : upper b ∈ encode bytes := h ▸ List.mem_map_of_mem hb
  obtain ⟨byte, -, hhalf⟩ := List.mem_flatMap.1 raised
  obtain ⟨highHalf, lowHalf⟩ := toNat_halves_lt byte
  obtain ⟨n, hn⟩ : ∃ n, value? b = some n := by
    rcases List.mem_pair.1 hhalf with h | h
    · exact ⟨_, value?_eq_some_iff.2 ⟨highHalf, h⟩⟩
    · exact ⟨_, value?_eq_some_iff.2 ⟨lowHalf, h⟩⟩
  have range := value?_eq_some_iff_toNat.1 hn
  refine ⟨by omega, by omega, fun hsemicolon => ?_⟩
  rw [hsemicolon] at range
  simp at range

/-- What is written is read. -/
theorem decode?_encode (bytes : List UInt8) : decode? (encode bytes) = some bytes :=
  decode?_eq_some_iff.2 (writes_encode bytes)

end Teletype.Text.Hex
