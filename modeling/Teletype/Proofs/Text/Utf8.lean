import Mathlib.Data.List.Infix
import Mathlib.Data.List.TakeWhile
import Teletype.Text.Utf8

/-!
# The characters of a byte string

What stands for a character is its UTF-8 form. Reading collected bytes gives a character exactly if
they are its form, and the forms of characters in a byte string never overlap.
-/

namespace Teletype

theorem encode_append (s t : String) :
    Text.Utf8.encode (s ++ t) = Text.Utf8.encode s ++ Text.Utf8.encode t := by
  simp [Text.Utf8.encode]

theorem encode_ofList (l : List Char) :
    Text.Utf8.encode (String.ofList l) = l.flatMap String.utf8EncodeChar := by
  simp [Text.Utf8.encode, List.utf8Encode]

end Teletype

namespace Teletype.Text.Utf8

/-! ## The forms of characters -/

theorem utf8EncodeChar_of_lt {c : Char} (h : c.toNat < 0x80) :
    String.utf8EncodeChar c = [UInt8.ofNat c.toNat] := by
  have hval : c.val ≤ 127 := UInt32.le_iff_toNat_le.2 (by simpa using Nat.le_of_lt_succ h)
  rw [String.utf8EncodeChar_eq_singleton (Char.utf8Size_eq_one_iff.2 hval)]
  rfl

section

variable {c : Char} {a x y z : UInt8}

theorem toNat_valid (c : Char) : c.toNat < 0xd800 ∨ 0xdfff < c.toNat ∧ c.toNat < 0x110000 := c.valid

theorem utf8EncodeChar_eq_pair_iff : String.utf8EncodeChar c = [a, x] ↔
    (0xc2 ≤ a.toNat ∧ a.toNat ≤ 0xdf) ∧ (0x80 ≤ x.toNat ∧ x.toNat ≤ 0xbf) ∧
      c.toNat = a.toNat % 32 * 64 + x.toNat % 64 := by
  have a_lt := a.toNat_lt
  have x_lt := x.toNat_lt
  have value : c.val.toNat = c.toNat := rfl
  unfold String.utf8EncodeChar
  rw [value]
  dsimp only
  split
  · simp
    omega
  · split
    · simp [← UInt8.toNat_inj]
      omega
    · split
      · simp
        omega
      · simp
        omega

/-- The second byte keeps out overlong forms and surrogates. -/
theorem utf8EncodeChar_eq_triple_iff : String.utf8EncodeChar c = [a, x, y] ↔
    (0xe0 ≤ a.toNat ∧ a.toNat ≤ 0xef) ∧ (0x80 ≤ x.toNat ∧ x.toNat ≤ 0xbf) ∧
      (0x80 ≤ y.toNat ∧ y.toNat ≤ 0xbf) ∧ (a.toNat = 0xe0 → 0xa0 ≤ x.toNat) ∧
      (a.toNat = 0xed → x.toNat ≤ 0x9f) ∧
      c.toNat = (a.toNat % 16 * 64 + x.toNat % 64) * 64 + y.toNat % 64 := by
  have a_lt := a.toNat_lt
  have x_lt := x.toNat_lt
  have y_lt := y.toNat_lt
  have value : c.val.toNat = c.toNat := rfl
  have valid := toNat_valid c
  unfold String.utf8EncodeChar
  rw [value]
  dsimp only
  split
  · simp
    omega
  · split
    · simp
      omega
    · split
      · simp [← UInt8.toNat_inj]
        omega
      · simp
        omega

/-- The second byte keeps out overlong forms and values above U+10FFFF. -/
theorem utf8EncodeChar_eq_quadruple_iff : String.utf8EncodeChar c = [a, x, y, z] ↔
    (0xf0 ≤ a.toNat ∧ a.toNat ≤ 0xf4) ∧ (0x80 ≤ x.toNat ∧ x.toNat ≤ 0xbf) ∧
      (0x80 ≤ y.toNat ∧ y.toNat ≤ 0xbf) ∧ (0x80 ≤ z.toNat ∧ z.toNat ≤ 0xbf) ∧
      (a.toNat = 0xf0 → 0x90 ≤ x.toNat) ∧ (a.toNat = 0xf4 → x.toNat ≤ 0x8f) ∧
      c.toNat = ((a.toNat % 8 * 64 + x.toNat % 64) * 64 + y.toNat % 64) * 64 + z.toNat % 64 := by
  have a_lt := a.toNat_lt
  have x_lt := x.toNat_lt
  have y_lt := y.toNat_lt
  have z_lt := z.toNat_lt
  have value : c.val.toNat = c.toNat := rfl
  have valid := toNat_valid c
  unfold String.utf8EncodeChar
  rw [value]
  dsimp only
  split
  · simp
    omega
  · split
    · simp
      omega
    · split
      · simp
        omega
      · simp [← UInt8.toNat_inj]
        omega

end

/-! ## Shapes -/

/-- How many bytes follow the first byte of a longer character. -/
def following (first : UInt8) : Option Nat :=
  if 0xc2 ≤ first && first ≤ 0xdf then some 1
  else if 0xe0 ≤ first && first ≤ 0xef then some 2
  else if 0xf0 ≤ first && first ≤ 0xf4 then some 3
  else none

/-- A first byte with as many continuation bytes as follow it. -/
structure Shaped (first : UInt8) (more : List UInt8) : Prop where
  following : following first = some more.length
  continuation : ∀ b ∈ more, isContinuation b = true

theorem isContinuation_iff {b : UInt8} :
    isContinuation b = true ↔ 0x80 ≤ b.toNat ∧ b.toNat ≤ 0xbf := by
  simp [isContinuation, UInt8.le_iff_toNat_le]

theorem following_iff {first : UInt8} {n : Nat} : following first = some n ↔
    n = 1 ∧ 0xc2 ≤ first.toNat ∧ first.toNat ≤ 0xdf ∨ n = 2 ∧ 0xe0 ≤ first.toNat ∧
      first.toNat ≤ 0xef ∨ n = 3 ∧ 0xf0 ≤ first.toNat ∧ first.toNat ≤ 0xf4 := by
  simp only [following, Bool.and_eq_true, decide_eq_true_eq, UInt8.le_iff_toNat_le,
    UInt8.reduceToNat]
  split_ifs
  · rw [Option.some_inj]
    omega
  · rw [Option.some_inj]
    omega
  · rw [Option.some_inj]
    omega
  · rw [false_iff]
    omega

/-- A character is one byte below 0x80, or a longer form of that shape. -/
theorem utf8EncodeChar_shape (c : Char) :
    c.toNat < 0x80 ∧ String.utf8EncodeChar c = [UInt8.ofNat c.toNat] ∨
      ∃ first more, String.utf8EncodeChar c = first :: more ∧ Shaped first more := by
  by_cases h : c.toNat < 0x80
  · exact .inl ⟨h, utf8EncodeChar_of_lt h⟩
  · refine .inr ?_
    have length := String.length_utf8EncodeChar c
    obtain one | two | three | four := Char.utf8Size_eq c
    · exact absurd (Nat.lt_succ_of_le (UInt32.le_iff_toNat_le.1 (Char.utf8Size_eq_one_iff.1 one))) h
    · obtain ⟨a, x, form⟩ := List.length_eq_two.1 (length.trans two)
      obtain ⟨ha, hx, -⟩ := utf8EncodeChar_eq_pair_iff.1 form
      exact ⟨a, [x], form, following_iff.2 (.inl ⟨rfl, ha⟩), by simpa [isContinuation_iff] using hx⟩
    · obtain ⟨a, x, y, form⟩ := List.length_eq_three.1 (length.trans three)
      obtain ⟨ha, hx, hy, -⟩ := utf8EncodeChar_eq_triple_iff.1 form
      exact ⟨a, [x, y], form, following_iff.2 (.inr (.inl ⟨rfl, ha⟩)),
        by simpa [isContinuation_iff] using ⟨hx, hy⟩⟩
    · obtain ⟨a, x, y, z, form⟩ := List.length_eq_four.1 (length.trans four)
      obtain ⟨ha, hx, hy, hz, -⟩ := utf8EncodeChar_eq_quadruple_iff.1 form
      exact ⟨a, [x, y, z], form, following_iff.2 (.inr (.inr ⟨rfl, ha⟩)),
        by simpa [isContinuation_iff] using ⟨hx, hy, hz⟩⟩

/-! ## Reading one character -/

namespace Lead

variable {a x : UInt8}

theorem of?_pair (h : 0xc2 ≤ a.toNat ∧ a.toNat ≤ 0xdf) : of? a = some ⟨1, 0x80, 0xbf⟩ := by
  have low : ¬a < 0xc2 := by simpa [UInt8.lt_iff_toNat_lt] using h.1
  have high : a < 0xe0 := by
    simp [UInt8.lt_iff_toNat_lt]
    omega
  rw [of?, if_neg low, if_pos high]

theorem of?_triple (h : 0xe0 ≤ a.toNat ∧ a.toNat ≤ 0xef) :
    ∃ lead, of? a = some lead ∧ lead.more = 2 ∧ ∀ x : UInt8, lead.low ≤ x ∧ x ≤ lead.high ↔
      (0x80 ≤ x.toNat ∧ x.toNat ≤ 0xbf) ∧ (a.toNat = 0xe0 → 0xa0 ≤ x.toNat) ∧
      (a.toNat = 0xed → x.toNat ≤ 0x9f) := by
  have low : ¬a < 0xc2 ∧ ¬a < 0xe0 := by
    simp [UInt8.lt_iff_toNat_lt]
    omega
  have high : a < 0xf0 := by
    simp [UInt8.lt_iff_toNat_lt]
    omega
  rw [of?, if_neg low.1, if_neg low.2, if_pos high]
  split_ifs with e0 ed
  · refine ⟨_, rfl, rfl, fun x => ?_⟩
    simp [UInt8.le_iff_toNat_le, e0]
    omega
  · refine ⟨_, rfl, rfl, fun x => ?_⟩
    simp [UInt8.le_iff_toNat_le, ed]
    omega
  · refine ⟨_, rfl, rfl, fun x => ?_⟩
    simp [UInt8.le_iff_toNat_le, ← UInt8.toNat_inj] at e0 ed ⊢
    omega

theorem of?_quadruple (h : 0xf0 ≤ a.toNat ∧ a.toNat ≤ 0xf4) :
    ∃ lead, of? a = some lead ∧ lead.more = 3 ∧ ∀ x : UInt8, lead.low ≤ x ∧ x ≤ lead.high ↔
      (0x80 ≤ x.toNat ∧ x.toNat ≤ 0xbf) ∧ (a.toNat = 0xf0 → 0x90 ≤ x.toNat) ∧
      (a.toNat = 0xf4 → x.toNat ≤ 0x8f) := by
  have low : ¬a < 0xc2 ∧ ¬a < 0xe0 ∧ a ≠ 0xe0 ∧ a ≠ 0xed ∧ ¬a < 0xf0 := by
    simp [UInt8.lt_iff_toNat_lt, ← UInt8.toNat_inj]
    omega
  rw [of?, if_neg low.1, if_neg low.2.1, if_neg low.2.2.1, if_neg low.2.2.2.1, if_neg low.2.2.2.2]
  split_ifs with f0 below f4
  · refine ⟨_, rfl, rfl, fun x => ?_⟩
    simp [UInt8.le_iff_toNat_le, f0]
    omega
  · refine ⟨_, rfl, rfl, fun x => ?_⟩
    simp [UInt8.le_iff_toNat_le, UInt8.lt_iff_toNat_lt, ← UInt8.toNat_inj] at f0 below ⊢
    omega
  · refine ⟨_, rfl, rfl, fun x => ?_⟩
    simp [UInt8.le_iff_toNat_le, f4]
    omega
  · simp [UInt8.lt_iff_toNat_lt, ← UInt8.toNat_inj] at below f4
    omega

end Lead

section

variable {a x : UInt8} {more : List UInt8} {lead : Lead} {c : Char}

/-- The bounds on the second byte decide whether there is a character. -/
theorem single?_of_lead (h : Lead.of? a = some lead) (length : (x :: more).length = lead.more)
    (continuation : ∀ b ∈ more, isContinuation b = true) :
    single? (a :: x :: more) =
      if lead.low ≤ x ∧ x ≤ lead.high then some (assemble a (x :: more)) else none := by
  have high : ¬a < 0x80 := by
    intro low
    have below : a < 0xc2 := UInt8.lt_trans low (by decide)
    rw [Lead.of?, if_pos below] at h
    cases h
  have kept : (more.take (lead.more - 1)).takeWhile isContinuation = more := by
    rw [← length, List.length_cons, Nat.add_sub_cancel, List.take_length]
    exact List.takeWhile_eq_self_iff.2 continuation
  have more_of : lead.continuation (x :: more) = if lead.low ≤ x ∧
      x ≤ lead.high then x :: more else [] := by
    rw [Lead.continuation, kept]
    simp only [Bool.and_eq_true, decide_eq_true_eq]
  rw [single?, first, if_neg high, h]
  dsimp only
  rw [more_of]
  by_cases bounds : lead.low ≤ x ∧ x ≤ lead.high
  · rw [if_pos bounds, if_pos bounds, if_pos length]
    dsimp only
    rw [if_pos rfl]
  · have short : ¬([] : List UInt8).length = lead.more := by
      rw [← length, List.length_nil, List.length_cons]
      omega
    rw [if_neg bounds, if_neg bounds, if_neg short]

/-- A value is read as a character if it can be one. -/
theorem read_eq_some_iff {p : Prop} [Decidable p] {n : Nat}
    (h : p → n < 0xd800 ∨ 0xdfff < n ∧ n < 0x110000) :
    (if p then some (Char.ofNat n) else none) = some c ↔ p ∧ c.toNat = n := by
  by_cases hp : p
  · rw [if_pos hp, Option.some_inj, and_iff_right hp]
    constructor
    · rintro rfl
      rw [Char.ofNat, dif_pos (h hp)]
      rfl
    · rintro rfl
      exact Char.ofNat_toNat c
  · rw [if_neg hp]
    exact iff_of_false (Option.some_ne_none c).symm fun read => hp read.1

/-- Collected bytes give a character exactly if they are its form. -/
theorem single?_eq_some_iff {first : UInt8} (h : Shaped first more) :
    single? (first :: more) = some c ↔ String.utf8EncodeChar c = first :: more := by
  obtain ⟨following, continuation⟩ := h
  simp only [isContinuation_iff] at continuation
  obtain ⟨length, range⟩ | ⟨length, range⟩ | ⟨length, range⟩ := following_iff.1 following
  · obtain ⟨x, rfl⟩ := List.length_eq_one_iff.1 length
    have hx := continuation x (by simp)
    have value : assemble first [x] = Char.ofNat (first.toNat % 32 * 64 + x.toNat % 64) := rfl
    rw [single?_of_lead (Lead.of?_pair range) rfl (List.forall_mem_nil _), value,
      read_eq_some_iff fun _ => by omega, utf8EncodeChar_eq_pair_iff]
    simp only [UInt8.le_iff_toNat_le, UInt8.reduceToNat]
    tauto
  · obtain ⟨x, y, rfl⟩ := List.length_eq_two.1 length
    have hx := continuation x (by simp)
    have hy := continuation y (by simp)
    have value : assemble first [x, y] =
        Char.ofNat ((first.toNat % 16 * 64 + x.toNat % 64) * 64 + y.toNat % 64) := rfl
    obtain ⟨lead, found, count, bounds⟩ := Lead.of?_triple range
    rw [single?_of_lead found (by rw [count]; rfl) (by simpa [isContinuation_iff] using hy),
      value, read_eq_some_iff (by rw [bounds]; omega), bounds, utf8EncodeChar_eq_triple_iff]
    tauto
  · obtain ⟨x, y, z, rfl⟩ := List.length_eq_three.1 length
    have hx := continuation x (by simp)
    have hy := continuation y (by simp)
    have hz := continuation z (by simp)
    have value : assemble first [x, y, z] = Char.ofNat
        (((first.toNat % 8 * 64 + x.toNat % 64) * 64 + y.toNat % 64) * 64 + z.toNat % 64) := rfl
    obtain ⟨lead, found, count, bounds⟩ := Lead.of?_quadruple range
    rw [single?_of_lead found (by rw [count]; rfl) (by simpa [isContinuation_iff] using ⟨hy, hz⟩),
      value, read_eq_some_iff (by rw [bounds]; omega), bounds, utf8EncodeChar_eq_quadruple_iff]
    tauto

end

/-! ## The characters in a byte string -/

/-- The character whose form the bytes begin with. -/
def front? (bytes : List UInt8) : Option Char := ByteArray.utf8DecodeChar? bytes.toByteArray 0

/-- The characters whose forms occur in the bytes, in order. -/
def scalars (bytes : List UInt8) : List Char := bytes.tails.filterMap front?

theorem front?_eq_some_iff {bytes : List UInt8} {c : Char} :
    front? bytes = some c ↔ String.utf8EncodeChar c <+: bytes := by
  constructor
  · intro h
    obtain ⟨rest, split⟩ := ByteArray.exists_of_utf8DecodeChar?_eq_some h
    refine ⟨rest.data.toList, ?_⟩
    have bytesOf := congrArg (·.data.toList) split
    simpa using bytesOf.symm
  · rintro ⟨rest, rfl⟩
    rw [front?, List.toByteArray_append]
    exact ByteArray.utf8DecodeChar?_utf8EncodeChar_append

section

variable {b first : UInt8} {more rest : List UInt8} {c : Char}

theorem scalars_cons (b : UInt8) (rest : List UInt8) :
    scalars (b :: rest) = (front? (b :: rest)).toList ++ scalars rest := by
  rw [scalars, List.tails_cons, List.filterMap_cons]
  cases front? (b :: rest) <;> rfl

theorem ascii_iff : b < 0x80 ↔ b.toNat < 0x80 := UInt8.lt_iff_toNat_lt

theorem high_of_following {n : Nat} (h : following b = some n) : ¬b < 0x80 := by
  have cases := following_iff.1 h
  rw [ascii_iff]
  omega

/-- A character begins with its byte or with the first byte of a shape. -/
theorem front?_cons_cases (h : front? (b :: rest) = some c) : b < 0x80 ∧ c = Char.ofNat b.toNat ∨
    ∃ more, String.utf8EncodeChar c = b :: more ∧ Shaped b more ∧ more <+: rest := by
  have form := front?_eq_some_iff.1 h
  obtain ⟨small, single⟩ | ⟨first, more, long, shape⟩ := utf8EncodeChar_shape c
  · rw [single, List.cons_prefix_cons] at form
    have value : b.toNat = c.toNat := by
      rw [← form.1, UInt8.toNat_ofNat', Nat.mod_eq_of_lt (by omega)]
    refine .inl ⟨ascii_iff.2 (value ▸ small), ?_⟩
    rw [value, Char.ofNat_toNat]
  · rw [long, List.cons_prefix_cons] at form
    obtain ⟨rfl, more_prefix⟩ := form
    exact .inr ⟨more, long, shape, more_prefix⟩

theorem utf8EncodeChar_ascii (h : b < 0x80) : String.utf8EncodeChar (Char.ofNat b.toNat) = [b] := by
  have small := ascii_iff.1 h
  have value : (Char.ofNat b.toNat).toNat = b.toNat := by
    rw [Char.ofNat, dif_pos (.inl (by omega))]
    rfl
  rw [utf8EncodeChar_of_lt (value.trans_lt small), value, UInt8.ofNat_toNat]

theorem front?_ascii (h : b < 0x80) (rest : List UInt8) :
    front? (b :: rest) = some (Char.ofNat b.toNat) := by
  rw [front?_eq_some_iff, utf8EncodeChar_ascii h]
  exact ⟨rest, rfl⟩

/-- No character begins with a byte that is neither in ASCII nor the first of a shape. -/
theorem front?_stray (h : ¬b < 0x80) (stray : following b = none) (rest : List UInt8) :
    front? (b :: rest) = none := by
  cases read : front? (b :: rest) with
  | none => rfl
  | some c =>
    obtain ⟨small, -⟩ | ⟨more, -, shape, -⟩ := front?_cons_cases read
    · exact absurd small h
    · rw [shape.following] at stray
      exact absurd stray (Option.some_ne_none _)

theorem continuation_stray (h : isContinuation b = true) : ¬b < 0x80 ∧ following b = none := by
  rw [isContinuation_iff] at h
  refine ⟨?_, Option.eq_none_iff_forall_ne_some.2 fun n found => ?_⟩
  · rw [ascii_iff]
    omega
  · have cases := following_iff.1 found
    omega

theorem not_continuation_of_following {n : Nat} (h : following b = some n) :
    isContinuation b = false := by
  refine Bool.eq_false_iff.2 fun continues => ?_
  rw [(continuation_stray continues).2] at h
  exact absurd h.symm (Option.some_ne_none n)

/-- Continuation bytes begin no character. -/
theorem scalars_append_continuation (h : ∀ b ∈ more, isContinuation b = true) (rest : List UInt8) :
    scalars (more ++ rest) = scalars rest := by
  induction more with
  | nil => rfl
  | cons b more ih =>
    rw [List.forall_mem_cons] at h
    obtain ⟨high, stray⟩ := continuation_stray h.1
    rw [List.cons_append, scalars_cons, front?_stray high stray, ih h.2]
    rfl

/-- A whole shape is read by itself. -/
theorem front?_shaped (h : Shaped first more) (rest : List UInt8) :
    front? (first :: more ++ rest) = single? (first :: more) := by
  ext c
  rw [single?_eq_some_iff h]
  constructor
  · intro read
    obtain ⟨small, -⟩ | ⟨more', form, shape, begins⟩ := front?_cons_cases read
    · exact absurd small (high_of_following h.following)
    · have length : more'.length = more.length :=
        Option.some_inj.1 (shape.following.symm.trans h.following)
      have within :=
        List.prefix_of_prefix_length_le begins (List.prefix_append more rest) (Nat.le_of_eq length)
      rw [form, within.eq_of_length length]
  · intro form
    rw [front?_eq_some_iff, form]
    exact List.prefix_append _ _

/-- A first byte with too few continuation bytes after it begins no character. -/
theorem front?_broken {n : Nat} (h : following first = some n) (short : more.length < n)
    (hrest : ∀ b ∈ rest.head?, isContinuation b = false) :
    front? (first :: more ++ rest) = none := by
  cases read : front? (first :: more ++ rest) with
  | none => rfl
  | some c =>
    obtain ⟨small, -⟩ | ⟨more', -, shape, begins⟩ := front?_cons_cases read
    · exact absurd small (high_of_following h)
    · have length : n = more'.length := Option.some_inj.1 (h.symm.trans shape.following)
      obtain ⟨tail, rfl⟩ :=
        List.prefix_of_prefix_length_le (List.prefix_append more rest) begins (by omega)
      cases tail with
      | nil =>
        rw [List.append_nil] at length
        omega
      | cons b tail =>
        obtain ⟨last, rfl⟩ := (List.prefix_append_right_inj more).1 begins
        have continues := shape.continuation b (by simp)
        rw [hrest b rfl] at continues
        exact Bool.noConfusion continues

end

/-! ## Whole texts -/

theorem decode?_eq_some_iff {bytes : List UInt8} {text : String} :
    decode? bytes = some text ↔ bytes = encode text := by
  unfold decode? encode String.fromUTF8?
  constructor
  · intro h
    split at h
    · have same := Option.some.inj h
      rw [← same]
      rfl
    · cases h
  · rintro rfl
    exact dif_pos text.isValidUTF8

/-- The bytes are the form of a text. -/
def WellFormed (bytes : List UInt8) : Prop := ∃ text, bytes = encode text

section

variable {b : UInt8} {bytes before rest : List UInt8}

theorem decode?_eq_none_iff : decode? bytes = none ↔ ¬WellFormed bytes := by
  simp only [WellFormed, ← decode?_eq_some_iff, ← Option.ne_none_iff_exists', ne_eq,
    Classical.not_not]

theorem wellFormed_iff :
    WellFormed bytes ↔ ∃ chars : List Char, bytes = chars.flatMap String.utf8EncodeChar := by
  constructor
  · rintro ⟨text, rfl⟩
    exact ⟨text.toList, by rw [← encode_ofList, String.ofList_toList]⟩
  · rintro ⟨chars, rfl⟩
    exact ⟨String.ofList chars, (encode_ofList chars).symm⟩

theorem wellFormed_nil : WellFormed [] := wellFormed_iff.2 ⟨[], rfl⟩

/-- A byte of ASCII is a character by itself. -/
theorem wellFormed_cons (h : b < 0x80) : WellFormed (b :: rest) ↔ WellFormed rest := by
  simp only [wellFormed_iff]
  constructor
  · rintro ⟨_ | ⟨c, chars⟩, hchars⟩
    · cases hchars
    · rw [List.flatMap_cons] at hchars
      obtain ⟨-, single⟩ | ⟨first, more, long, shape⟩ := utf8EncodeChar_shape c
      · rw [single, List.singleton_append] at hchars
        exact ⟨chars, (List.cons.inj hchars).2⟩
      · rw [long, List.cons_append] at hchars
        exact absurd h ((List.cons.inj hchars).1 ▸ high_of_following shape.following)
  · rintro ⟨chars, rfl⟩
    refine ⟨Char.ofNat b.toNat :: chars, ?_⟩
    rw [List.flatMap_cons, utf8EncodeChar_ascii h, List.singleton_append]

theorem wellFormed_append (h : ∀ b ∈ before, b < 0x80) :
    WellFormed (before ++ rest) ↔ WellFormed rest := by
  induction before with
  | nil => rfl
  | cons b before ih =>
    obtain ⟨hb, hbefore⟩ := List.forall_mem_cons.1 h
    rw [List.cons_append, wellFormed_cons hb, ih hbefore]

theorem wellFormed_of_ascii (h : ∀ b ∈ bytes, b < 0x80) : WellFormed bytes := by
  rw [← List.append_nil bytes, wellFormed_append h]
  exact wellFormed_nil

end

end Teletype.Text.Utf8
