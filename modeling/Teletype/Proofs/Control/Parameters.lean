import Teletype.Proofs.Control.Written

/-!
# Parameters as they are read

The bytes of the parameter part arrive one at a time, and the decoder keeps what it needs of them in
flags and one accumulator. What it makes of them is what splitting the whole part makes: at
semicolons into parameters, and each of them at colons into its value and sub-parameters.
-/

namespace Teletype.Control

/-- The number that decimal digits write. No digits write 0. -/
def number (digits : List UInt8) : Nat := digits.foldl (fun n d => n * 10 + (d.toNat - 0x30)) 0

/-- The number cut off at the greatest value of a parameter. -/
def saturated (digits : List UInt8) : Nat := min (number digits) Params.maxValue

/-- The parameter that numbers between colons write: its value, which may be left out, and its
sub-parameters, as many as are kept. -/
def Param.ofNumbers : List (List UInt8) → Param
  | [] => {}
  | value :: subs =>
    { value := saturated value
      isDefault := value.isEmpty
      subs := (subs.take Params.maxSubs).map saturated }

namespace Params

/-- Whether one of the numbers is above the greatest value. -/
def exceeds (parts : List (List (List UInt8))) : Bool :=
  parts.any fun numbers => numbers.any fun digits => maxValue < number digits

/-- The parameters that lists of numbers write, as many as are kept. -/
def ofParts (parts : List (List (List UInt8))) : Params where
  items := (parts.take maxCount).map Param.ofNumbers
  overflowed := exceeds parts

/-- The numbers of a parameter part: it is split at semicolons, and each piece at colons. -/
def split (part : List UInt8) : List (List (List UInt8)) := (part.splitOn 0x3b).map (·.splitOn 0x3a)

/-- The parameters that a parameter part writes: none if it is empty. -/
def ofPart (part : List UInt8) : Params := if part.isEmpty then {} else ofParts (split part)

theorem exceeds_append (parts parts' : List (List (List UInt8))) :
    exceeds (parts ++ parts') = (exceeds parts || exceeds parts') := List.any_append

theorem exceeds_snoc (numbers : List (List UInt8)) (digits : List UInt8) :
    exceeds [numbers ++ [digits]] = (exceeds [numbers] || decide (maxValue < number digits)) := by
  simp [exceeds]

theorem split_semicolon (part : List UInt8) : split (0x3b :: part) = [[]] :: split part := by
  rw [split, List.splitOn_cons_eq_if_modifyHead, if_pos (beq_self_eq_true _), List.map_cons,
    List.splitOn_nil]
  rfl

theorem split_ne_nil (part : List UInt8) : split part ≠ [] := by
  rw [split, Ne, List.map_eq_nil_iff]
  exact List.splitOn_ne_nil _ _

/-- A byte that is no semicolon goes to the first parameter. -/
theorem split_cons {b : UInt8} (hb : b ≠ 0x3b) (part : List UInt8) :
    split (b :: part) = (split part).modifyHead fun numbers =>
      if b == 0x3a then [] :: numbers else numbers.modifyHead (b :: ·) := by
  have apart : (b == 0x3b) = false := beq_eq_false_iff_ne.2 hb
  rw [split, split, List.splitOn_cons_eq_if_modifyHead, apart, if_neg Bool.false_ne_true]
  obtain ⟨first, rest, h⟩ := List.exists_cons_of_ne_nil (List.splitOn_ne_nil (0x3b : UInt8) part)
  rw [h, List.modifyHead_cons, List.map_cons, List.map_cons, List.modifyHead_cons,
    List.splitOn_cons_eq_if_modifyHead]

namespace Builder

variable {done : List (List (List UInt8))} {current : List (List UInt8)} {digits : List UInt8}

/-- A parameter of which the numbers in `current` are complete and the next one is not. -/
def started : List (List UInt8) → Param
  | [] => {}
  | value :: subs =>
    { Param.ofNumbers (value :: subs) with
      subs := (subs.take maxSubs).map saturated ++ if subs.length < maxSubs then [0] else [] }

/-- The builder that has read the parameters `done`, the numbers `current` of the next one and the
digits of its next number, as long as the parameter being read is kept. -/
def keeping (done : List (List (List UInt8))) (current : List (List UInt8)) (digits : List UInt8) :
    Builder where
  items := started current :: (done.map Param.ofNumbers).reverse
  value := min (number digits) (maxValue + 1)
  hasDigits := !digits.isEmpty
  inSub := !current.isEmpty
  dropSub := maxSubs < current.length
  overflowed := exceeds (done ++ [current])

/-- The builder once there was a parameter too many. -/
def dropping (done : List (List (List UInt8))) (current : List (List UInt8)) (digits : List UInt8) :
    Builder where
  items := ((done.take maxCount).map Param.ofNumbers).reverse
  value := min (number digits) (maxValue + 1)
  hasDigits := !digits.isEmpty
  inSub := !current.isEmpty
  dropParam := true
  overflowed := exceeds (done ++ [current])

/-! ## The end of a number -/

/-- A sub-parameter is stored in the place that its colon made. -/
theorem ofNumbers_snoc_of_room {value : List UInt8} {subs : List (List UInt8)}
    (h : subs.length < maxSubs) : Param.ofNumbers (value :: subs ++ [digits]) =
      { started (value :: subs) with
        subs := (started (value :: subs)).subs.dropLast ++ [saturated digits] } := by
  have kept : (subs ++ [digits]).take maxSubs = subs ++ [digits] :=
    List.take_of_length_le (by simp; omega)
  have all : subs.take maxSubs = subs := List.take_of_length_le (Nat.le_of_lt h)
  simp [Param.ofNumbers, started, kept, all, h]

/-- A sub-parameter too many changes nothing. -/
theorem ofNumbers_snoc_of_full {value : List UInt8} {subs : List (List UInt8)}
    (h : ¬subs.length < maxSubs) :
    Param.ofNumbers (value :: subs ++ [digits]) = started (value :: subs) := by
  have kept : (subs ++ [digits]).take maxSubs = subs.take maxSubs :=
    List.take_append_of_le_length (Nat.not_lt.1 h)
  simp [Param.ofNumbers, started, kept, h]

/-- The number being read, cut off above the greatest value, is what the number is when it is cut
off there. -/
theorem cut_number (parts : List (List (List UInt8))) (current : List (List UInt8))
    (digits : List UInt8) : min (min (number digits) (maxValue + 1)) maxValue = saturated digits ∧
      (exceeds (parts ++ [current]) || decide (maxValue < min (number digits) (maxValue + 1))) =
        exceeds (parts ++ [current ++ [digits]]) := by
  have above : maxValue < min (number digits) (maxValue + 1) ↔ maxValue < number digits := by omega
  refine ⟨by rw [saturated]; omega, ?_⟩
  rw [exceeds_append, exceeds_append, exceeds_snoc, Bool.or_assoc, decide_eq_decide.2 above]

/-- The number being read is stored in its parameter. -/
theorem commit_keeping : (keeping done current digits).commit =
    { keeping done current [] with
      items := Param.ofNumbers (current ++ [digits]) :: (done.map Param.ofNumbers).reverse
      overflowed := exceeds (done ++ [current ++ [digits]]) } := by
  obtain ⟨value, above⟩ := cut_number done current digits
  unfold commit keeping
  dsimp only
  rw [value, above, if_neg Bool.false_ne_true]
  cases current with
  | nil => simp [modifyItem, started, Param.ofNumbers, number]
  | cons first subs =>
    have inSub : (!(first :: subs).isEmpty) = true := rfl
    rw [if_pos inSub]
    by_cases hroom : subs.length < maxSubs
    · have kept : ¬maxSubs < (first :: subs).length := by
        rw [List.length_cons]
        omega
      rw [ofNumbers_snoc_of_room hroom, decide_eq_false kept]
      rfl
    · have full : maxSubs < (first :: subs).length := by
        rw [List.length_cons]
        omega
      rw [ofNumbers_snoc_of_full hroom, decide_eq_true full]
      rfl

/-- The number being read is dropped. -/
theorem commit_dropping : (dropping done current digits).commit =
    { dropping done current [] with overflowed := exceeds (done ++ [current ++ [digits]]) } := by
  obtain ⟨-, above⟩ := cut_number done current digits
  unfold commit dropping
  dsimp only
  rw [above]
  rfl

/-! ## One byte -/

/-- The builder that has read the parameters `done`, the numbers `current` of the next one and the
digits of its next number. -/
def reading (done : List (List (List UInt8))) (current : List (List UInt8))
    (digits : List UInt8) : Builder :=
  if done.length < maxCount then keeping done current digits else dropping done current digits

theorem opened_keeping : (keeping done current digits).opened = keeping done current digits :=
  opened_of_ne_nil (List.cons_ne_nil _ _)

theorem opened_dropping (h : ¬done.length < maxCount) :
    (dropping done current digits).opened = dropping done current digits := by
  refine opened_of_ne_nil ?_
  rw [dropping, Ne, List.reverse_eq_nil_iff, List.map_eq_nil_iff, List.take_eq_nil_iff, not_or]
  exact ⟨by decide, List.ne_nil_of_length_pos (Nat.lt_of_lt_of_le (by decide) (Nat.not_lt.1 h))⟩

theorem number_snoc (digits : List UInt8) (b : UInt8) :
    number (digits ++ [b]) = number digits * 10 + (b.toNat - 0x30) := List.foldl_append

theorem digit_reading (b : UInt8) : (reading done current digits).digit (b.toNat - 0x30) =
    reading done current (digits ++ [b]) := by
  have value : min (min (number digits) (maxValue + 1) * 10 + (b.toNat - 0x30)) (maxValue + 1) =
      min (number (digits ++ [b])) (maxValue + 1) := by
    rw [number_snoc]
    omega
  have some_digit : (!(digits ++ [b]).isEmpty) = true := by simp
  unfold reading digit
  split
  · rw [opened_keeping]
    simp only [keeping]
    rw [value, some_digit]
  · rename_i hfull
    rw [opened_dropping hfull]
    simp only [dropping]
    rw [value, some_digit]

/-- The start of a parameter adds no number. -/
theorem exceeds_start (parts : List (List (List UInt8))) :
    exceeds (parts ++ [[]]) = exceeds parts := by
  rw [exceeds_append]
  exact Bool.or_false _

/-- A semicolon completes the parameter. The next one is kept if there is room for it. -/
theorem semicolon_reading : (reading done current digits).semicolon.1 =
    reading (done ++ [current ++ [digits]]) [] [] := by
  have length : (done ++ [current ++ [digits]]).length = done.length + 1 := by simp
  have before : (done ++ [current ++ [digits]]).map Param.ofNumbers =
      done.map Param.ofNumbers ++ [Param.ofNumbers (current ++ [digits])] := by simp
  unfold reading semicolon
  rw [length]
  by_cases hkept : done.length < maxCount
  · rw [if_pos hkept, opened_keeping, commit_keeping]
    dsimp only [keeping]
    rw [if_neg Bool.false_ne_true, List.length_cons, List.length_reverse, List.length_map]
    by_cases hroom : done.length + 1 < maxCount
    · rw [if_neg (Nat.ne_of_lt hroom), if_pos hroom, exceeds_start, before, List.reverse_concat]
      rfl
    · have last : done.length + 1 = maxCount := by omega
      rw [if_pos last, if_neg hroom, dropping, exceeds_start,
        List.take_of_length_le (by omega), before, List.reverse_concat]
      rfl
  · have full : ¬done.length + 1 < maxCount := by omega
    have kept : (done ++ [current ++ [digits]]).take maxCount = done.take maxCount :=
      List.take_append_of_le_length (Nat.not_lt.1 hkept)
    rw [if_neg hkept, opened_dropping hkept, commit_dropping, if_neg full]
    unfold dropping
    rw [kept, exceeds_start]
    rfl

/-- A colon makes a place for the next number of a parameter that is kept, if there is room for
it. -/
theorem started_snoc (current : List (List UInt8)) (digits : List UInt8) :
    started (current ++ [digits]) =
      if (Param.ofNumbers (current ++ [digits])).subs.length = maxSubs
        then Param.ofNumbers (current ++ [digits])
      else { Param.ofNumbers (current ++ [digits]) with
        subs := (Param.ofNumbers (current ++ [digits])).subs ++ [0] } := by
  obtain ⟨value, subs, h⟩ := List.exists_cons_of_ne_nil (List.append_ne_nil_of_right_ne_nil current
    (List.cons_ne_nil digits []))
  have length : (Param.ofNumbers (value :: subs)).subs.length = min maxSubs subs.length := by
    simp [Param.ofNumbers]
  rw [h, length, started]
  by_cases hroom : subs.length < maxSubs
  · rw [if_pos hroom, if_neg (by omega)]
    rfl
  · rw [if_neg hroom, if_pos (by omega), List.append_nil]
    rfl

/-- The place after a colon is missing exactly if the parameter has as many sub-parameters as are
kept. -/
theorem full_snoc (current : List (List UInt8)) (digits : List UInt8) :
    decide (maxSubs < (current ++ [digits]).length) =
      decide ((Param.ofNumbers (current ++ [digits])).subs.length = maxSubs) := by
  have length : (Param.ofNumbers (current ++ [digits])).subs.length =
      min maxSubs current.length := by
    cases current <;> simp [Param.ofNumbers]
  rw [length, List.length_append, List.length_singleton, decide_eq_decide]
  omega

/-- A colon completes a number of the parameter. Its next number is kept if there is room for it. -/
theorem colon_reading : (reading done current digits).colon.1 =
    reading done (current ++ [digits]) [] := by
  have inSub : (!(current ++ [digits]).isEmpty) = true := by simp
  unfold reading colon
  by_cases hkept : done.length < maxCount
  · rw [if_pos hkept, if_pos hkept, opened_keeping, commit_keeping]
    unfold keeping
    rw [inSub, started_snoc, full_snoc]
    dsimp only
    rw [if_neg Bool.false_ne_true]
    split
    · rename_i hfull
      rw [decide_eq_true hfull]
    · rename_i hroom
      have room : ¬maxSubs < current.length := by
        have fits := decide_eq_decide.1 (full_snoc current digits)
        rw [List.length_append] at fits
        omega
      rw [decide_eq_false hroom, decide_eq_false room]
  · rw [if_neg hkept, if_neg hkept, opened_dropping hkept, commit_dropping]
    unfold dropping
    rw [inSub]
    rfl

/-- The end of the part completes the last parameter. -/
theorem finish_reading :
    (reading done current digits).finish = ofParts (done ++ [current ++ [digits]]) := by
  unfold reading finish
  by_cases hkept : done.length < maxCount
  · rw [if_pos hkept, commit_keeping]
    have kept : (done ++ [current ++ [digits]]).take maxCount = done ++ [current ++ [digits]] :=
      List.take_of_length_le (by simp; omega)
    rw [ofParts, kept]
    simp [keeping]
  · have some_item : (dropping done current digits).items.isEmpty = false := by
      rw [← opened_dropping hkept]
      simp [opened_ne_nil]
    rw [if_neg hkept, commit_dropping, some_item, ofParts,
      List.take_append_of_le_length (Nat.not_lt.1 hkept)]
    simp [dropping]

/-! ## The whole part -/

/-- The numbers once the bytes `part` were read, from the numbers before: the first ones of `part`
continue what was being read. -/
def continued (done : List (List (List UInt8))) (current : List (List UInt8))
    (digits part : List UInt8) : List (List (List UInt8)) :=
  done ++ (split part).modifyHead fun numbers => current ++ numbers.modifyHead (digits ++ ·)

theorem continued_nil : continued done current digits [] = done ++ [current ++ [digits]] := by
  simp [continued, split]

theorem continued_digit {b : UInt8} (hcolon : b ≠ 0x3a) (hsemicolon : b ≠ 0x3b)
    (part : List UInt8) :
    continued done current digits (b :: part) = continued done current (digits ++ [b]) part := by
  have apart : (b == 0x3a) = false := beq_eq_false_iff_ne.2 hcolon
  rw [continued, continued, split_cons hsemicolon, apart, List.modifyHead_modifyHead]
  congr 2
  funext numbers
  rw [Function.comp_apply, if_neg Bool.false_ne_true, List.modifyHead_modifyHead]
  congr 2
  funext more
  exact List.append_cons digits b more

theorem modifyHead_nil_append (numbers : List (List UInt8)) :
    numbers.modifyHead ([] ++ ·) = numbers := by
  cases numbers <;> rfl

theorem continued_colon (part : List UInt8) :
    continued done current digits (0x3a :: part) =
      continued done (current ++ [digits]) [] part := by
  rw [continued, continued, split_cons (by decide), List.modifyHead_modifyHead]
  congr 2
  funext numbers
  rw [Function.comp_apply, if_pos (beq_self_eq_true _), List.modifyHead_cons, List.append_nil,
    List.append_cons, modifyHead_nil_append]

/-- At the start of a parameter the rest of the part writes all of the rest. -/
theorem continued_start (part : List UInt8) : continued done [] [] part = done ++ split part := by
  obtain ⟨first, rest, h⟩ := List.exists_cons_of_ne_nil (split_ne_nil part)
  rw [continued, h, List.modifyHead_cons, modifyHead_nil_append, List.nil_append]

theorem continued_semicolon (part : List UInt8) :
    continued done current digits (0x3b :: part) =
      continued (done ++ [current ++ [digits]]) [] [] part := by
  rw [continued_start, continued, split_semicolon, List.modifyHead_cons, List.modifyHead_cons,
    List.append_nil, List.append_cons]

/-- The numbers so far and those of `part` are the parameters in the end. -/
theorem finish_feed_reading (part : List UInt8) (h : ∀ b ∈ part, isParam b = true) :
    ((reading done current digits).feed part).finish =
      ofParts (continued done current digits part) := by
  induction part generalizing done current digits with
  | nil =>
    rw [continued_nil]
    exact finish_reading
  | cons b part ih =>
    rw [List.forall_mem_cons] at h
    show ((push _ b).1.feed part).finish = _
    obtain ⟨low, high⟩ : 0x30 ≤ b.toNat ∧ b.toNat ≤ 0x3b := by
      simpa [isParam, UInt8.le_iff_toNat_le] using h.1
    rw [push]
    split
    · rename_i hdigit
      have above : b.toNat ≤ 0x39 := by
        simp [UInt8.le_iff_toNat_le] at hdigit
        omega
      have colon : b ≠ 0x3a := by
        rintro rfl
        exact absurd above (by decide)
      have semicolon : b ≠ 0x3b := by
        rintro rfl
        exact absurd above (by decide)
      rw [digit_reading, continued_digit colon semicolon]
      exact ih h.2
    · split
      · rename_i hcolon
        rw [hcolon, colon_reading, continued_colon]
        exact ih h.2
      · rename_i hdigit hcolon
        have hsemicolon : b = 0x3b := by
          simp [UInt8.le_iff_toNat_le, ← UInt8.toNat_inj] at hdigit hcolon ⊢
          omega
        rw [hsemicolon, semicolon_reading, continued_semicolon]
        exact ih h.2

/-- The parameters that the decoder reads from a parameter part are those that the part writes. -/
theorem finish_feed_part (part : List UInt8) (h : ∀ b ∈ part, isParam b = true) :
    (({} : Builder).feed part).finish = ofPart part := by
  rw [ofPart]
  cases part with
  | nil => rfl
  | cons b part =>
    have start : ({} : Builder).opened = reading [] [] [] := rfl
    rw [← feed_opened (List.cons_ne_nil _ _), start, finish_feed_reading _ h, continued_start]
    rfl

end Builder

end Params

end Teletype.Control
