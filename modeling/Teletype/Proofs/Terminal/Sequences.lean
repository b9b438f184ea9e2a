import Teletype.Proofs.Control.Grammar
import Teletype.Proofs.Grid.Page
import Teletype.Proofs.Terminal.Restoring

/-!
# Control sequences written whole

A control sequence that is written in one piece is read as it was written wherever it comes, as its
ESC breaks off what was being read. What the terminal does with the end of that comes first, then
what the sequence asks for.
-/

namespace Teletype

open Text.Utf8 (encode)

/-! ## Numbers in a parameter part -/

namespace Control

/-- The parameter of numbers between colons, where a number may be left out. -/
def Param.ofFields : List (Option Nat) → Param
  | [] => {}
  | value :: subs =>
    { value := min (value.getD 0) Params.maxValue
      isDefault := value.isNone
      subs := (subs.take Params.maxSubs).map fun n => min (n.getD 0) Params.maxValue }

namespace Params

variable {fields : List (List (Option Nat))} {n : Nat}

/-- A number in decimal, and nothing for one that is left out. -/
def numeral : Option Nat → List UInt8
  | none => []
  | some n => encode (toString n)

/-- The parameter part with colons between the numbers of a parameter and semicolons between
parameters. -/
def written (fields : List (List (Option Nat))) : List UInt8 :=
  [0x3b].intercalate (fields.map fun numbers => [0x3a].intercalate (numbers.map numeral))

/-- One of the numbers is above the greatest value. -/
def tooGreat (fields : List (List (Option Nat))) : Bool :=
  fields.any fun numbers => numbers.any (maxValue < ·.getD 0)

theorem digits_numeral (n : Nat) :
    (∀ b ∈ numeral (some n), 0x30 ≤ b.toNat ∧ b.toNat ≤ 0x39) ∧ number (numeral (some n)) = n := by
  have digit : ∀ n < 10, (UInt8.ofNat (0x30 + n)).toNat = 0x30 + n := by decide
  have last : ∀ n < 10, ∀ b ∈ numeral (some n), 0x30 ≤ b.toNat ∧ b.toNat ≤ 0x39 :=
    fun n hn b hb => by
    rw [numeral, Builder.numeral_of_lt hn, List.mem_singleton] at hb
    rw [hb, digit n hn]
    omega
  induction n using Nat.strongRecOn with
  | ind n ih =>
    by_cases h : n < 10
    · refine ⟨last n h, ?_⟩
      rw [numeral, Builder.numeral_of_lt h, number, List.foldl_cons, List.foldl_nil, digit n h]
      omega
    · have low : n % 10 < 10 := Nat.mod_lt n (by decide)
      obtain ⟨digits, value⟩ := ih (n / 10) (by omega)
      rw [numeral, Builder.numeral_step (by omega)]
      refine ⟨List.forall_mem_append.2 ⟨digits, last _ low⟩, ?_⟩
      rw [numeral] at value
      rw [Builder.numeral_of_lt low, Builder.number_snoc, value, digit _ low]
      omega

theorem numeral_bounds (n : Option Nat) : ∀ b ∈ numeral n, 0x30 ≤ b.toNat ∧ b.toNat ≤ 0x39 := by
  cases n with
  | none => exact nofun
  | some n => exact (digits_numeral n).1

theorem number_numeral (n : Option Nat) : number (numeral n) = n.getD 0 := by
  cases n with
  | none => rfl
  | some n => exact (digits_numeral n).2

theorem isEmpty_numeral (n : Option Nat) : (numeral n).isEmpty = n.isNone := by
  cases n with
  | none => rfl
  | some n =>
    rw [Option.isNone_some, List.isEmpty_eq_false_iff]
    exact Builder.numeral_ne_nil n

theorem written_isParam (fields : List (List (Option Nat))) :
    ∀ b ∈ written fields, isParam b = true := by
  refine forall_mem_intercalate (by simp [isParam]) fun part hpart => ?_
  obtain ⟨numbers, -, rfl⟩ := List.mem_map.1 hpart
  refine forall_mem_intercalate (by simp [isParam]) fun digits hdigits b hb => ?_
  obtain ⟨n, -, rfl⟩ := List.mem_map.1 hdigits
  obtain ⟨low, high⟩ := numeral_bounds n b hb
  simp [isParam, UInt8.le_iff_toNat_le]
  omega

theorem written_ne_nil (subs : List (Option Nat)) (rest : List (List (Option Nat))) :
    written ((some n :: subs) :: rest) ≠ [] := by
  have starts {separator first : List UInt8} (h : first ≠ []) (rest : List (List UInt8)) :
      separator.intercalate (first :: rest) ≠ [] := by
    cases rest with
    | nil => rwa [List.intercalate_singleton]
    | cons next rest =>
      rw [List.intercalate_cons_cons, List.append_assoc]
      exact List.append_ne_nil_of_left_ne_nil h _
  exact starts (starts (Builder.numeral_ne_nil n) _) _

/-- Splitting the part gives the numbers back. -/
theorem split_written (hne : fields ≠ []) (h : ∀ numbers ∈ fields, numbers ≠ []) :
    split (written fields) = fields.map (·.map numeral) := by
  have apart {b : UInt8} (hb : 0x39 < b.toNat) (n : Option Nat) : b ∉ numeral n :=
    fun mem => Nat.not_lt.2 (numeral_bounds n b mem).2 hb
  have semicolon : ∀ part ∈ fields.map fun numbers => [0x3a].intercalate (numbers.map numeral),
      (0x3b : UInt8) ∉ part := fun part hpart mem => by
    obtain ⟨numbers, -, rfl⟩ := List.mem_map.1 hpart
    refine forall_mem_intercalate (P := (· ≠ (0x3b : UInt8)))
      (List.forall_mem_singleton.2 (by decide)) (fun digits hdigits b hb => ?_) _ mem rfl
    obtain ⟨n, -, rfl⟩ := List.mem_map.1 hdigits
    rintro rfl
    exact apart (by decide) n hb
  rw [split, written, List.splitOn_intercalate _ semicolon (by simpa using hne), List.map_map]
  refine List.map_congr_left
    fun numbers mem => List.splitOn_intercalate _ (fun digits hdigits => ?_) ?_
  · obtain ⟨n, -, rfl⟩ := List.mem_map.1 hdigits
    exact apart (by decide) n
  · simpa using h numbers mem

theorem ofNumbers_numeral (numbers : List (Option Nat)) :
    Param.ofNumbers (numbers.map numeral) = Param.ofFields numbers := by
  have same (n : Option Nat) : saturated (numeral n) = min (n.getD 0) maxValue := by
    rw [saturated, number_numeral]
  cases numbers with
  | nil => rfl
  | cons value subs =>
    rw [List.map_cons, Param.ofNumbers, Param.ofFields, same, isEmpty_numeral, ← List.map_take,
      List.map_map]
    exact congrArg _ (List.map_congr_left fun n _ => same n)

/-- What the decoder makes of the part, which starts with a number. -/
theorem ofPart_written (subs : List (Option Nat)) {rest : List (List (Option Nat))}
    (h : ∀ numbers ∈ rest, numbers ≠ []) :
    let fields := (some n :: subs) :: rest
    ofPart (written fields) =
      { items := (fields.take maxCount).map Param.ofFields, overflowed := tooGreat fields } := by
  intro fields
  have hfields : ∀ numbers ∈ fields, numbers ≠ [] :=
    List.forall_mem_cons.2 ⟨List.cons_ne_nil _ _, h⟩
  rw [ofPart, if_neg (by simpa using written_ne_nil subs rest),
    split_written (List.cons_ne_nil _ _) hfields, ofParts, ← List.map_take, List.map_map]
  congr 1
  · exact List.map_congr_left fun numbers _ => ofNumbers_numeral numbers
  · simp only [exceeds, tooGreat, List.any_map, Function.comp_def, number_numeral, fields]

end Params

end Control

/-! ## The sequence -/

namespace Control

/-- The bytes of the word before the final one. -/
def Spelling.body (w : Spelling) : List UInt8 := w.marker.toList ++ w.part ++ w.intermediates

/-- The bytes before the final one belong to the word, and neither end it nor are executed. -/
theorem Spelling.inner (w : Spelling) : ∀ b ∈ w.body, Inner b ∧ isVisible b = true ∧ ¬b < 0x20 := by
  have inner (b : UInt8) (low : 0x20 ≤ b.toNat) (high : b.toNat ≤ 0x3f) :
      Inner b ∧ isVisible b = true ∧ ¬b < 0x20 := by
    refine ⟨⟨?_, ?_, ?_, ?_⟩, ?_, ?_⟩ <;>
      simp [isCancel, isC1, Control.isFinal, isVisible, UInt8.le_iff_toNat_le,
        UInt8.lt_iff_toNat_lt, ← UInt8.toNat_inj] <;>
      omega
  have marker := w.isMarker
  have param := w.isParam
  have intermediate := w.isIntermediate
  simp only [Control.isMarker, Control.isParam, Control.isIntermediate, Bool.and_eq_true,
    decide_eq_true_eq, UInt8.le_iff_toNat_le] at marker param intermediate
  intro b hb
  simp only [body, List.mem_append, Option.mem_toList] at hb
  obtain (hb | hb) | hb := hb
  · have bounds := marker b hb
    exact inner b (Nat.le_trans (by decide) bounds.1) bounds.2
  · have bounds := param b hb
    exact inner b (Nat.le_trans (by decide) bounds.1) (Nat.le_trans bounds.2 (by decide))
  · have bounds := intermediate b hb
    exact inner b bounds.1 (Nat.le_trans bounds.2 (by decide))

namespace Decoder

/-- After ESC the rest of a control sequence is read as it was written. -/
theorem feed_spelling_rest (closing sixel : Bool) (w : Spelling) :
    let fed := feed { state := .escape closing, sixel } (0x5b :: w.bytes)
    fed.1.state = .ground ∧ fed.2.toList = [.control w.sequence] := by
  have inner := w.inner
  have visible : w.body.filter isVisible = w.body :=
    List.filter_eq_self.2 fun b hb => (inner b hb).2.1
  have quiet : executed w.body = [] := by
    rw [executed, List.filter_eq_nil_iff.2 fun b hb => by simpa using (inner b hb).2.2]
    rfl
  obtain ⟨entered, silent⟩ :
      (({ state := .escape closing, sixel } : Decoder).step 0x5b).1.state = .csiEntry ∧
      (({ state := .escape closing, sixel } : Decoder).step 0x5b).2 = [] := by
    cases closing <;> exact ⟨rfl, rfl⟩
  have bytes : w.bytes = w.body ++ [w.final] := rfl
  have first := feed_cons ({ state := .escape closing, sixel } : Decoder) 0x5b (w.body ++ [w.final])
  rw [silent, List.nil_append] at first
  generalize (({ state := .escape closing, sixel } : Decoder).step 0x5b).1 = d at entered first
  have within : d.state.InSequence := entered ▸ .entry
  obtain ⟨inside, executes, reads⟩ := feed_inner within fun b hb => (inner b hb).1
  obtain ⟨ground, emitted, completed, spells⟩ :=
    transition_final inside w.isFinal (d.feed w.body).1.sixel
  have word : emitted = some w.sequence := by
    rw [spells, ← reads, visible, entered]
    exact ⟨w, rfl, rfl⟩
  rw [word] at completed
  have last := feed_append d w.body [w.final]
  dsimp only
  rw [bytes, first.1, first.2, last, Array.toList_append, executes, quiet, List.nil_append]
  refine ⟨(note_eq _ _).1.trans ground, ?_⟩
  rw [(feed_cons _ _ _).2]
  exact (List.append_nil _).trans completed

/-- A control sequence that is written whole is read as it was written. Its ESC ends what was being
read. -/
theorem feed_spelling (d : Decoder) (w : Spelling) :
    let fed := d.feed ([0x1b, 0x5b] ++ w.bytes)
    fed.1.state = .ground ∧ fed.2.toList = (d.step 0x1b).2 ++ [.control w.sequence] :=
  ⟨d.state_feed_sequence fun closing sixel => (feed_spelling_rest closing sixel w).1,
    d.feed_sequence fun closing sixel => (feed_spelling_rest closing sixel w).2⟩

end Decoder

end Control

namespace Terminal

/-- The end of what a sequence breaks off is what an ESC does alone, but for the character printed
last, the decoder and reports. -/
theorem drawn_broken (t : Terminal) (now : Instant) (bytes : List UInt8) :
    let start := t.broken now (0x1b :: bytes)
    ∃ decoder reports, { start with schedule := start.schedule.onOutput now } =
      { t.feed [0x1b] now with composeAt := none, decoder, reports } := by
  have drawn : (t.feed [0x1b] now).schedule.onOutput now = (t.feed [0x1b] now).schedule := by
    rw [feed_eq]
    exact Schedule.onOutput_onOutput _ now
  obtain ⟨d, e, more, u, broken, twin⟩ := t.twin_broken now bytes
  dsimp only
  rw [broken]
  generalize t.feed [0x1b] now = v at drawn twin
  cases twin with
  | @intro alike s s' r r' level reports =>
    have same : s.onOutput now = s' := level.trans drawn
    exact ⟨d, r, congrArg (fun s => { alike.dressed d s r with composeAt := none }) same⟩

/-- What a control sequence asks for is done after the end of what it breaks off, and nothing is
left open. -/
theorem feed_spelling (t : Terminal) (w : Control.Spelling) (now : Instant) :
    let bytes := [0x1b, 0x5b] ++ w.bytes
    let done := (t.broken now bytes).run now (.ofSequence w.sequence)
    t.feed bytes now = { done with schedule := done.schedule.onOutput now } ∧
      (t.feed bytes now).decoder.state = .ground ∧
      (t.feed bytes now).decoder.sixel = t.decoder.sixel := by
  intro bytes done
  have some : bytes.isEmpty = false := rfl
  obtain ⟨ground, actions⟩ := t.decoder.feed_spelling w
  have decoder := (t.twin_feed bytes [] now).decoder
  refine ⟨?_, ?_, ?_⟩
  · rw [feed_eq, some, actions, List.foldl_append]
    rfl
  · rw [decoder]
    exact ground
  · rw [decoder]
    exact t.decoder.sixel_feed bytes

end Terminal

end Teletype
