import Teletype.Proofs.Control.Feed
import Teletype.Proofs.Text.Utf8

/-!
# Text in the ground state

Of text the machine prints the characters whose UTF-8 forms occur in it, in order. A form that is
not complete yet is kept in the state and read on later.
-/

namespace Teletype.Control

open Text.Utf8 (following scalars front? single? isContinuation Shaped)

/-- The printable bytes of ASCII and all bytes beyond. -/
def isText (b : UInt8) : Bool := 0x20 ≤ b && b != 0x7f

/-- What has been read of a form in the ground state or within a character. -/
inductive State.Begun : State → List UInt8 → Prop
  | ground : Begun .ground []
  | collect {first : UInt8} {more : List UInt8} {missing : Nat}
      (following : following first = some (more.length + missing)) (missing_pos : 0 < missing)
      (continuation : ∀ b ∈ more, isContinuation b = true) :
      Begun (.utf8Collect (first :: more) missing) (first :: more)

section

variable {b : UInt8}

theorem ground_ascii (h : isText b = true) (low : b < 0x80) :
    ground b = { state := .ground, actions := [.print (Char.ofNat b.toNat)] } := by
  have printable : b ≠ 0x1b ∧ ¬b < 0x20 ∧ b < 0x7f := by
    simp [isText, UInt8.le_iff_toNat_le, UInt8.lt_iff_toNat_lt, ← UInt8.toNat_inj] at h low ⊢
    omega
  rw [ground, if_neg printable.1, if_neg printable.2.1, if_pos printable.2.2]

/-- Beyond ASCII the first byte of a form is kept and any other one is skipped. -/
theorem ground_high (high : ¬b < 0x80) : ground b =
    match following b with
    | some n => { state := .utf8Collect [b] n }
    | none => { state := .ground } := by
  have beyond : b ≠ 0x1b ∧ ¬b < 0x20 ∧ ¬b < 0x7f := by
    simp [UInt8.lt_iff_toNat_lt, ← UInt8.toNat_inj] at high ⊢
    omega
  rw [ground, if_neg beyond.1, if_neg beyond.2.1, if_neg beyond.2.2, following]
  split_ifs <;> rfl

/-- What is read of a form after a byte, and the characters that the byte completes. -/
def Advances (next : Next) (bytes : List UInt8) : Prop :=
  ∃ begun chars, next.state.Begun begun ∧ next.actions = chars.map .print ∧
    ∀ rest, scalars (bytes ++ rest) = chars ++ scalars (begun ++ rest)

theorem advances_ground (h : isText b = true) : Advances (ground b) [b] := by
  by_cases low : b < 0x80
  · rw [ground_ascii h low]
    refine ⟨[], [Char.ofNat b.toNat], .ground, rfl, fun rest => ?_⟩
    rw [List.singleton_append, Text.Utf8.scalars_cons, Text.Utf8.front?_ascii low]
    rfl
  · rw [ground_high low]
    cases first : following b with
    | some n =>
      have pos : 0 < n := by
        have cases := Text.Utf8.following_iff.1 first
        omega
      exact ⟨[b], [], .collect (by simpa using first) pos (List.forall_mem_nil _), rfl,
        fun rest => rfl⟩
    | none =>
      refine ⟨[], [], .ground, rfl, fun rest => ?_⟩
      rw [List.singleton_append, Text.Utf8.scalars_cons, Text.Utf8.front?_stray low first]
      rfl

/-- A byte that does not continue a form is read anew. -/
theorem advances_broken {first : UInt8} {more : List UInt8} {n : Nat} (h : isText b = true)
    (lead : following first = some n) (short : more.length < n)
    (continuation : ∀ b ∈ more, isContinuation b = true)
    (hb : isContinuation b = false) : Advances (ground b) (first :: more ++ [b]) := by
  obtain ⟨begun, chars, state, actions, read⟩ := advances_ground h
  refine ⟨begun, chars, state, actions, fun rest => ?_⟩
  have broken : front? (first :: more ++ (b :: rest)) = none :=
    Text.Utf8.front?_broken lead short (by simpa using hb)
  rw [List.append_assoc, List.singleton_append, List.cons_append, Text.Utf8.scalars_cons,
    ← List.cons_append, broken, Text.Utf8.scalars_append_continuation continuation]
  exact read rest

/-- The last byte of a form completes its character, if it is one. -/
theorem advances_last {first : UInt8} {more : List UInt8} (h : Shaped first (more ++ [b])) :
    Advances
      { state := .ground
        actions := ((single? (first :: more ++ [b])).map Action.print).toList }
      (first :: more ++ [b]) := by
  refine ⟨[], (single? (first :: more ++ [b])).toList, .ground, ?_, fun rest => ?_⟩
  · cases single? (first :: more ++ [b]) <;> rfl
  · have alone : scalars (more ++ [b] ++ rest) = scalars rest :=
      Text.Utf8.scalars_append_continuation h.continuation rest
    rw [List.cons_append, List.cons_append, Text.Utf8.scalars_cons, ← List.cons_append,
      Text.Utf8.front?_shaped h, alone]
    rfl

theorem advances_collect {first : UInt8} {more : List UInt8} {missing : Nat} (hb : isText b = true)
    (lead : following first = some (more.length + missing)) (pos : 0 < missing)
    (continuation : ∀ b ∈ more, isContinuation b = true) :
    Advances (collectUtf8 (first :: more) missing b) (first :: more ++ [b]) := by
  rw [collectUtf8]
  cases continues : isContinuation b with
  | false =>
    rw [if_neg Bool.false_ne_true]
    exact advances_broken hb lead (by omega) continuation continues
  | true =>
    have all : ∀ c ∈ more ++ [b], isContinuation c = true := by
      rw [List.forall_mem_append, List.forall_mem_singleton]
      exact ⟨continuation, continues⟩
    have length : (more ++ [b]).length = more.length + 1 := by
      rw [List.length_append, List.length_singleton]
    rw [if_pos rfl]
    by_cases last : missing ≤ 1
    · have whole : more.length + missing = (more ++ [b]).length := by omega
      rw [if_pos last]
      exact advances_last ⟨whole ▸ lead, all⟩
    · have still : more.length + missing = (more ++ [b]).length + (missing - 1) := by omega
      rw [if_neg last]
      exact ⟨_, [], .collect (still ▸ lead) (by omega) all, rfl, fun rest => rfl⟩

theorem advances_transition {st : State} {begun : List UInt8} (hst : st.Begun begun)
    (hb : isText b = true) (sixel : Bool) : Advances (transition sixel b st) (begun ++ [b]) := by
  cases hst with
  | ground => exact advances_ground hb
  | collect lead pos continuation => exact advances_collect hb lead pos continuation

end

namespace State

/-- A form that is not complete is no character. -/
theorem Begun.scalars_eq_nil {st : State} {begun : List UInt8} (h : st.Begun begun) :
    scalars begun = [] := by
  cases h with
  | ground => rfl
  | @collect first more missing lead pos continuation =>
    have broken : front? (first :: more ++ []) = none :=
      Text.Utf8.front?_broken lead (by omega) (by simp)
    have none_within : scalars (more ++ []) = [] :=
      Text.Utf8.scalars_append_continuation continuation []
    rw [List.append_nil] at broken none_within
    rw [Text.Utf8.scalars_cons, broken, none_within]
    rfl

end State

namespace Decoder

variable {d : Decoder} {begun bytes : List UInt8}

/-- What is begun in the end and the characters printed are those of the bytes. -/
theorem feed_begun (hd : d.state.Begun begun) (hbytes : ∀ b ∈ bytes, isText b = true) :
    ∃ begun' chars, (d.feed bytes).1.state.Begun begun' ∧
      (d.feed bytes).2.toList = chars.map .print ∧ ∀ rest, scalars (begun ++ bytes ++ rest) =
      chars ++ scalars (begun' ++ rest) := by
  induction bytes generalizing d begun with
  | nil => exact ⟨begun, [], hd, rfl, fun rest => by rw [List.append_nil]; rfl⟩
  | cons b bytes ih =>
    rw [List.forall_mem_cons] at hbytes
    obtain ⟨next, chars, state, actions, read⟩ := advances_transition hd hbytes.1 d.sixel
    have here : (d.step b).1.state.Begun next := by
      rw [step, (note_eq _ _).1]
      exact state
    obtain ⟨last, more, state', actions', read'⟩ := ih here hbytes.2
    rw [(feed_cons d b bytes).1, (feed_cons d b bytes).2]
    refine ⟨last, chars ++ more, state', ?_, fun rest => ?_⟩
    · rw [List.map_append, ← actions, ← actions']
      rfl
    · rw [List.append_cons, List.append_assoc, read, ← List.append_assoc, read', List.append_assoc]

/-- Text prints its characters. -/
theorem feed_scalars (hd : d.state.Begun begun) (hbytes : ∀ b ∈ bytes, isText b = true) :
    (d.feed bytes).2.toList = (scalars (begun ++ bytes)).map .print := by
  obtain ⟨last, chars, state, actions, read⟩ := feed_begun hd hbytes
  have all := read []
  rw [List.append_nil, List.append_nil, state.scalars_eq_nil, List.append_nil] at all
  rw [actions, all]

/-! ## Forms across feeds -/

/-- The first byte of a form starts it in whatever was begun. -/
theorem step_first {st : List UInt8} (hd : d.state.Begun st) {first : UInt8} {n : Nat}
    (h : following first = some n) :
    (d.step first).1.state = .utf8Collect [first] n ∧ (d.step first).2 = [] := by
  have high := Text.Utf8.high_of_following h
  have start : ground first = { state := .utf8Collect [first] n } := by
    rw [ground_high high, h]
  have next : transition d.sixel first d.state = { state := .utf8Collect [first] n } := by
    generalize d.state = state at hd
    cases hd with
    | ground => exact start
    | collect lead pos continuation =>
      rw [transition, collectUtf8, Text.Utf8.not_continuation_of_following h,
        if_neg Bool.false_ne_true, start]
  rw [step, next, (note_eq _ _).1]
  exact ⟨rfl, rfl⟩

/-- Continuation bytes are kept while some are missing. -/
theorem feed_continuation {more : List UInt8} {missing : Nat}
    (hd : d.state = .utf8Collect begun missing) (h : ∀ b ∈ more, isContinuation b = true)
    (short : more.length < missing) :
    (d.feed more).1.state = .utf8Collect (begun ++ more) (missing - more.length) ∧
      (d.feed more).2.toList = [] := by
  induction more generalizing d begun missing with
  | nil =>
    rw [List.append_nil]
    exact ⟨hd, rfl⟩
  | cons b more ih =>
    rw [List.forall_mem_cons] at h
    rw [List.length_cons] at short
    have next :
        transition d.sixel b d.state = { state := .utf8Collect (begun ++ [b]) (missing - 1) } := by
      rw [hd, transition, collectUtf8, if_pos h.1, if_neg (by omega)]
    have state : (d.step b).1.state = .utf8Collect (begun ++ [b]) (missing - 1) := by
      rw [step, next, (note_eq _ _).1]
    have quiet : (d.step b).2 = [] := congrArg Next.actions next
    obtain ⟨last, silent⟩ := ih state h.2 (by omega)
    rw [(feed_cons d b more).1, (feed_cons d b more).2, quiet, silent, last, List.append_assoc,
      List.length_cons, Nat.sub_sub, Nat.add_comm 1]
    exact ⟨rfl, rfl⟩

/-- The missing bytes complete the form. -/
theorem feed_missing {rest : List UInt8} (hd : d.state = .utf8Collect begun rest.length)
    (hne : rest ≠ []) (h : ∀ b ∈ rest, isContinuation b = true) : (d.feed rest).1.state = .ground ∧
      (d.feed rest).2.toList = ((single? (begun ++ rest)).map Action.print).toList := by
  obtain ⟨more, b, rfl⟩ := (List.eq_nil_or_concat' rest).resolve_left hne
  rw [List.forall_mem_append, List.forall_mem_singleton] at h
  rw [List.length_append, List.length_singleton] at hd
  obtain ⟨kept, silent⟩ := feed_continuation hd h.1 (Nat.lt_succ_self _)
  rw [Nat.add_sub_cancel_left] at kept
  rw [feed_append, Array.toList_append, silent]
  generalize (d.feed more).1 = last at kept
  have next : transition last.sixel b last.state = { state := .ground, actions :=
      ((single? (begun ++ more ++ [b])).map Action.print).toList } := by
    rw [kept, transition, collectUtf8, if_pos h.2, if_pos (Nat.le_refl 1)]
  have state : (last.step b).1.state = .ground := by
    rw [step, next, (note_eq _ _).1]
  have printed : (last.step b).2 = ((single? (begun ++ more ++ [b])).map Action.print).toList :=
    congrArg Next.actions next
  rw [(feed_cons last b []).1, (feed_cons last b []).2, printed, List.append_assoc]
  exact ⟨state, List.append_nil _⟩

/-- The beginning of a form at the end of the text is kept in the state. -/
theorem feed_beginning (hd : d.state = .ground) (hbytes : ∀ b ∈ bytes, isText b = true) {c : Char}
    {rest : List UInt8} (form : begun ++ rest = String.utf8EncodeChar c) (begun_ne : begun ≠ [])
    (rest_ne : rest ≠ []) (ends : begun <:+ bytes) :
    (d.feed bytes).1.state = .utf8Collect begun rest.length ∧
      ((d.feed bytes).1.feed rest).2.toList = [.print c] ∧
        ((d.feed bytes).1.feed rest).1.state = .ground := by
  obtain ⟨first, more, rfl⟩ := List.exists_cons_of_ne_nil begun_ne
  obtain ⟨before, rfl⟩ := ends
  have shape : Shaped first (more ++ rest) := by
    obtain ⟨-, single⟩ | ⟨lead, all, long, shape⟩ := Text.Utf8.utf8EncodeChar_shape c
    · rw [single, List.cons_append, List.cons_eq_cons, List.append_eq_nil_iff] at form
      exact absurd form.2.2 rest_ne
    · rw [long, List.cons_append, List.cons_eq_cons] at form
      rw [form.1, form.2]
      exact shape
  have continuation := List.forall_mem_append.1 shape.continuation
  rw [List.forall_mem_append] at hbytes
  have start : d.state.Begun [] := hd ▸ .ground
  obtain ⟨_, _, there, -, -⟩ := feed_begun start hbytes.1
  obtain ⟨started, -⟩ := step_first there shape.following
  have positive := List.length_pos_of_ne_nil rest_ne
  obtain ⟨kept, -⟩ := feed_continuation started continuation.1 (by rw [List.length_append]; omega)
  have state :
      (d.feed (before ++ first :: more)).1.state = .utf8Collect (first :: more) rest.length := by
    rw [feed_append, (feed_cons _ first more).1, kept, List.length_append, Nat.add_sub_cancel_left]
    rfl
  obtain ⟨ground, printed⟩ := feed_missing state rest_ne continuation.2
  have whole : single? (first :: more ++ rest) = some c :=
    (Text.Utf8.single?_eq_some_iff shape).2 form.symm
  rw [whole] at printed
  exact ⟨state, printed, ground⟩

/-- Text prints exactly the characters whose forms occur in it, and nothing else. The beginning of a
form at its end is kept, and the rest of the form completes the character. Whatever comes next, the
characters are those of the two texts in one. -/
theorem feed_text (hd : d.state = .ground) (hbytes : ∀ b ∈ bytes, isText b = true) :
    (d.feed bytes).2.toList = (scalars bytes).map .print ∧
      (∀ c begun rest, begun ++ rest = String.utf8EncodeChar c → begun ≠ [] → rest ≠ [] →
        begun <:+ bytes → (d.feed bytes).1.state = .utf8Collect begun rest.length ∧
          ((d.feed bytes).1.feed rest).2.toList = [.print c] ∧
            ((d.feed bytes).1.feed rest).1.state = .ground) ∧
      ∀ more, (∀ b ∈ more, isText b = true) →
        (d.feed bytes).2.toList ++ ((d.feed bytes).1.feed more).2.toList =
          (scalars (bytes ++ more)).map .print := by
  have start : d.state.Begun [] := hd ▸ .ground
  refine ⟨feed_scalars start hbytes, fun c begun rest => feed_beginning hd hbytes,
    fun more hmore => ?_⟩
  have whole := feed_scalars start (List.forall_mem_append.2 ⟨hbytes, hmore⟩)
  rw [feed_append, Array.toList_append] at whole
  exact whole

/-- An overlong form, a letter, a form broken off by a letter, and the two bytes of `é`, the second
one in the next feed. -/
theorem feed_text_broken :
    (({} : Decoder).feed [0xc0, 0xaf, 0x61, 0xe2, 0x82, 0x62, 0xc3]).2.toList =
      [.print 'a', .print 'b'] ∧
      ((({} : Decoder).feed [0xc0, 0xaf, 0x61, 0xe2, 0x82, 0x62, 0xc3]).1.feed [0xa9]).2.toList =
      [.print 'é'] := by
  have text : ∀ b ∈ ([0xc0, 0xaf, 0x61, 0xe2, 0x82, 0x62, 0xc3] : List UInt8), isText b = true := by
    decide +kernel
  obtain ⟨printed, pending, -⟩ := feed_text (d := {}) rfl text
  have read : scalars [0xc0, 0xaf, 0x61, 0xe2, 0x82, 0x62, 0xc3] = ['a', 'b'] := by decide
  rw [read] at printed
  exact ⟨printed, (pending 'é' [0xc3] [0xa9] (by decide) (by decide) (by decide) (by decide)).2.1⟩

end Decoder

end Teletype.Control
