import Mathlib.Data.List.Forall2
import Teletype.Proofs.Control.Bounded
import Teletype.Proofs.Reply.Framing

/-!
# Parameters as they are written

A parameter is written as decimal numbers between colons, and parameters as such texts between
semicolons. Of at most sixteen parameters with at most eight sub-parameters and no number above
65535 the decoder reads what was written.
-/

namespace Teletype.Control

open Text.Utf8 (encode)

namespace Params.Builder

variable {b : Builder} {done : List Param} {p : Param} {bytes : List UInt8} {n : Nat}

/-- Reads bytes of the parameter part. -/
def feed (b : Builder) (bytes : List UInt8) : Builder :=
  bytes.foldl (fun b byte => (b.push byte).1) b

theorem feed_append (b : Builder) (bytes rest : List UInt8) :
    b.feed (bytes ++ rest) = (b.feed bytes).feed rest := List.foldl_append

/-! ## Numbers -/

theorem opened_of_ne_nil (h : b.items ≠ []) : b.opened = b := by
  unfold opened
  rw [if_neg (by simpa using h)]

/-- Every byte starts the first parameter, if none was started yet. -/
theorem push_opened (b : Builder) (byte : UInt8) : b.opened.push byte = b.push byte := by
  have opened : b.opened.opened = b.opened := opened_of_ne_nil (opened_ne_nil b)
  have value : b.opened.value = b.value := by
    unfold Builder.opened
    split <;> rfl
  unfold push digit colon semicolon
  rw [opened, value]

theorem feed_opened (h : bytes ≠ []) : b.opened.feed bytes = b.feed bytes := by
  obtain ⟨byte, rest, rfl⟩ := List.exists_cons_of_ne_nil h
  rw [feed, List.foldl_cons, push_opened]
  rfl

theorem numeral_of_lt (h : n < 10) : encode (toString n) = [UInt8.ofNat (0x30 + n)] := by
  have digit : ∀ n < 10, encode (toString n) = [UInt8.ofNat (0x30 + n)] := by decide
  exact digit n h

/-- A number in decimal is the number without its last digit, and then that digit. -/
theorem numeral_step (h : 10 ≤ n) :
    encode (toString n) = encode (toString (n / 10)) ++ encode (toString (n % 10)) := by
  have digits :=
    Nat.toDigits_append_toDigits (b := 10) (n := n / 10) (d := n % 10) (by decide)
      (by omega) (by omega)
  rw [Nat.div_add_mod] at digits
  have text (n : Nat) : toString n = String.ofList (Nat.toDigits 10 n) := rfl
  rw [← encode_append, text, text, text, ← String.ofList_append, digits]

theorem isParam_singleton {byte : UInt8} (h : isParam byte = true) :
    ∀ b ∈ [byte], isParam b = true :=
  List.forall_mem_singleton.2 h

theorem isParam_numeral (n : Nat) : ∀ byte ∈ encode (toString n), isParam byte = true := by
  induction n using Nat.strongRecOn with
  | ind n ih =>
    by_cases h : n < 10
    · have digit : ∀ n < 10, isParam (UInt8.ofNat (0x30 + n)) = true := by decide
      rw [numeral_of_lt h]
      exact isParam_singleton (digit n h)
    · rw [numeral_step (by omega), List.forall_mem_append]
      exact ⟨ih _ (by omega), ih _ (by omega)⟩

theorem numeral_ne_nil (n : Nat) : encode (toString n) ≠ [] := by
  by_cases h : n < 10
  · rw [numeral_of_lt h]
    exact List.cons_ne_nil _ _
  · rw [numeral_step (by omega), numeral_of_lt (Nat.mod_lt n (by decide))]
    exact List.append_ne_nil_of_right_ne_nil _ (List.cons_ne_nil _ _)

theorem push_digit (b : Builder) (h : n < 10) :
    (b.push (UInt8.ofNat (0x30 + n))).1 = b.digit n := by
  have digit : ∀ n < 10, 0x30 ≤ UInt8.ofNat (0x30 + n) ∧ UInt8.ofNat (0x30 + n) ≤ 0x39 ∧
      (UInt8.ofNat (0x30 + n)).toNat - 0x30 = n := by decide
  obtain ⟨low, high, value⟩ := digit n h
  rw [push, if_pos (by rw [decide_eq_true low, decide_eq_true high]; rfl), value]

/-- The number that was written is the number read. -/
theorem feed_numeral (hb : b.value = 0) (hn : n ≤ maxValue) :
    b.feed (encode (toString n)) = { b.opened with value := n, hasDigits := true } := by
  unfold maxValue at hn
  induction n using Nat.strongRecOn with
  | ind n ih =>
    have last (b : Builder) {d : Nat} (hd : d < 10) : b.feed (encode (toString d)) = b.digit d := by
      rw [numeral_of_lt hd]
      exact push_digit b hd
    by_cases h : n < 10
    · have value : min (b.value * 10 + n) (maxValue + 1) = n := by
        rw [hb, maxValue]
        omega
      rw [last b h, digit, value]
    · have value : min (n / 10 * 10 + n % 10) (maxValue + 1) = n := by
        rw [maxValue]
        omega
      have started := opened_of_ne_nil (b := { b.opened with value := n / 10, hasDigits := true })
        (opened_ne_nil b)
      rw [numeral_step (by omega), feed_append, ih _ (by omega) (by omega), last _ (by omega),
        digit, started, value]

/-! ## One parameter -/

/-- The builder is at the end of the parameter `p`, with those before it in `done`, the last one
first. -/
structure Reads (b : Builder) (done : List Param) (p : Param) : Prop where
  started : b.items ≠ []
  commit : b.commit = { items := p :: done, inSub := b.inSub }

/-- The bytes write a parameter. -/
structure Writes (bytes : List UInt8) (p : Param) : Prop where
  ne_nil : bytes ≠ []
  isParam : ∀ byte ∈ bytes, isParam byte = true
  reads : ∀ done, (({ items := {} :: done } : Builder).feed bytes).Reads done p

theorem writes_numeral (h : n ≤ maxValue) : Writes (encode (toString n)) { value := n } where
  ne_nil := numeral_ne_nil n
  isParam := isParam_numeral n
  reads := fun done => by
    rw [feed_numeral rfl h]
    refine ⟨List.cons_ne_nil _ _, ?_⟩
    unfold Builder.commit
    dsimp only
    rw [Nat.min_eq_left h, decide_eq_false (by omega)]
    rfl

variable {value : Nat} {subs : List Nat}

/-- After a colon the builder reads a sub-parameter that has no digits yet. -/
theorem Reads.colon (h : b.Reads done { value, subs }) (hsubs : subs.length < maxSubs) :
    (b.push 0x3a).1 = { items := { value, subs := subs ++ [0] } :: done, inSub := true } := by
  have full : ¬subs.length = maxSubs := by omega
  show b.colon.1 = _
  unfold Builder.colon
  rw [opened_of_ne_nil h.started, h.commit]
  simp [full]

theorem Writes.colon (h : Writes bytes { value, subs }) (hsubs : subs.length < maxSubs) :
    Writes (bytes ++ encode ":") { value, subs := subs ++ [0] } where
  ne_nil := List.append_ne_nil_of_left_ne_nil h.ne_nil _
  isParam := by
    rw [List.forall_mem_append]
    exact ⟨h.isParam, isParam_singleton rfl⟩
  reads := fun done => by
    rw [feed_append]
    show (push _ 0x3a).1.Reads _ _
    rw [(h.reads done).colon hsubs]
    refine ⟨List.cons_ne_nil _ _, ?_⟩
    simp [Builder.commit, modifyItem]

theorem Writes.sub (h : Writes bytes { value, subs }) (hsubs : subs.length < maxSubs)
    (hn : n ≤ maxValue) :
    Writes (bytes ++ encode ":" ++ encode (toString n)) { value, subs := subs ++ [n] } where
  ne_nil := List.append_ne_nil_of_right_ne_nil _ (numeral_ne_nil n)
  isParam := by
    rw [List.forall_mem_append]
    exact ⟨(h.colon hsubs).isParam, isParam_numeral n⟩
  reads := fun done => by
    have colon : ({ items := {} :: done } : Builder).feed (bytes ++ encode ":") =
        { items := { value, subs := subs ++ [0] } :: done, inSub := true } := by
      rw [feed_append]
      exact (h.reads done).colon hsubs
    rw [feed_append, colon, feed_numeral rfl hn]
    refine ⟨List.cons_ne_nil _ _, ?_⟩
    simp [Builder.commit, modifyItem, opened, Nat.min_eq_left hn, Nat.not_lt.2 hn]

/-! ## Lists of parameters -/

/-- Texts that write parameters, one each. -/
def WritesAll : List String → List Param → Prop := List.Forall₂ fun text p => Writes (encode text) p

theorem WritesAll.append {texts texts' : List String} {items items' : List Param}
    (h : WritesAll texts items) (h' : WritesAll texts' items') :
    WritesAll (texts ++ texts') (items ++ items') := List.rel_append h h'

theorem writesAll_value {text : String} (h : toString n = text) (hn : n ≤ maxValue) :
    WritesAll [text] [{ value := n }] := .cons (h ▸ writes_numeral hn) .nil

theorem Reads.semicolon (h : b.Reads done p) (hroom : done.length + 1 < maxCount) :
    (b.push 0x3b).1 = { items := {} :: p :: done } := by
  have full : ¬done.length + 1 = maxCount := by omega
  show b.semicolon.1 = _
  unfold Builder.semicolon
  rw [opened_of_ne_nil h.started, h.commit]
  simp [full]

theorem Reads.finish (h : b.Reads done p) : b.finish = { items := (p :: done).reverse } := by
  unfold Builder.finish
  rw [if_neg (by simpa using h.started), h.commit]

/-- The texts with semicolons between them. -/
def listed (texts : List String) : String := ";".intercalate texts

theorem listed_cons (text next : String) (texts : List String) :
    encode (listed (text :: next :: texts)) =
      encode text ++ encode ";" ++ encode (listed (next :: texts)) := by
  unfold listed
  rw [String.intercalate_cons_cons, encode_append, encode_append]

theorem listed_singleton (text : String) : listed [text] = text := String.intercalate_singleton

theorem isParam_listed {texts : List String} {items : List Param} (h : WritesAll texts items) :
    ∀ byte ∈ encode (listed texts), isParam byte = true := by
  induction h with
  | nil => exact List.forall_mem_nil _
  | @cons text p texts items first rest ih =>
    cases rest with
    | nil =>
      rw [listed_singleton]
      exact first.isParam
    | cons _ _ =>
      rw [listed_cons, List.forall_mem_append, List.forall_mem_append]
      exact ⟨⟨first.isParam, isParam_singleton rfl⟩, ih⟩

theorem finish_feed_listed {texts : List String} {items : List Param} (h : WritesAll texts items)
    (hne : texts ≠ []) (hroom : done.length + items.length ≤ maxCount) :
    (({ items := {} :: done } : Builder).feed (encode (listed texts))).finish =
      { items := done.reverse ++ items } := by
  induction h generalizing done with
  | nil => exact absurd rfl hne
  | @cons text p texts items first rest ih =>
    cases rest with
    | nil =>
      rw [listed_singleton, (first.reads done).finish, List.reverse_cons]
    | @cons next _ texts items _ _ =>
      rw [List.length_cons, List.length_cons] at hroom
      rw [listed_cons, feed_append, feed_append]
      show ((push _ 0x3b).1.feed _).finish = _
      rw [(first.reads done).semicolon (by omega), ih (List.cons_ne_nil _ _) (by simp; omega)]
      simp

theorem listed_ne_nil {texts : List String} {items : List Param} (h : WritesAll texts items)
    (hne : texts ≠ []) : encode (listed texts) ≠ [] := by
  cases h with
  | nil => exact absurd rfl hne
  | cons first rest =>
    cases rest with
    | nil =>
      rw [listed_singleton]
      exact first.ne_nil
    | cons _ _ =>
      rw [listed_cons, List.append_assoc]
      exact List.append_ne_nil_of_left_ne_nil first.ne_nil _

/-- Parameters are read as they were written. -/
theorem finish_feed {texts : List String} {items : List Param} (h : WritesAll texts items)
    (hne : texts ≠ []) (hroom : items.length ≤ maxCount) :
    (({} : Builder).feed (encode (listed texts))).finish = { items := items } := by
  have room : ([] : List Param).length + items.length ≤ maxCount := by simpa using hroom
  have read := finish_feed_listed h hne room
  rw [← feed_opened (listed_ne_nil h hne)]
  exact read

end Params.Builder

/-! ## Sequences -/

/-- Most bytes neither begin nor break off a sequence. -/
theorem anywhere_eq {b : UInt8} (cancel : isCancel b = false) (escape : b ≠ 0x1b)
    (c1 : isC1 b = false) (closing : Bool) (rest : Next) : anywhere closing b rest = rest := by
  rw [anywhere, cancel, if_neg Bool.false_ne_true, if_neg escape, c1, if_neg Bool.false_ne_true]

namespace Decoder

open Params.Builder (WritesAll listed)

variable {d : Decoder} {header : Header} {b : UInt8}

/-- What begins or breaks off a sequence is no parameter byte. -/
theorem anywhere_of_isParam (h : isParam b = true) (closing : Bool) (rest : Next) :
    anywhere closing b rest = rest := by
  obtain ⟨low, high⟩ : 0x30 ≤ b.toNat ∧ b.toNat ≤ 0x3b := by
    simpa [isParam, UInt8.le_iff_toNat_le] using h
  have cancel : isCancel b = false := by
    simp only [isCancel, ← UInt8.toNat_inj, Bool.or_eq_false_iff, decide_eq_false_iff_not]
    exact ⟨by simp; omega, by simp; omega⟩
  have escape : b ≠ 0x1b := by
    rw [Ne, ← UInt8.toNat_inj]
    simp
    omega
  have c1 : isC1 b = false := by
    simp [isC1, UInt8.le_iff_toNat_le]
    omega
  exact anywhere_eq cancel escape c1 closing rest

theorem not_lt_of_isParam (h : isParam b = true) : ¬b < 0x20 := by
  have low :=
    (show 0x30 ≤ b.toNat ∧ b.toNat ≤ 0x3b by simpa [isParam, UInt8.le_iff_toNat_le] using h).1
  simp [UInt8.lt_iff_toNat_lt]
  omega

theorem step_param (hd : d.state = .csiParam header) (h : isParam b = true) :
    (d.step b).1.state = .csiParam { header with params := (header.params.push b).1 } ∧
      (d.step b).2 = [] := by
  have next : transition d.sixel b d.state = param header b .csiParam := by
    rw [hd, transition, anywhere_of_isParam h, csiParam, if_neg (not_lt_of_isParam h), if_pos h]
  rw [step, next, (note_eq _ _).1]
  exact ⟨rfl, rfl⟩

/-- The first byte of the parameters after the introducer is read as one. -/
theorem step_entry (hd : d.state = .csiEntry) (h : isParam b = true) :
    (d.step b).1.state = .csiParam { params := (({} : Params.Builder).push b).1 } ∧
      (d.step b).2 = [] := by
  have apart : isIntermediate b = false := by
    have low :=
      (show 0x30 ≤ b.toNat ∧ b.toNat ≤ 0x3b by simpa [isParam, UInt8.le_iff_toNat_le] using h).1
    simp [isIntermediate, UInt8.le_iff_toNat_le]
    omega
  have next : transition d.sixel b d.state = param {} b .csiParam := by
    rw [hd, transition, anywhere_of_isParam h, csiEntry, if_neg (not_lt_of_isParam h), apart,
      if_neg Bool.false_ne_true, if_pos h]
  rw [step, next, (note_eq _ _).1]
  exact ⟨rfl, rfl⟩

theorem feed_param {bytes : List UInt8} (hd : d.state = .csiParam header)
    (h : ∀ b ∈ bytes, isParam b = true) :
    (d.feed bytes).1.state = .csiParam { header with params := header.params.feed bytes } ∧
      (d.feed bytes).2.toList = [] := by
  induction bytes generalizing d header with
  | nil => exact ⟨hd, rfl⟩
  | cons b bytes ih =>
    rw [List.forall_mem_cons] at h
    obtain ⟨state, quiet⟩ := step_param hd h.1
    obtain ⟨last, rest⟩ := ih state h.2
    rw [(feed_cons d b bytes).1, (feed_cons d b bytes).2, quiet, rest]
    exact ⟨last, rfl⟩

/-- The introducer of a control sequence completes nothing, and leads to its first byte. -/
theorem feed_introducer (hd : d.state = .ground) :
    (d.feed [0x1b, 0x5b]).1.state = .csiEntry ∧ (d.feed [0x1b, 0x5b]).2.toList = [] := by
  have fresh : d.state = ({ sixel := d.sixel } : Decoder).state := hd
  obtain ⟨actions, state⟩ := feed_congr fresh rfl [0x1b, 0x5b]
  rw [actions, state]
  exact ⟨rfl, rfl⟩

/-- A control sequence up to the end of its parameters. -/
theorem feed_listed (hd : d.state = .ground) {texts : List String} {items : List Param}
    (h : WritesAll texts items) (hne : texts ≠ []) :
    (d.feed (encode "\x1b[" ++ encode (listed texts))).1.state =
        .csiParam { params := ({} : Params.Builder).feed (encode (listed texts)) } ∧
      (d.feed (encode "\x1b[" ++ encode (listed texts))).2.toList = [] := by
  have introduced : (d.feed (encode "\x1b[")).1.state = .csiEntry ∧
      (d.feed (encode "\x1b[")).2.toList = [] :=
    feed_introducer hd
  have isParam := Params.Builder.isParam_listed h
  obtain ⟨b, bytes, hbytes⟩ := List.exists_cons_of_ne_nil (Params.Builder.listed_ne_nil h hne)
  rw [hbytes] at isParam ⊢
  rw [List.forall_mem_cons] at isParam
  obtain ⟨entered, quiet⟩ := step_entry introduced.1 isParam.1
  obtain ⟨read, silent⟩ := feed_param entered isParam.2
  rw [feed_append, Array.toList_append, introduced.2, (feed_cons _ b bytes).1,
    (feed_cons _ b bytes).2, quiet, silent]
  exact ⟨read, rfl⟩

/-- In the ground state a control sequence is read as it was written. What follows the parameters
gives the rest of it. -/
theorem feed_written (hd : d.state = .ground) {texts : List String} {items : List Param}
    (h : WritesAll texts items) (hne : texts ≠ []) (hroom : items.length ≤ Params.maxCount)
    {tail : List UInt8} {s : ControlSequence} (htail : ∀ sixel params,
      (({ state := .csiParam { params }, sixel } : Decoder).feed tail).2.toList =
        [.control { s with params := params.finish }]) :
    (d.feed (encode "\x1b[" ++ encode (listed texts) ++ tail)).2.toList =
      [.control { s with params := { items } }] := by
  obtain ⟨state, quiet⟩ := feed_listed hd h hne
  rw [feed_append, Array.toList_append, quiet]
  generalize (d.feed (encode "\x1b[" ++ encode (listed texts))).1 = read at state ⊢
  generalize hparams : ({} : Params.Builder).feed (encode (listed texts)) = params at state
  have same :
      read.state = ({ state := .csiParam { params }, sixel := read.sixel } : Decoder).state := state
  rw [(feed_congr same rfl tail).1, htail, ← hparams, Params.Builder.finish_feed h hne hroom]
  rfl

end Decoder

end Teletype.Control
