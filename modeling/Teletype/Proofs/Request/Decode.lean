import Teletype.Proofs.Request.Layout
import Teletype.Proofs.Text.Utf8

/-!
# Reading requests

Each reader of a request comes to a result exactly if what it reads stands next, laid out as it is
written; then it stops right behind. So what is read is what was written, and nothing else can be
read.
-/

namespace Teletype.Request

open Teletype.Text

namespace Cursor

variable {total n : Nat} {c next : Cursor}

theorem take_eq_ok {part : List UInt8} :
    c.take total n = .ok (part, next) ↔
      c.rest = part ++ next.rest ∧ part.length = n ∧ next.position = c.position + n := by
  unfold take
  constructor
  · intro h
    simp only at h
    split at h
    · rename_i hlength
      obtain ⟨rfl, rfl⟩ := Prod.mk.inj (Except.ok.inj h)
      exact ⟨(List.take_append_drop n c.rest).symm, hlength, rfl⟩
    · cases h
  · rintro ⟨hrest, rfl, hposition⟩
    have taken : c.rest.take part.length = part := by
      rw [hrest, List.take_left]
    have dropped : c.rest.drop part.length = next.rest := by
      rw [hrest, List.drop_left]
    simp only [taken, dropped, if_pos, ← hposition]

/-- A text is what stands before the zero byte that it ends in. -/
theorem text_eq_ok {text : String} :
    c.text total n = .ok (text, next) ↔
      c.rest = terminated text ++ next.rest ∧ (terminated text).length = n ∧
        next.position = c.position + n := by
  unfold Cursor.text
  constructor
  · intro h
    obtain ⟨⟨bytes, after⟩, htake, h⟩ := bind_eq_ok.1 h
    simp only at h
    split at h
    · rename_i reversed hreverse
      split at h
      · rename_i decoded hdecode
        obtain ⟨rfl, rfl⟩ := Prod.mk.inj (Except.ok.inj h)
        have whole : bytes = terminated decoded := by
          rw [terminated, ← Utf8.decode?_eq_some_iff.1 hdecode, ← List.reverse_cons, ← hreverse,
            List.reverse_reverse]
        exact take_eq_ok.1 (whole ▸ htake)
      · cases h
    · cases h
  · intro h
    refine bind_eq_ok.2 ⟨(terminated text, next), take_eq_ok.2 h, ?_⟩
    have reverse : (terminated text).reverse = 0 :: (Utf8.encode text).reverse :=
      List.reverse_append
    have decoded : Utf8.decode? (Utf8.encode text) = some text := Utf8.decode?_eq_some_iff.2 rfl
    simp only [reverse, List.reverse_reverse, decoded]
    rfl

theorem measuredText_eq_ok {text : String} :
    c.measuredText total = .ok (text, next) ↔
      c.rest = measured (terminated text) ++ next.rest ∧ (terminated text).length < 0x10000 ∧
        next.position = c.position + (measured (terminated text)).length := by
  unfold measuredText
  constructor
  · intro h
    obtain ⟨⟨length, after⟩, hlength, h⟩ := bind_eq_ok.1 h
    obtain ⟨hrest, htwo, hposition⟩ := take_eq_ok.1 hlength
    obtain ⟨hafter, hnumber, hnext⟩ := text_eq_ok.1 h
    have lt : number length < 256 ^ length.length := number_lt length
    have put : putNumber 2 (terminated text).length = length := by
      rw [hnumber, ← htwo, putNumber_number]
    rw [htwo] at lt
    refine ⟨?_, hnumber ▸ lt, ?_⟩
    · rw [hrest, hafter, measured, put, List.append_assoc]
    · rw [hnext, hposition, measured, List.length_append, length_putNumber, hnumber, Nat.add_assoc]
  · rintro ⟨hrest, hlt, hposition⟩
    refine bind_eq_ok.2
      ⟨(putNumber 2 (terminated text).length, ⟨c.position + 2, terminated text ++ next.rest⟩),
        take_eq_ok.2 ⟨?_, length_putNumber 2 _, rfl⟩, text_eq_ok.2 ⟨rfl, ?_, ?_⟩⟩
    · rw [hrest, measured, List.append_assoc]
    · exact (number_putNumber (show _ < 256 ^ 2 from hlt)).symm
    · rw [hposition, measured, List.length_append, length_putNumber,
        number_putNumber (show _ < 256 ^ 2 from hlt), Nat.add_assoc]

theorem texts_eq_ok {count : Nat} {texts : List String} :
    c.texts total count = .ok (texts, next) ↔
      texts.length = count ∧ (∀ text ∈ texts, (terminated text).length < 0x10000) ∧
        c.rest = (texts.map terminated).flatMap measured ++ next.rest ∧
        next.position = c.position + ((texts.map terminated).flatMap measured).length := by
  induction count generalizing c texts with
  | zero =>
    constructor
    · intro h
      obtain ⟨rfl, rfl⟩ := Prod.mk.inj (Except.ok.inj h)
      exact ⟨rfl, List.forall_mem_nil _, rfl, rfl⟩
    · rintro ⟨hlength, -, hrest, hposition⟩
      obtain rfl := List.length_eq_zero_iff.1 hlength
      have same : c = next := by
        cases c
        cases next
        simp_all
      rw [same]
      rfl
  | succ count ih =>
    rw [Cursor.texts]
    constructor
    · intro h
      obtain ⟨⟨text, after⟩, htext, h⟩ := bind_eq_ok.1 h
      obtain ⟨⟨more, last⟩, hmore, h⟩ := bind_eq_ok.1 h
      obtain ⟨rfl, rfl⟩ := Prod.mk.inj (Except.ok.inj h)
      obtain ⟨hrest, hlt, hposition⟩ := measuredText_eq_ok.1 htext
      obtain ⟨hlength, hshort, hrest', hposition'⟩ := ih.1 hmore
      refine ⟨congrArg (· + 1) hlength, List.forall_mem_cons.2 ⟨hlt, hshort⟩, ?_, ?_⟩
      · rw [hrest, hrest', List.map_cons, List.flatMap_cons, List.append_assoc]
      · rw [hposition', hposition, List.map_cons, List.flatMap_cons, List.length_append,
          Nat.add_assoc]
    · rintro ⟨hlength, hshort, hrest, hposition⟩
      cases texts with
      | nil => cases hlength
      | cons text more =>
        obtain ⟨hlt, hshort⟩ := List.forall_mem_cons.1 hshort
        rw [List.map_cons, List.flatMap_cons, List.append_assoc] at hrest
        rw [List.map_cons, List.flatMap_cons, List.length_append, ← Nat.add_assoc] at hposition
        let after : Cursor :=
          ⟨c.position + (measured (terminated text)).length,
            (more.map terminated).flatMap measured ++ next.rest⟩
        have first : c.measuredText total = .ok (text, after) :=
          measuredText_eq_ok.2 ⟨hrest, hlt, rfl⟩
        have rest : after.texts total count = .ok (more, next) :=
          ih.2 ⟨Nat.succ.inj hlength, hshort, rfl, hposition⟩
        exact bind_eq_ok.2 ⟨_, first, bind_eq_ok.2 ⟨_, rest, rfl⟩⟩

end Cursor

/-! ## Requests -/

/-- The flags say what the request says; only two of their bits are used. -/
def Flagged (flags : UInt8) (r : Request) : Prop :=
  r.hold = flags.toNat.testBit 0 ∧ r.noWait = flags.toNat.testBit 1

theorem decode_header_eq_ok {r : Request} {flags d₀ d₁ o₀ o₁ c₀ c₁ : UInt8} {rest : List UInt8} :
    decode (flags :: d₀ :: d₁ :: o₀ :: o₁ :: c₀ :: c₁ :: rest) = .ok r ↔
      Flagged flags r ∧ (terminated r.directory).length = number [d₀, d₁] ∧
        r.overrides.length = number [o₀, o₁] ∧ r.command.length = number [c₀, c₁] ∧
        (∀ text ∈ r.overrides ++ r.command, (terminated text).length < 0x10000) ∧
        rest = terminated r.directory ++
          (r.overrides.map terminated ++ r.command.map terminated).flatMap measured := by
  unfold decode
  constructor
  · intro h
    obtain ⟨⟨directory, afterDirectory⟩, hdirectory, h⟩ := bind_eq_ok.1 h
    obtain ⟨⟨overrides, afterOverrides⟩, hoverrides, h⟩ := bind_eq_ok.1 h
    obtain ⟨⟨command, afterCommand⟩, hcommand, h⟩ := bind_eq_ok.1 h
    simp only at h
    split at h
    · rename_i htotal
      obtain ⟨hrest, hlength, hposition⟩ := Cursor.text_eq_ok.1 hdirectory
      obtain ⟨hcount, hshort, hrest', hposition'⟩ := Cursor.texts_eq_ok.1 hoverrides
      obtain ⟨hcount', hshort', hrest'', hposition''⟩ := Cursor.texts_eq_ok.1 hcommand
      have whole : rest = terminated directory ++ ((overrides.map terminated).flatMap measured ++
          ((command.map terminated).flatMap measured ++ afterCommand.rest)) := by
        rw [← hrest'', ← hrest']
        exact hrest
      have nothingLeft : afterCommand.rest = [] := by
        apply List.length_eq_zero_iff.1
        have total := congrArg List.length whole
        simp only [List.length_append, List.length_cons] at total htotal hposition
        omega
      obtain rfl := Except.ok.inj h
      refine ⟨⟨rfl, rfl⟩, hlength, hcount, hcount', List.forall_mem_append.2 ⟨hshort, hshort'⟩, ?_⟩
      rw [List.flatMap_append, whole, nothingLeft, List.append_nil]
    · cases h
  · rintro ⟨⟨hhold, hwait⟩, hlength, hcount, hcount', hshort, rfl⟩
    obtain ⟨hshort, hshort'⟩ := List.forall_mem_append.1 hshort
    rw [List.flatMap_append]
    let afterDirectory : Cursor := ⟨7 + number [d₀, d₁],
      (r.overrides.map terminated).flatMap measured ++ (r.command.map terminated).flatMap measured⟩
    let afterOverrides : Cursor :=
      ⟨afterDirectory.position + ((r.overrides.map terminated).flatMap measured).length,
        (r.command.map terminated).flatMap measured⟩
    let afterCommand : Cursor :=
      ⟨afterOverrides.position + ((r.command.map terminated).flatMap measured).length, []⟩
    refine bind_eq_ok.2 ⟨(r.directory, afterDirectory), Cursor.text_eq_ok.2 ⟨rfl, hlength, rfl⟩, ?_⟩
    refine bind_eq_ok.2 ⟨(r.overrides, afterOverrides),
      Cursor.texts_eq_ok.2 ⟨hcount, hshort, rfl, rfl⟩, ?_⟩
    refine bind_eq_ok.2 ⟨(r.command, afterCommand),
      Cursor.texts_eq_ok.2 ⟨hcount', hshort', (List.append_nil _).symm, rfl⟩, ?_⟩
    have total : afterCommand.position = (flags :: d₀ :: d₁ :: o₀ :: o₁ :: c₀ :: c₁ ::
        (terminated r.directory ++ ((r.overrides.map terminated).flatMap measured ++
          (r.command.map terminated).flatMap measured))).length := by
      simp only [afterCommand, afterOverrides, afterDirectory, List.length_cons, List.length_append]
      omega
    simp only [if_pos total, ← hhold, ← hwait]
    rfl

/-- Bytes can be read exactly if they are laid out as a request is, with room for its numbers. -/
theorem decode_eq_ok {r : Request} {bytes : List UInt8} :
    decode bytes = .ok r ↔
      ∃ flags, Flagged flags r ∧ (r.parts flags).Measurable ∧ bytes = (r.parts flags).layout := by
  constructor
  · intro h
    obtain ⟨flags, d₀, d₁, o₀, o₁, c₀, c₁, rest, rfl⟩ :
        ∃ flags d₀ d₁ o₀ o₁ c₀ c₁ rest, bytes =
        flags :: d₀ :: d₁ :: o₀ :: o₁ :: c₀ :: c₁ :: rest := by
      unfold decode at h
      split at h
      · exact ⟨_, _, _, _, _, _, _, _, rfl⟩
      · cases h
    obtain ⟨hflags, hlength, hcount, hcount', hshort, rfl⟩ := decode_header_eq_ok.1 h
    have room (b₀ b₁ : UInt8) : number [b₀, b₁] < 0x10000 := by simpa using number_lt [b₀, b₁]
    have put (b₀ b₁ : UInt8) : putNumber 2 (number [b₀, b₁]) = [b₀, b₁] := putNumber_number [b₀, b₁]
    refine ⟨flags, hflags, measurable_parts_iff.2 ⟨?_, hshort⟩, ?_⟩
    · simp only [List.forall_mem_cons, hlength, hcount, hcount']
      exact ⟨room _ _, room _ _, room _ _, List.forall_mem_nil _⟩
    · simp [Parts.layout, parts, hlength, hcount, hcount', put]
  · rintro ⟨flags, hflags, hmeasurable, rfl⟩
    obtain ⟨room, hshort⟩ := measurable_parts_iff.1 hmeasurable
    simp only [List.forall_mem_cons] at room
    have two (n : Nat) : putNumber 2 n = [UInt8.ofNat n, UInt8.ofNat (n / 256)] := rfl
    have read {n : Nat} (h : n < 0x10000) : n = number [UInt8.ofNat n, UInt8.ofNat (n / 256)] := by
      rw [← two, number_putNumber (show n < 256 ^ 2 from h)]
    have layout : (r.parts flags).layout = flags ::
        ([UInt8.ofNat (terminated r.directory).length,
          UInt8.ofNat ((terminated r.directory).length / 256)] ++ [UInt8.ofNat r.overrides.length,
          UInt8.ofNat (r.overrides.length / 256)] ++
          [UInt8.ofNat r.command.length, UInt8.ofNat (r.command.length / 256)] ++
          terminated r.directory ++
          (r.overrides.map terminated ++ r.command.map terminated).flatMap measured) := by
      simp [Parts.layout, parts, two]
    rw [layout]
    exact decode_header_eq_ok.2 ⟨hflags, read room.1, read room.2.1, read room.2.2.1, hshort, rfl⟩

end Teletype.Request
