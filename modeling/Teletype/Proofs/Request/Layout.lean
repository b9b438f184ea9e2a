import Mathlib.Algebra.GroupWithZero.Nat
import Mathlib.Tactic.Common
import Teletype.Request.Frame

/-!
# How a request lies in bytes

A request is laid out as its flags, three numbers and its texts, of which all but the first come
after their lengths. A number takes two bytes, so that there is room for so many texts and for texts
that are so long, and a request can be encoded exactly if its numbers have room. The bytes of the
texts can be told from those of the whole, whatever they are.
-/

namespace Teletype.Request

open Teletype.Text

section

variable {ε α β : Type}

/-- A computation comes to a result exactly if its first part does, and the rest goes on to it from
there. -/
theorem bind_eq_ok {first : Except ε α} {next : α → Except ε β} {b : β} :
    (first >>= next) = .ok b ↔ ∃ a, first = .ok a ∧ next a = .ok b := by
  cases first with
  | error e => exact ⟨fun h => (nomatch h), fun ⟨_, h, _⟩ => (nomatch h)⟩
  | ok a => exact ⟨fun h => ⟨a, rfl, h⟩, fun ⟨a', h, hnext⟩ => Except.ok.inj h ▸ hnext⟩

theorem mapM_eq_ok {f : α → Except ε β} {P : α → Prop} {g : α → β}
    (hf : ∀ a b, f a = .ok b ↔ P a ∧ b = g a) {l : List α} {bs : List β} :
    l.mapM f = .ok bs ↔ (∀ a ∈ l, P a) ∧ bs = l.map g := by
  induction l generalizing bs with
  | nil =>
    constructor
    · intro h
      cases h
      exact ⟨List.forall_mem_nil _, rfl⟩
    · rintro ⟨-, rfl⟩
      rfl
  | cons a l ih =>
    rw [List.mapM_cons, List.forall_mem_cons, List.map_cons]
    constructor
    · intro h
      obtain ⟨b, hb, h⟩ := bind_eq_ok.1 h
      obtain ⟨rest, hrest, h⟩ := bind_eq_ok.1 h
      cases h
      obtain ⟨ha, rfl⟩ := (hf a b).1 hb
      obtain ⟨hl, rfl⟩ := ih.1 hrest
      exact ⟨⟨ha, hl⟩, rfl⟩
    · rintro ⟨⟨ha, hl⟩, rfl⟩
      exact bind_eq_ok.2 ⟨_, (hf a _).2 ⟨ha, rfl⟩, bind_eq_ok.2 ⟨_, ih.2 ⟨hl, rfl⟩, rfl⟩⟩

end

/-! ## Numbers -/

@[simp] theorem length_putNumber (width n : Nat) : (putNumber width n).length = width := by
  induction width generalizing n with
  | zero => rfl
  | succ width ih => exact congrArg (· + 1) (ih (n / 256))

theorem number_cons (b : UInt8) (bytes : List UInt8) :
    number (b :: bytes) = number bytes * 256 + b.toNat :=
  rfl

theorem number_putNumber {width n : Nat} (h : n < 256 ^ width) :
    number (putNumber width n) = n := by
  induction width generalizing n with
  | zero => exact (Nat.lt_one_iff.1 h).symm
  | succ width ih =>
    have high : n / 256 < 256 ^ width := Nat.div_lt_of_lt_mul (by rwa [Nat.pow_succ'] at h)
    have low : (UInt8.ofNat n).toNat = n % 256 := UInt8.toNat_ofNat'
    rw [putNumber, number_cons, ih high, low]
    exact Nat.div_add_mod' n 256

theorem putNumber_number (bytes : List UInt8) : putNumber bytes.length (number bytes) = bytes := by
  induction bytes with
  | nil => rfl
  | cons b bytes ih =>
    have low : b.toNat < 256 := b.toNat_lt
    have byte : UInt8.ofNat (number bytes * 256 + b.toNat) = b := by
      apply UInt8.toNat_inj.1
      rw [UInt8.toNat_ofNat']
      omega
    have rest : (number bytes * 256 + b.toNat) / 256 = number bytes := by omega
    rw [List.length_cons, number_cons, putNumber, byte, rest, ih]

theorem number_lt (bytes : List UInt8) : number bytes < 256 ^ bytes.length := by
  induction bytes with
  | nil => exact Nat.one_pos
  | cons b bytes ih =>
    have low : b.toNat < 256 := b.toNat_lt
    rw [number_cons, List.length_cons, Nat.pow_succ]
    omega

/-- A number can be told from its two bytes. -/
theorem putNumber_two_inj {n n' : Nat} (h : n < 0x10000) (h' : n' < 0x10000)
    (heq : putNumber 2 n = putNumber 2 n') : n = n' := by
  have same := congrArg number heq
  rwa [number_putNumber (show n < 256 ^ 2 from h), number_putNumber (show n' < 256 ^ 2 from h')]
    at same

theorem putCount_eq_ok {n : Nat} {bytes : List UInt8} :
    putCount n = .ok bytes ↔ n < 0x10000 ∧ bytes = putNumber 2 n := by
  unfold putCount
  split
  · rename_i h
    exact ⟨fun hok => ⟨h, (Except.ok.inj hok).symm⟩, fun hok => hok.2 ▸ rfl⟩
  · rename_i h
    exact ⟨fun hok => (nomatch hok), fun hok => absurd hok.1 h⟩

/-! ## Layouts -/

/-- A part after its length. -/
def measured (part : List UInt8) : List UInt8 := putNumber 2 part.length ++ part

/-- What the bytes of a request consist of, whether or not they are texts. -/
structure Parts where
  flags : UInt8
  directory : List UInt8
  overrides : List (List UInt8)
  command : List (List UInt8)

namespace Parts

/-- The bytes that consist of the parts. -/
def layout (p : Parts) : List UInt8 :=
  p.flags :: (putNumber 2 p.directory.length ++ putNumber 2 p.overrides.length ++
    putNumber 2 p.command.length ++ p.directory ++ (p.overrides ++ p.command).flatMap measured)

/-- All numbers have room in two bytes. -/
structure Measurable (p : Parts) : Prop where
  directory : p.directory.length < 0x10000
  overrides : p.overrides.length < 0x10000
  command : p.command.length < 0x10000
  part : ∀ part ∈ p.overrides ++ p.command, part.length < 0x10000

end Parts

/-- The parts of a request, with the given flags. -/
def parts (r : Request) (flags : UInt8) : Parts where
  flags
  directory := terminated r.directory
  overrides := r.overrides.map terminated
  command := r.command.map terminated

theorem length_terminated (text : String) :
    (terminated text).length = (Utf8.encode text).length + 1 :=
  List.length_append

theorem putText_eq_ok {text : String} {bytes : List UInt8} :
    putText text = .ok bytes ↔ (terminated text).length < 0x10000 ∧
      bytes = measured (terminated text) := by
  unfold putText
  constructor
  · intro h
    obtain ⟨count, hcount, h⟩ := bind_eq_ok.1 h
    obtain ⟨hlt, rfl⟩ := putCount_eq_ok.1 hcount
    exact ⟨hlt, (Except.ok.inj h).symm⟩
  · rintro ⟨hlt, rfl⟩
    exact bind_eq_ok.2 ⟨_, putCount_eq_ok.2 ⟨hlt, rfl⟩, rfl⟩

theorem measurable_parts_iff {r : Request} {flags : UInt8} :
    (r.parts flags).Measurable ↔
      (∀ n ∈ [(terminated r.directory).length, r.overrides.length, r.command.length], n < 0x10000) ∧
        ∀ text ∈ r.overrides ++ r.command, (terminated text).length < 0x10000 := by
  have part :
      (∀ part ∈ r.overrides.map terminated ++ r.command.map terminated, part.length < 0x10000) ↔
      ∀ text ∈ r.overrides ++ r.command, (terminated text).length < 0x10000 := by
    rw [← List.map_append, List.forall_mem_map]
  constructor
  · rintro ⟨directory, overrides, command, short⟩
    rw [parts, List.length_map] at overrides command
    exact ⟨by simpa using ⟨directory, overrides, command⟩, part.1 short⟩
  · rintro ⟨room, short⟩
    obtain ⟨directory, overrides, command⟩ : (terminated r.directory).length < 0x10000 ∧
        r.overrides.length < 0x10000 ∧ r.command.length < 0x10000 := by simpa using room
    refine ⟨directory, ?_, ?_, part.2 short⟩
    · rwa [parts, List.length_map]
    · rwa [parts, List.length_map]

theorem layout_parts (r : Request) (flags : UInt8) :
    (r.parts flags).layout = flags ::
      (([(terminated r.directory).length, r.overrides.length, r.command.length].map
        (putNumber 2)).flatten ++ terminated r.directory ++
          ((r.overrides ++ r.command).map fun text => measured (terminated text)).flatten) := by
  have texts : ((r.overrides ++ r.command).map fun text => measured (terminated text)).flatten =
      (r.overrides.map terminated ++ r.command.map terminated).flatMap measured := by
    rw [← List.map_append, List.flatMap_map, List.flatMap_def]
  rw [texts]
  simp [Parts.layout, parts]

/-- A request has bytes exactly if its numbers have room, and they are laid out as its parts are. -/
theorem body_eq_ok {r : Request} {bytes : List UInt8} :
    r.body = .ok bytes ↔ (r.parts r.flags).Measurable ∧ bytes = (r.parts r.flags).layout := by
  rw [measurable_parts_iff, layout_parts, and_assoc]
  unfold body
  constructor
  · intro h
    obtain ⟨_, hcounts, h⟩ := bind_eq_ok.1 h
    obtain ⟨_, htexts, h⟩ := bind_eq_ok.1 h
    obtain ⟨room, rfl⟩ := (mapM_eq_ok fun _ _ => putCount_eq_ok).1 hcounts
    obtain ⟨short, rfl⟩ := (mapM_eq_ok fun _ _ => putText_eq_ok).1 htexts
    exact ⟨room, short, (Except.ok.inj h).symm⟩
  · rintro ⟨room, short, rfl⟩
    have counts := (mapM_eq_ok fun _ _ => putCount_eq_ok).2 ⟨room, rfl⟩
    have texts := (mapM_eq_ok fun _ _ => putText_eq_ok).2 ⟨short, rfl⟩
    exact bind_eq_ok.2 ⟨_, counts, bind_eq_ok.2 ⟨_, texts, rfl⟩⟩

/-! ## What can be encoded -/

/-- How many bytes a request takes after its length: seven for the flags and the numbers, one after
the directory, and three around every other text. -/
def size (r : Request) : Nat :=
  8 + (Utf8.encode r.directory).length +
    ((r.overrides ++ r.command).map fun text => (Utf8.encode text).length + 3).sum

/-- A request that is not too large. -/
structure Fits (r : Request) : Prop where
  directory : (Utf8.encode r.directory).length ≤ 65534
  text : ∀ text ∈ r.overrides ++ r.command, (Utf8.encode text).length ≤ 65534
  overrides : r.overrides.length ≤ 65535
  command : r.command.length ≤ 65535
  size : r.size ≤ maxLength

theorem length_layout_parts (r : Request) (flags : UInt8) :
    (r.parts flags).layout.length = r.size := by
  have text (text : String) :
      (measured (terminated text)).length = (Utf8.encode text).length + 3 := by
    rw [measured, List.length_append, length_putNumber, length_terminated]
    omega
  rw [layout_parts, size]
  simp only [List.length_cons, List.length_append, List.length_flatten, List.map_map,
    Function.comp_def, length_putNumber, length_terminated, text]
  simp
  omega

/-- A request is not too large exactly if its numbers have room and its bytes are not too many. -/
theorem fits_iff {r : Request} (flags : UInt8) :
    r.Fits ↔ (r.parts flags).Measurable ∧ (r.parts flags).layout.length ≤ maxLength := by
  rw [measurable_parts_iff, length_layout_parts]
  constructor
  · rintro ⟨directory, text, overrides, command, size⟩
    refine ⟨⟨?_, fun t ht => ?_⟩, size⟩
    · simp only [List.forall_mem_cons, length_terminated]
      exact ⟨by omega, by omega, by omega, List.forall_mem_nil _⟩
    · rw [length_terminated]
      exact Nat.succ_lt_succ (Nat.lt_succ_of_le (text t ht))
  · rintro ⟨⟨room, short⟩, size⟩
    simp only [List.forall_mem_cons, length_terminated] at room short
    exact ⟨by omega, fun t ht => Nat.le_of_lt_succ (Nat.lt_of_succ_lt_succ (short t ht)), by
      omega, by omega, size⟩

/-- A request can be encoded exactly if it is not too large. -/
theorem encode_eq_ok {r : Request} {frame : List UInt8} :
    r.encode = .ok frame ↔ r.Fits ∧ frame = putNumber 4 r.size ++ (r.parts r.flags).layout := by
  rw [fits_iff r.flags, ← length_layout_parts r r.flags]
  unfold encode
  constructor
  · intro h
    obtain ⟨bytes, hbody, h⟩ := bind_eq_ok.1 h
    obtain ⟨measurable, rfl⟩ := body_eq_ok.1 hbody
    split at h
    · rename_i size
      exact ⟨⟨measurable, size⟩, (Except.ok.inj h).symm⟩
    · cases h
  · rintro ⟨⟨measurable, size⟩, rfl⟩
    refine bind_eq_ok.2 ⟨_, body_eq_ok.2 ⟨measurable, rfl⟩, ?_⟩
    rw [if_pos size]
    rfl

/-! ## Parts can be told apart -/

/-- Where a measured part ends can be told from its front. -/
theorem measured_append_inj {part part' rest rest' : List UInt8} (h : part.length < 0x10000)
    (h' : part'.length < 0x10000) (heq : measured part ++ rest = measured part' ++ rest') :
    part = part' ∧ rest = rest' := by
  rw [measured, measured, List.append_assoc, List.append_assoc] at heq
  obtain ⟨hlength, heq⟩ := List.append_inj heq (by simp)
  exact List.append_inj heq (putNumber_two_inj h h' hlength)

theorem flatMap_measured_inj {l l' : List (List UInt8)} (h : ∀ part ∈ l, part.length < 0x10000)
    (h' : ∀ part ∈ l', part.length < 0x10000) (hlength : l.length = l'.length)
    (heq : l.flatMap measured = l'.flatMap measured) : l = l' := by
  induction l generalizing l' with
  | nil => exact (List.length_eq_zero_iff.1 hlength.symm).symm
  | cons part l ih =>
    cases l' with
    | nil => cases hlength
    | cons part' l' =>
      obtain ⟨hpart, hl⟩ := List.forall_mem_cons.1 h
      obtain ⟨hpart', hl'⟩ := List.forall_mem_cons.1 h'
      obtain ⟨rfl, hrest⟩ := measured_append_inj hpart hpart' heq
      rw [ih hl hl' (Nat.succ.inj hlength) hrest]

/-- Bytes are laid out in one way only. -/
theorem Parts.layout_inj {p p' : Parts} (h : p.Measurable) (h' : p'.Measurable)
    (heq : p.layout = p'.layout) : p = p' := by
  obtain ⟨hflags, heq⟩ := List.cons.inj heq
  simp only [List.append_assoc] at heq
  obtain ⟨hdirectory, heq⟩ := List.append_inj heq (by simp)
  obtain ⟨hoverrides, heq⟩ := List.append_inj heq (by simp)
  obtain ⟨hcommand, heq⟩ := List.append_inj heq (by simp)
  obtain ⟨directory, heq⟩ :=
    List.append_inj heq (putNumber_two_inj h.directory h'.directory hdirectory)
  have overrides := putNumber_two_inj h.overrides h'.overrides hoverrides
  have command := putNumber_two_inj h.command h'.command hcommand
  have texts := flatMap_measured_inj h.part h'.part (by simp [overrides, command]) heq
  obtain ⟨htexts, htexts'⟩ := List.append_inj texts overrides
  cases p
  cases p'
  simp_all

end Teletype.Request
