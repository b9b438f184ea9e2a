import Mathlib.Tactic.Common

/-!
# Arithmetic of machine words

What a processor does with words of a fixed size and with arrays. A step is taken or cannot be
taken: a sum is too great for its word, a difference would be negative, a modulus is zero, or an
index is not in the array.

An operation whose name is that of another one with `checked` before it computes what that one is to
give. Where nothing but the steps matters, a name ends in `Steps`.
-/

namespace Teletype.Machine

/-- The sizes of words. -/
inductive Word where
  | u8 | u16 | u32 | usize

/-- The greatest number that a word holds. -/
def Word.max : Word → Nat
  | u8 => 255
  | u16 => 65535
  | u32 => 4294967295
  | usize => 18446744073709551615

/-- A number, if a word can hold it. -/
def fit (w : Word) (n : Nat) : Option Nat := if n ≤ w.max then some n else none

def add (w : Word) (a b : Nat) : Option Nat := fit w (a + b)

def mul (w : Word) (a b : Nat) : Option Nat := fit w (a * b)

def sub (a b : Nat) : Option Nat := if b ≤ a then some (a - b) else none

def rem (a b : Nat) : Option Nat := if b = 0 then none else some (a % b)

/-- An entry of an array. -/
def entry {α : Type} (xs : Array α) (i : Nat) : Option α := xs[i]?

/-- An index of an array with the given size. -/
def index (i size : Nat) : Option Unit := if i < size then some () else none

/-- A slice of an array with the given size. -/
def slice (first last size : Nat) : Option Unit :=
  if first ≤ last ∧ last ≤ size then some () else none

/-- A step whose result is not used. -/
def forget {α : Type} (step : Option α) : Option Unit := step.map fun _ => ()

/-- A step that is taken under a condition. -/
def when (p : Prop) [Decidable p] (step : Option Unit) : Option Unit := if p then step else some ()

/-- A step that is taken `n` times. -/
def iterate {α : Type} (step : α → Option α) : Nat → α → Option α
  | 0, a => some a
  | n + 1, a => (iterate step n a).bind step

theorem add_u8 {a b : Nat} (h : a + b ≤ 255) : add .u8 a b = some (a + b) := if_pos h

theorem add_u16 {a b : Nat} (h : a + b ≤ 65535) : add .u16 a b = some (a + b) := if_pos h

example : add .u16 65535 1 = none := rfl

theorem add_u32 {a b : Nat} (h : a + b ≤ 4294967295) : add .u32 a b = some (a + b) := if_pos h

theorem add_usize {a b : Nat} (h : a + b ≤ 18446744073709551615) : add .usize a b = some (a + b) :=
  if_pos h

theorem mul_u32 {a b : Nat} (h : a * b ≤ 4294967295) : mul .u32 a b = some (a * b) := if_pos h

theorem sub_of_le {a b : Nat} (h : b ≤ a) : sub a b = some (a - b) := if_pos h

theorem rem_of_pos {a b : Nat} (h : 0 < b) : rem a b = some (a % b) := if_neg (Nat.ne_of_gt h)

theorem index_of_lt {i size : Nat} (h : i < size) : index i size = some () := if_pos h

theorem slice_of_le {first last size : Nat} (h : first ≤ last) (h' : last ≤ size) :
    slice first last size = some () := if_pos ⟨h, h'⟩

section

variable {α β : Type}

theorem entry_of_lt {xs : Array α} {i : Nat} (h : i < xs.size) : entry xs i = some xs[i] :=
  Array.getElem?_eq_getElem h

theorem forget_of_eq {step : Option α} {a : α} (h : step = some a) : forget step = some () := by
  rw [h]
  rfl

theorem when_of_imp {p : Prop} [Decidable p] {step : Option Unit} (h : p → step = some ()) :
    when p step = some () := by
  unfold when
  split
  · exact h ‹_›
  · rfl

/-- Steps one after the other. -/
theorem bind_eq {step : Option α} {a : α} {next : α → Option β} {b : β} (h : step = some a)
    (hnext : next a = some b) : (step >>= next) = some b := by
  rw [h]
  exact hnext

theorem forM_eq {step : α → Option Unit} {l : List α} (h : ∀ a ∈ l, step a = some ()) :
    l.forM step = some () := by
  induction l with
  | nil => rfl
  | cons a l ih =>
    exact bind_eq (h a List.mem_cons_self) (ih fun b hb => h b (List.mem_cons_of_mem _ hb))

theorem mapM_eq {step : α → Option β} {f : α → Option β} {l : List α}
    (h : ∀ a ∈ l, ∃ b, step a = some b ∧ f a = some b) : l.mapM step = some (l.filterMap f) := by
  induction l with
  | nil => rfl
  | cons a l ih =>
    obtain ⟨b, hstep, hf⟩ := h a List.mem_cons_self
    rw [List.mapM_cons, List.filterMap_cons_some hf]
    exact bind_eq hstep (bind_eq (ih fun c hc => h c (List.mem_cons_of_mem _ hc)) rfl)

/-- Steps along a list that keep an invariant, of what is left of the list too, under which each of
them can be taken. -/
theorem foldlM_eq (P : List α → β → Prop) {s : β → α → Option β} {f : β → α → β}
    (h : ∀ b a l, P (a :: l) b → s b a = some (f b a) ∧ P l (f b a)) {l : List α} {b : β}
    (hb : P l b) : l.foldlM s b = some (l.foldl f b) ∧ P [] (l.foldl f b) := by
  induction l generalizing b with
  | nil => exact ⟨rfl, hb⟩
  | cons a l ih =>
    obtain ⟨hstep, hnext⟩ := h b a l hb
    obtain ⟨hsteps, hlast⟩ := ih hnext
    exact ⟨bind_eq hstep hsteps, hlast⟩

theorem iterate_eq (P : α → Prop) {step : α → Option α} {f : α → α}
    (h : ∀ a, P a → step a = some (f a) ∧ P (f a)) (n : Nat) {a : α} (ha : P a) :
    iterate step n a = some (Nat.repeat f n a) ∧ P (Nat.repeat f n a) := by
  induction n with
  | zero => exact ⟨rfl, ha⟩
  | succ n ih =>
    obtain ⟨hsteps, hn⟩ := ih
    obtain ⟨hstep, hnext⟩ := h _ hn
    exact ⟨bind_eq hsteps hstep, hnext⟩

end

end Teletype.Machine
