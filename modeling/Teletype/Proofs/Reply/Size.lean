import Teletype.Proofs.Reply.Framing

/-!
# The size of settings in replies

Whatever the value of a setting is, its sequence is short.
-/

namespace Teletype

namespace Text.Utf8

/-- How many bytes a text takes. -/
def size (s : String) : Nat := (encode s).length

theorem size_append (s t : String) : size (s ++ t) = size s + size t := by
  rw [size, encode_append, List.length_append]
  rfl

/-- A character takes four bytes at most. -/
theorem size_ofList (l : List Char) : size (String.ofList l) ≤ 4 * l.length := by
  rw [size, encode_ofList]
  induction l with
  | nil => exact Nat.le_refl _
  | cons c l ih =>
    have := Char.utf8Size_le_four c
    rw [List.flatMap_cons, List.length_append, String.length_utf8EncodeChar, List.length_cons]
    omega

theorem size_toString {n : Nat} (h : n < 100000) : size (toString n) ≤ 20 := by
  have := size_ofList (Nat.toDigits 10 n)
  have : (Nat.toDigits 10 n).length ≤ 5 := (Nat.length_toDigits_le_iff (by decide) (by decide)).2 h
  exact Nat.le_trans ‹_› (by omega)

theorem size_toString_byte (n : UInt8) : size (toString n) ≤ 20 :=
  size_toString (Nat.lt_trans n.toNat_lt (by decide))

theorem size_intercalate (sep : String) {most : Nat} {l : List String}
    (hl : ∀ s ∈ l, size s ≤ most) : size (sep.intercalate l) ≤ l.length * (most + size sep) := by
  induction l with
  | nil =>
    rw [String.intercalate_nil]
    exact Nat.zero_le _
  | cons s l ih =>
    have hs := hl s List.mem_cons_self
    have hrest := ih fun s hs => hl s (List.mem_cons_of_mem _ hs)
    rw [List.length_cons, Nat.succ_mul]
    by_cases hnil : l = []
    · rw [hnil, String.intercalate_singleton]
      omega
    · rw [String.intercalate_cons_of_ne_nil hnil, size_append, size_append]
      omega

end Text.Utf8

namespace Rendition

open Text.Utf8

/-- Parameters of which there is one at most, and a short one. -/
def AtMostOne (params : List String) : Prop := params.length ≤ 1 ∧ ∀ s ∈ params, size s ≤ 100

theorem atMostOne_nil : AtMostOne [] := ⟨Nat.zero_le _, fun _ h => absurd h List.not_mem_nil⟩

theorem atMostOne_singleton {s : String} (h : size s ≤ 100) : AtMostOne [s] :=
  ⟨Nat.le_refl _, fun _ hmem => List.mem_singleton.1 hmem ▸ h⟩

theorem atMostOne_option (on : Bool) (param : String) (h : size param ≤ 100) :
    AtMostOne (if on then [param] else []) := by
  cases on with
  | false => exact atMostOne_nil
  | true => exact atMostOne_singleton h

theorem atMostOne_colorParam (color : Color) (base bright extended : Nat) (hbase : base ≤ 100)
    (hbright : bright ≤ 100) (hextended : extended ≤ 100) :
    AtMostOne (colorParam color base bright extended) := by
  have number := size_toString (n := extended) (by omega)
  cases color with
  | default => exact atMostOne_nil
  | named n =>
    have := n.toNat_lt
    refine atMostOne_singleton (Nat.le_trans (size_toString ?_) (by decide))
    split <;> omega
  | indexed n =>
    have index := size_toString_byte n
    have sep : size (toString ":5:") = 3 := rfl
    refine atMostOne_singleton ?_
    simp only [size_append]
    omega
  | rgb r g b =>
    have red := size_toString_byte r
    have green := size_toString_byte g
    have blue := size_toString_byte b
    have sep : size (toString ":2::") = 4 ∧ size (toString ":") = 1 := ⟨rfl, rfl⟩
    refine atMostOne_singleton ?_
    simp only [size_append]
    omega

theorem atMostOne_underlineParam (u : Underline) : AtMostOne (underlineParam u) := by
  cases u
  case none => exact atMostOne_nil
  all_goals exact atMostOne_singleton (by decide +kernel)

theorem atMostOne_underlineColorParam (color : Option Color) :
    AtMostOne (underlineColorParam color) := by
  have indexed (n : UInt8) : size (s!"58:5:{n}") ≤ 100 := by
    have index := size_toString_byte n
    have start : size (toString "58:5:") = 5 := rfl
    simp only [size_append]
    omega
  unfold underlineColorParam
  split
  · exact atMostOne_singleton (indexed _)
  · exact atMostOne_singleton (indexed _)
  · rename_i r g b
    have red := size_toString_byte r
    have green := size_toString_byte g
    have blue := size_toString_byte b
    have start : size (toString "58:2::") = 6 ∧ size (toString ":") = 1 := ⟨rfl, rfl⟩
    refine atMostOne_singleton ?_
    simp only [size_append]
    omega
  · exact atMostOne_nil
  · exact atMostOne_nil

theorem AtMostOne.append {params l : List String} {n : Nat} (h : AtMostOne params)
    (hl : l.length ≤ n ∧ ∀ s ∈ l, size s ≤ 100) :
    (l ++ params).length ≤ n + 1 ∧ ∀ s ∈ l ++ params, size s ≤ 100 := by
  rw [List.length_append, List.forall_mem_append]
  exact ⟨Nat.add_le_add hl.1 h.1, hl.2, h.2⟩

theorem size_selector (r : Rendition) : size r.selector ≤ 1300 := by
  have start : AtMostOne ["0"] := atMostOne_singleton (by decide)
  have weight := (atMostOne_option r.dim "2" (by decide)).append
    ((atMostOne_option r.bold "1" (by decide)).append start)
  have shape := (atMostOne_underlineParam r.underline).append
    ((atMostOne_option r.italic "3" (by decide)).append weight)
  have look := (atMostOne_option r.inverse "7" (by decide)).append
    ((atMostOne_option r.blink "5" (by decide)).append shape)
  have flags := (atMostOne_option r.strikethrough "9" (by decide)).append
    ((atMostOne_option r.hidden "8" (by decide)).append look)
  have colors :=
    (atMostOne_colorParam r.background 40 100 48 (by decide) (by decide) (by decide)).append
      ((atMostOne_colorParam r.foreground 30 90 38 (by decide) (by decide) (by decide)).append
        flags)
  obtain ⟨count, sizes⟩ := (atMostOne_underlineColorParam r.underlineColor).append colors
  have joined := size_intercalate ";" sizes
  have most := Nat.mul_le_mul_right (100 + size ";") count
  have marks : size ";" = 1 ∧ size "m" = 1 := ⟨rfl, rfl⟩
  unfold selector
  rw [size_append]
  dsimp only
  omega

end Rendition

theorem size_settingSelector {setting : Setting}
    (h : ∀ top bottom, setting = .region top bottom → top < 100000 ∧ bottom < 100000) :
    Text.Utf8.size setting.selector ≤ 1300 := by
  cases setting with
  | rendition r => exact r.size_selector
  | region top bottom =>
    obtain ⟨htop, hbottom⟩ := h top bottom rfl
    have first := Text.Utf8.size_toString htop
    have last := Text.Utf8.size_toString hbottom
    have marks : Text.Utf8.size (toString ";") = 1 ∧ Text.Utf8.size (toString "r") = 1 := ⟨rfl, rfl⟩
    simp only [Setting.selector, Text.Utf8.size_append]
    omega
  | cursorStyle shape blink =>
    cases shape <;> cases blink <;> decide +kernel

end Teletype
