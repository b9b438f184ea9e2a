import Teletype.Color.Spec
import Teletype.Proofs.Text.Numeral
import Teletype.Proofs.Text.Split
import Teletype.Proofs.Text.Utf8

/-!
# The grammar of colour specifications

The documented forms of a specification are all read, and as the colour they name, but for an
opacity that is too great a number. Reading takes a little more than them, as a number may have a
sign; and it breaks off where a channel of the short form ends inside a character.
-/

namespace Teletype.Color.Spec

open Teletype.Text

/-- What the documented grammar and the one that is read disagree on. -/
structure Grammar where
  /-- Whether a sign may stand before the digits of a number. -/
  signed : Prop
  /-- The numbers that an opacity may be. -/
  opacity : Nat → Prop

/-- The grammar as it is documented: numbers are digits, and the opacity is any of them. -/
def documented : Grammar where
  signed := False
  opacity _ := True

/-- The grammar that is read. -/
def accepted : Grammar where
  signed := True
  opacity n := n ≤ Numeral.max32

namespace Grammar

/-- A number: its digits, perhaps after a sign. -/
def Number (grammar : Grammar) (radix : Nat) (text : List UInt8) (n : Nat) : Prop :=
  ∃ digits, (text = digits ∨ grammar.signed ∧ text = 0x2b :: digits) ∧
    Numeral.Writes radix (chars digits) n

/-- A channel of at most four characters and its eight most significant bits. -/
def Channel (grammar : Grammar) (text : List UInt8) (value : Nat) : Prop :=
  text.length ≤ 4 ∧ ∃ n, grammar.Number 16 text n ∧ value = n * 0x100 / 16 ^ text.length

/-- What may stand before the short form: nothing, or an opacity in brackets. -/
def Opacity (grammar : Grammar) (before : List UInt8) : Prop :=
  before = [] ∨ ∃ text n, before = 0x5b :: (text ++ [0x5d]) ∧ grammar.Number 10 text n ∧
    grammar.opacity n

/-- The specification names the value. An alpha channel may be any text. -/
inductive Names (grammar : Grammar) : List UInt8 → Nat → Prop
  | rgb {r g b : List UInt8} {red green blue : Nat} (hred : grammar.Channel r red)
    (hgreen : grammar.Channel g green)
      (hblue : grammar.Channel b blue) :
    Names grammar (Utf8.encode "rgb:" ++ [0x2f].intercalate [r, g, b]) (pack red green blue)
  | rgba {r g b alpha : List UInt8} {red green blue : Nat} (hred : grammar.Channel r red)
      (hgreen : grammar.Channel g green) (hblue : grammar.Channel b blue) (halpha : 0x2f ∉ alpha)
      (htext : Utf8.WellFormed alpha) :
    Names grammar (Utf8.encode "rgba:" ++ [0x2f].intercalate [r, g, b, alpha]) (pack red green blue)
  | short {before r g b : List UInt8} {red green blue : Nat} (hopacity : grammar.Opacity before)
      (hred : grammar.Channel r red) (hgreen : grammar.Channel g green)
      (hblue : grammar.Channel b blue)
      (hlength : r.length = g.length) (hlength' : g.length = b.length) :
    Names grammar (before ++ 0x23 :: (r ++ g ++ b)) (pack red green blue)

end Grammar

/-- A character goes on after the first `n` bytes. -/
def GoesOn (bytes : List UInt8) (n : Nat) : Prop :=
  ∃ b, bytes[n]? = some b ∧ Utf8.isContinuation b = true

/-- The short form with a first or second channel that ends inside a character. The second one is
not looked at if the first cannot be read. -/
def SplitsCharacter (spec : List UInt8) : Prop :=
  ∃ before digits n, spec = before ++ 0x23 :: digits ∧ accepted.Opacity before ∧
    Utf8.WellFormed digits ∧ 1 ≤ n ∧ n ≤ 4 ∧ digits.length = 3 * n ∧
    (GoesOn digits n ∨ (∃ red, accepted.Channel (digits.take n) red) ∧ GoesOn digits (2 * n))

/-! ## Numbers -/

section

variable {grammar : Grammar} {radix bound n value : Nat} {text before : List UInt8}

theorem toNat_chars (b : UInt8) : (Char.ofNat b.toNat).toNat = b.toNat := by
  have size := b.toNat_lt
  rw [Char.ofNat, dif_pos (.inl (by omega))]
  rfl

theorem chars_eq_plus {body : List Char} :
    chars text = '+' :: body ↔ ∃ digits, text = 0x2b :: digits ∧ chars digits = body := by
  rw [chars, List.map_eq_cons_iff]
  have plus (b : UInt8) : Char.ofNat b.toNat = '+' ↔ b = 0x2b := by
    rw [← Char.toNat_inj, toNat_chars, ← UInt8.toNat_inj]
    rfl
  simp only [plus]
  constructor
  · rintro ⟨b, digits, rfl, rfl, rfl⟩
    exact ⟨digits, rfl, rfl⟩
  · rintro ⟨digits, rfl, rfl⟩
    exact ⟨_, digits, rfl, rfl, rfl⟩

theorem read?_chars_eq_some_iff (hradix : radix ≤ 16) :
    Numeral.read? radix bound (chars text) = some n ↔ accepted.Number radix text n ∧ n ≤ bound := by
  rw [Numeral.read?_eq_some_iff hradix]
  constructor
  · rintro ⟨body, rfl | hsign, hwrites, hn⟩
    · exact ⟨⟨text, .inl rfl, hwrites⟩, hn⟩
    · obtain ⟨digits, rfl, rfl⟩ := chars_eq_plus.1 hsign
      exact ⟨⟨digits, .inr ⟨trivial, rfl⟩, hwrites⟩, hn⟩
  · rintro ⟨⟨digits, rfl | ⟨-, rfl⟩, hwrites⟩, hn⟩
    · exact ⟨chars text, .inl rfl, hwrites, hn⟩
    · exact ⟨chars digits, .inr rfl, hwrites, hn⟩

/-- A number is written in ASCII, without the characters that end it. -/
theorem Grammar.Number.plain (hradix : radix ≤ 16) (h : grammar.Number radix text n) :
    ∀ b ∈ text, b < 0x80 ∧ b ≠ 0x2f ∧ b ≠ 0x5d := by
  have plain {digits : List UInt8} (hwrites : Numeral.Writes radix (chars digits) n) :
      ∀ b ∈ digits, b < 0x80 ∧ b ≠ 0x2f ∧ b ≠ 0x5d := by
    intro b hb
    have range := hwrites.range hradix _ (List.mem_map_of_mem hb)
    rw [toNat_chars] at range
    simp only [Utf8.ascii_iff, ne_eq, ← UInt8.toNat_inj, UInt8.reduceToNat]
    omega
  obtain ⟨digits, rfl | ⟨-, rfl⟩, hwrites⟩ := h
  · exact plain hwrites
  · exact List.forall_mem_cons.2 ⟨by decide, plain hwrites⟩

theorem Grammar.Number.lt (h : grammar.Number 16 text n) : n < 16 ^ text.length := by
  obtain ⟨digits, rfl | ⟨-, rfl⟩, hwrites⟩ := h
  · simpa [chars] using hwrites.lt (by decide)
  · have below := hwrites.lt (by decide)
    rw [chars, List.length_map] at below
    exact Nat.lt_trans below (Nat.pow_lt_pow_right (by decide) (Nat.lt_succ_self _))

theorem Grammar.Number.ne_nil (h : grammar.Number radix text n) : text ≠ [] := by
  obtain ⟨digits, rfl | ⟨-, rfl⟩, hwrites⟩ := h
  · rintro rfl
    exact hwrites.1 rfl
  · exact List.cons_ne_nil _ _

/-! ## Channels -/

theorem channel?_eq_some_iff : channel? text = some value ↔ accepted.Channel text value := by
  unfold channel? Grammar.Channel
  split
  · rename_i hbad
    refine iff_of_false nofun ?_
    rintro ⟨hlength, n, hn, -⟩
    simp only [Bool.or_eq_true, List.isEmpty_iff, decide_eq_true_eq] at hbad
    rcases hbad with hbad | hbad
    · exact hn.ne_nil hbad
    · exact Nat.not_lt_of_le hlength hbad
  · rename_i hgood
    have hlength : text.length ≤ 4 := by
      by_contra hlong
      exact hgood (by simp [Nat.lt_of_not_le hlong])
    have room {n : Nat} (hn : accepted.Number 16 text n) : n ≤ Numeral.max32 := by
      have power : 16 ^ text.length ≤ 16 ^ 4 := Nat.pow_le_pow_right (by decide) hlength
      have below := Nat.lt_of_lt_of_le hn.lt power
      exact Nat.le_trans (Nat.le_of_lt below) (by decide)
    simp only [Option.map_eq_some_iff, read?_chars_eq_some_iff (Nat.le_refl 16), hlength, true_and]
    constructor
    · rintro ⟨n, ⟨hn, -⟩, rfl⟩
      exact ⟨n, hn, rfl⟩
    · rintro ⟨n, hn, rfl⟩
      exact ⟨n, ⟨hn, room hn⟩, rfl⟩

theorem Grammar.Channel.plain (h : grammar.Channel text value) :
    ∀ b ∈ text, b < 0x80 ∧ b ≠ 0x2f ∧ b ≠ 0x5d := by
  obtain ⟨-, n, hn, -⟩ := h
  exact hn.plain (Nat.le_refl 16)

theorem Grammar.Channel.ascii (h : grammar.Channel text value) :
    ∀ b ∈ text, b < 0x80 := fun b hb => (h.plain b hb).1

theorem Grammar.Channel.no_slash (h : grammar.Channel text value) : 0x2f ∉ text :=
  fun hb => (h.plain _ hb).2.1 rfl

theorem Grammar.Channel.length_pos (h : grammar.Channel text value) : 0 < text.length := by
  obtain ⟨-, n, hn, -⟩ := h
  exact List.length_pos_iff.2 hn.ne_nil

theorem Grammar.Channel.lt (h : grammar.Channel text value) : value < 0x100 := by
  obtain ⟨-, n, hn, rfl⟩ := h
  rw [Nat.div_lt_iff_lt_mul (Nat.pow_pos (by decide)), Nat.mul_comm]
  exact Nat.mul_lt_mul_of_pos_left hn.lt (by decide)

theorem color_eq_color_iff {red green blue : Option Nat} : color red green blue = .color value ↔
    ∃ r g b, red = some r ∧ green = some g ∧ blue = some b ∧ value = pack r g b := by
  cases red <;> cases green <;> cases blue <;> simp [color, eq_comm]

theorem color_ne_splitCharacter (red green blue : Option Nat) :
    color red green blue ≠ .splitCharacter := by
  cases red <;> cases green <;> cases blue <;> exact nofun

/-! ## The short form -/

theorem isCut_eq_false_iff : isCut text n = false ↔ GoesOn text n := by
  unfold isCut GoesOn
  cases text[n]? <;> simp

theorem isCut_of_ascii (h : ∀ b ∈ text, b < 0x80) (n : Nat) : isCut text n = true := by
  rw [← Bool.not_eq_false, isCut_eq_false_iff]
  rintro ⟨b, hb, hcontinuation⟩
  exact (Utf8.continuation_stray hcontinuation).1 (h b (List.mem_of_getElem? hb))

/-- The short form is cut in three. -/
theorem short_of_length {digits : List UInt8} (hpos : 1 ≤ n) (hle : n ≤ 4)
    (hlength : digits.length = 3 * n) : short digits =
      if !isCut digits n then .splitCharacter
      else match channel? (digits.take n) with
      | none => .invalid
      | some red =>
        if !isCut digits (2 * n) then .splitCharacter
        else color (some red) (channel? ((digits.drop n).take n))
          (channel? (digits.drop (2 * n))) := by
  have third : digits.length / 3 = n := by omega
  have good : ¬(digits.isEmpty || digits.length % 3 ≠ 0 || 12 < digits.length) = true := by
    have hne : digits ≠ [] := List.length_pos_iff.1 (by omega)
    simp [hne]
    omega
  rewrite [short, third, if_neg good]
  rfl

theorem short_invalid {digits : List UInt8} (h : ¬∃ n, 1 ≤ n ∧ n ≤ 4 ∧ digits.length = 3 * n) :
    short digits = .invalid := by
  rw [short, if_pos]
  by_contra hgood
  simp only [Bool.or_eq_true, List.isEmpty_iff, decide_eq_true_eq, not_or,
    ← List.length_eq_zero_iff] at hgood
  exact h ⟨digits.length / 3, by omega⟩

theorem short_eq_color_iff {digits : List UInt8} : short digits = .color value ↔
    ∃ r g b red green blue, digits = r ++ g ++ b ∧ r.length = g.length ∧ g.length = b.length ∧
      accepted.Channel r red ∧ accepted.Channel g green ∧ accepted.Channel b blue ∧
        value = pack red green blue := by
  constructor
  · intro h
    by_cases hlength : ∃ n, 1 ≤ n ∧ n ≤ 4 ∧ digits.length = 3 * n
    · obtain ⟨n, hpos, hle, hlength⟩ := hlength
      have whole : digits = digits.take n ++ (digits.drop n).take n ++ digits.drop (2 * n) := by
        rw [List.append_assoc, Nat.two_mul, ← List.drop_drop, List.take_append_drop,
          List.take_append_drop]
      rw [short_of_length hpos hle hlength] at h
      split at h
      · cases h
      · split at h
        · cases h
        · split at h
          · cases h
          · rename_i hred _
            obtain ⟨red, green, blue, hred', hgreen, hblue, rfl⟩ := color_eq_color_iff.1 h
            refine ⟨_, _, _, red, green, blue, whole, ?_, ?_,
              channel?_eq_some_iff.1 (hred.trans hred'), channel?_eq_some_iff.1 hgreen,
              channel?_eq_some_iff.1 hblue, rfl⟩
            · simp only [List.length_take, List.length_drop]
              omega
            · simp only [List.length_take, List.length_drop]
              omega
    · rw [short_invalid hlength] at h
      cases h
  · rintro ⟨r, g, b, red, green, blue, rfl, hlength, hlength', hred, hgreen, hblue, rfl⟩
    have ascii : ∀ byte ∈ r ++ g ++ b, byte < 0x80 := by
      simp only [List.forall_mem_append]
      exact ⟨⟨hred.ascii, hgreen.ascii⟩, hblue.ascii⟩
    have size : (r ++ g ++ b).length = 3 * r.length := by
      simp only [List.length_append]
      omega
    have first : (r ++ g ++ b).take r.length = r := by rw [List.append_assoc, List.take_left]
    have second : ((r ++ g ++ b).drop r.length).take r.length = g := by
      rw [List.append_assoc, List.drop_left, hlength, List.take_left]
    have third : (r ++ g ++ b).drop (2 * r.length) = b := by
      rw [Nat.two_mul, ← List.drop_drop, List.append_assoc, List.drop_left, hlength, List.drop_left]
    rw [short_of_length hred.length_pos hred.1 size, isCut_of_ascii ascii, isCut_of_ascii ascii,
      first, second, third, channel?_eq_some_iff.2 hred, channel?_eq_some_iff.2 hgreen,
        channel?_eq_some_iff.2 hblue]
    rfl

theorem short_eq_splitCharacter_iff {digits : List UInt8} : short digits = .splitCharacter ↔
    ∃ n, 1 ≤ n ∧ n ≤ 4 ∧ digits.length = 3 * n ∧
      (GoesOn digits n ∨ (∃ red, accepted.Channel (digits.take n) red) ∧
        GoesOn digits (2 * n)) := by
  simp only [← isCut_eq_false_iff, ← channel?_eq_some_iff]
  constructor
  · intro h
    by_cases hlength : ∃ n, 1 ≤ n ∧ n ≤ 4 ∧ digits.length = 3 * n
    · obtain ⟨n, hpos, hle, hlength⟩ := hlength
      refine ⟨n, hpos, hle, hlength, ?_⟩
      rw [short_of_length hpos hle hlength] at h
      split at h
      · rename_i hcut
        exact .inl (by simpa using hcut)
      · split at h
        · cases h
        · split at h
          · rename_i red hred hcut
            exact .inr ⟨⟨red, hred⟩, by simpa using hcut⟩
          · exact absurd h (color_ne_splitCharacter _ _ _)
    · rw [short_invalid hlength] at h
      cases h
  · rintro ⟨n, hpos, hle, hlength, hcut⟩
    rw [short_of_length hpos hle hlength]
    by_cases hfirst : isCut digits n
    · obtain ⟨⟨red, hred⟩, hsecond⟩ := hcut.resolve_left (by simp [hfirst])
      simp [hfirst, hred, hsecond]
    · simp [hfirst]

end

/-! ## Whole specifications -/

section

variable {spec before digits body : List UInt8} {value : Nat}

theorem withoutOpacity?_eq_some_iff : withoutOpacity? spec = some (0x23 :: digits) ↔
    ∃ before, spec = before ++ 0x23 :: digits ∧ accepted.Opacity before := by
  have bracket : Utf8.encode "[" = [0x5b] := rfl
  unfold withoutOpacity? Grammar.Opacity
  constructor
  · intro h
    split at h
    · exact ⟨[], Option.some.inj h, .inl rfl⟩
    · rename_i rest hrest
      split at h
      · cases h
      · rename_i text tail hcut
        obtain ⟨n, hread, rfl⟩ := Option.map_eq_some_iff.1 h
        obtain ⟨hnumber, hn⟩ := (read?_chars_eq_some_iff (by decide)).1 hread
        obtain ⟨rfl, -⟩ := cutAt?_eq_some_iff.1 hcut
        refine ⟨0x5b :: (text ++ [0x5d]), ?_, .inr ⟨text, n, rfl, hnumber, hn⟩⟩
        rw [after?_eq_some_iff.1 hrest, bracket]
        simp
  · rintro ⟨before, rfl, rfl | ⟨text, n, rfl, hnumber, hn⟩⟩
    · have start : after? (Utf8.encode "[") (0x23 :: digits) = none := rfl
      rw [List.nil_append, start]
    · have start : after? (Utf8.encode "[") (0x5b :: (text ++ [0x5d]) ++ 0x23 :: digits) =
          some (text ++ 0x5d :: 0x23 :: digits) := by
        rw [after?_eq_some_iff, bracket]
        simp
      have cut : cutAt? 0x5d (text ++ 0x5d :: 0x23 :: digits) = some (text, 0x23 :: digits) :=
        cutAt?_eq_some_iff.2 ⟨rfl, fun h => (hnumber.plain (by decide) _ h).2.2 rfl⟩
      have number := (read?_chars_eq_some_iff (by decide)).2 ⟨hnumber, hn⟩
      simp only [start, cut, number, Option.map_some]

theorem Grammar.Opacity.ascii {grammar : Grammar} (h : grammar.Opacity before) :
    ∀ b ∈ before, b < 0x80 := by
  obtain rfl | ⟨text, n, rfl, hnumber, -⟩ := h
  · exact List.forall_mem_nil _
  · have ascii : ∀ b ∈ text, b < 0x80 := fun b hb => (hnumber.plain (by decide) b hb).1
    exact List.forall_mem_cons.2 ⟨by decide,
      List.forall_mem_append.2 ⟨ascii, List.forall_mem_singleton.2 (by decide)⟩⟩

theorem Grammar.Opacity.wellFormed_iff {grammar : Grammar} (h : grammar.Opacity before) :
    Utf8.WellFormed (before ++ 0x23 :: digits) ↔ Utf8.WellFormed digits := by
  rw [Utf8.wellFormed_append h.ascii, Utf8.wellFormed_cons (by decide)]

theorem read_invalid (h : ¬Utf8.WellFormed spec) : read spec = .invalid := by
  rw [read, if_pos]
  rw [Utf8.decode?_eq_none_iff.2 h]
  rfl

theorem decode?_isNone (h : Utf8.WellFormed spec) : ¬(Utf8.decode? spec).isNone = true := by
  rw [Option.isNone_iff_eq_none, Utf8.decode?_eq_none_iff]
  exact fun hnot => hnot h

theorem read_rgba (h : Utf8.WellFormed (Utf8.encode "rgba:" ++ body)) :
    read (Utf8.encode "rgba:" ++ body) = match splitAt 0x2f body with
    | [r, g, b, _] => color (channel? r) (channel? g) (channel? b)
    | _ => .invalid := by
  rewrite [read, if_neg (decode?_isNone h), after?_eq_some_iff.2 rfl]
  rfl

theorem read_rgb (h : Utf8.WellFormed (Utf8.encode "rgb:" ++ body)) :
    read (Utf8.encode "rgb:" ++ body) = match splitAt 0x2f body with
    | [r, g, b] => color (channel? r) (channel? g) (channel? b)
    | _ => .invalid := by
  have other : after? (Utf8.encode "rgba:") (Utf8.encode "rgb:" ++ body) = none := rfl
  rewrite [read, if_neg (decode?_isNone h), other, after?_eq_some_iff.2 rfl]
  rfl

theorem read_short (h : Utf8.WellFormed digits) (hopacity : accepted.Opacity before) :
    read (before ++ 0x23 :: digits) = short digits := by
  have other : after? (Utf8.encode "rgba:") (before ++ 0x23 :: digits) = none ∧
      after? (Utf8.encode "rgb:") (before ++ 0x23 :: digits) = none := by
    obtain rfl | ⟨text, n, rfl, -⟩ := hopacity
    · exact ⟨rfl, rfl⟩
    · exact ⟨rfl, rfl⟩
  have hash : after? (Utf8.encode "#") (0x23 :: digits) = some digits := after?_eq_some_iff.2 rfl
  rw [read, if_neg (decode?_isNone (hopacity.wellFormed_iff.2 h)), other.1, other.2]
  simp only [withoutOpacity?_eq_some_iff.2 ⟨before, rfl, hopacity⟩, hash]

/-- A specification that cannot be read has none of the three forms. -/
theorem read_cases (spec : List UInt8) : read spec = .invalid ∨ Utf8.WellFormed spec ∧
    ((∃ body, spec = Utf8.encode "rgba:" ++ body) ∨ (∃ body, spec = Utf8.encode "rgb:" ++ body) ∨
      ∃ before digits, spec = before ++ 0x23 :: digits ∧ accepted.Opacity before) := by
  by_cases h : Utf8.WellFormed spec
  · by_cases hnone : read spec = .invalid
    · exact .inl hnone
    · refine .inr ⟨h, ?_⟩
      rw [read, if_neg (decode?_isNone h)] at hnone
      split at hnone
      · rename_i body hbody
        exact .inl ⟨body, after?_eq_some_iff.1 hbody⟩
      · split at hnone
        · rename_i body hbody
          exact .inr (.inl ⟨body, after?_eq_some_iff.1 hbody⟩)
        · split at hnone
          · exact absurd rfl hnone
          · rename_i rest hrest
            split at hnone
            · exact absurd rfl hnone
            · rename_i digits hdigits
              obtain ⟨before, hspec, hopacity⟩ :=
                withoutOpacity?_eq_some_iff.1
                  (hrest.trans (congrArg some (after?_eq_some_iff.1 hdigits)))
              exact .inr (.inr ⟨before, digits, hspec, hopacity⟩)
  · exact .inl (read_invalid h)

/-- The parts between slashes. -/
theorem splitAt_slash {parts : List (List UInt8)} (hne : parts ≠ [])
    (h : ∀ part ∈ parts, 0x2f ∉ part) :
    splitAt 0x2f ([0x2f].intercalate parts) = parts := splitAt_eq_iff.2 ⟨hne, h, rfl⟩

theorem wellFormed_rgba {r g b alpha : List UInt8} (hr : ∀ b ∈ r, b < 0x80) (hg : ∀ b ∈ g, b < 0x80)
    (hb : ∀ byte ∈ b, byte < 0x80) :
    Utf8.WellFormed (Utf8.encode "rgba:" ++ [0x2f].intercalate [r, g, b, alpha]) ↔
      Utf8.WellFormed alpha := by
  have join : Utf8.encode "rgba:" ++ [0x2f].intercalate [r, g, b, alpha] =
      Utf8.encode "rgba:" ++ r ++ [0x2f] ++ g ++ [0x2f] ++ b ++ [0x2f] ++ alpha := by
    simp [List.intercalate]
  have start : ∀ byte ∈ Utf8.encode "rgba:", byte < 0x80 := by decide +kernel
  rw [join]
  refine Utf8.wellFormed_append ?_
  simp only [List.forall_mem_append, List.forall_mem_singleton]
  exact ⟨⟨⟨⟨⟨⟨start, hr⟩, by decide⟩, hg⟩, by decide⟩, hb⟩, by decide⟩

theorem wellFormed_rgb {r g b : List UInt8} (hr : ∀ b ∈ r, b < 0x80) (hg : ∀ b ∈ g, b < 0x80)
    (hb : ∀ byte ∈ b, byte < 0x80) :
    Utf8.WellFormed (Utf8.encode "rgb:" ++ [0x2f].intercalate [r, g, b]) := by
  have join : Utf8.encode "rgb:" ++ [0x2f].intercalate [r, g, b] =
      Utf8.encode "rgb:" ++ r ++ [0x2f] ++ g ++ [0x2f] ++ b := by
    simp [List.intercalate]
  have start : ∀ byte ∈ Utf8.encode "rgb:", byte < 0x80 := by decide +kernel
  rw [join]
  refine Utf8.wellFormed_of_ascii ?_
  simp only [List.forall_mem_append, List.forall_mem_singleton]
  exact ⟨⟨⟨⟨⟨start, hr⟩, by decide⟩, hg⟩, by decide⟩, hb⟩

theorem read_eq_color_iff : read spec = .color value ↔ accepted.Names spec value := by
  constructor
  · intro h
    obtain hnone | ⟨hwell, ⟨body, rfl⟩ | ⟨body, rfl⟩ | ⟨before, digits, rfl, hopacity⟩⟩ :=
      read_cases spec
    · rw [hnone] at h
      cases h
    · rw [read_rgba hwell] at h
      split at h
      · rename_i r g b alpha hparts
        obtain ⟨-, hslash, rfl⟩ := splitAt_eq_iff.1 hparts
        obtain ⟨red, green, blue, hred, hgreen, hblue, rfl⟩ := color_eq_color_iff.1 h
        rw [channel?_eq_some_iff] at hred hgreen hblue
        exact .rgba hred hgreen hblue (hslash alpha (by simp))
          ((wellFormed_rgba hred.ascii hgreen.ascii hblue.ascii).1 hwell)
      · cases h
    · rw [read_rgb hwell] at h
      split at h
      · rename_i r g b hparts
        obtain ⟨-, -, rfl⟩ := splitAt_eq_iff.1 hparts
        obtain ⟨red, green, blue, hred, hgreen, hblue, rfl⟩ := color_eq_color_iff.1 h
        rw [channel?_eq_some_iff] at hred hgreen hblue
        exact .rgb hred hgreen hblue
      · cases h
    · rw [read_short (hopacity.wellFormed_iff.1 hwell) hopacity] at h
      obtain ⟨r, g, b, red, green, blue, rfl, hlength, hlength', hred, hgreen, hblue, rfl⟩ :=
        short_eq_color_iff.1 h
      exact .short hopacity hred hgreen hblue hlength hlength'
  · intro h
    cases h with
    | @rgb r g b red green blue hred hgreen hblue =>
      have parts : splitAt 0x2f ([0x2f].intercalate [r, g, b]) = [r, g, b] :=
        splitAt_slash (List.cons_ne_nil _ _)
          (by simp [hred.no_slash, hgreen.no_slash, hblue.no_slash])
      rw [read_rgb (wellFormed_rgb hred.ascii hgreen.ascii hblue.ascii), parts]
      simp only [channel?_eq_some_iff.2 hred, channel?_eq_some_iff.2 hgreen,
        channel?_eq_some_iff.2 hblue, color]
    | @rgba r g b alpha red green blue hred hgreen hblue halpha htext =>
      have parts : splitAt 0x2f ([0x2f].intercalate [r, g, b, alpha]) = [r, g, b, alpha] :=
        splitAt_slash (List.cons_ne_nil _ _)
          (by simp [hred.no_slash, hgreen.no_slash, hblue.no_slash, halpha])
      rw [read_rgba ((wellFormed_rgba hred.ascii hgreen.ascii hblue.ascii).2 htext), parts]
      simp only [channel?_eq_some_iff.2 hred, channel?_eq_some_iff.2 hgreen,
        channel?_eq_some_iff.2 hblue, color]
    | @short before r g b red green blue hopacity hred hgreen hblue hlength hlength' =>
      have ascii : ∀ byte ∈ r ++ g ++ b, byte < 0x80 := by
        simp only [List.forall_mem_append]
        exact ⟨⟨hred.ascii, hgreen.ascii⟩, hblue.ascii⟩
      rw [read_short (Utf8.wellFormed_of_ascii ascii) hopacity, short_eq_color_iff]
      exact ⟨r, g, b, red, green, blue, rfl, hlength, hlength', hred, hgreen, hblue, rfl⟩

theorem read_eq_splitCharacter_iff : read spec = .splitCharacter ↔ SplitsCharacter spec := by
  constructor
  · intro h
    obtain hnone | ⟨hwell, ⟨body, rfl⟩ | ⟨body, rfl⟩ | ⟨before, digits, rfl, hopacity⟩⟩ :=
      read_cases spec
    · rw [hnone] at h
      cases h
    · rw [read_rgba hwell] at h
      split at h
      · exact absurd h (color_ne_splitCharacter _ _ _)
      · cases h
    · rw [read_rgb hwell] at h
      split at h
      · exact absurd h (color_ne_splitCharacter _ _ _)
      · cases h
    · have hdigits := hopacity.wellFormed_iff.1 hwell
      rw [read_short hdigits hopacity, short_eq_splitCharacter_iff] at h
      obtain ⟨n, hn⟩ := h
      exact ⟨before, digits, n, rfl, hopacity, hdigits, hn⟩
  · rintro ⟨before, digits, n, rfl, hopacity, hdigits, hn⟩
    rw [read_short hdigits hopacity, short_eq_splitCharacter_iff]
    exact ⟨n, hn⟩

/-! ## The two grammars -/

namespace Grammar

variable {grammar : Grammar} {radix n : Nat} {text : List UInt8}

theorem Number.documented_of_unsigned (h : grammar.Number radix text n) (hsign : 0x2b ∉ text) :
    documented.Number radix text n := by
  obtain ⟨digits, rfl | ⟨-, rfl⟩, hwrites⟩ := h
  · exact ⟨_, .inl rfl, hwrites⟩
  · exact absurd List.mem_cons_self hsign

theorem Number.accepted_of_documented (h : documented.Number radix text n) :
    accepted.Number radix text n := by
  obtain ⟨digits, rfl | ⟨hnone, -⟩, hwrites⟩ := h
  · exact ⟨_, .inl rfl, hwrites⟩
  · exact hnone.elim

theorem Number.unsigned (hradix : radix ≤ 16) (h : documented.Number radix text n) :
    0x2b ∉ text := by
  obtain ⟨digits, rfl | ⟨hnone, -⟩, hwrites⟩ := h
  · intro hsign
    have range := hwrites.range hradix _ (List.mem_map_of_mem hsign)
    simp at range
  · exact hnone.elim

theorem Channel.documented_of_unsigned (h : grammar.Channel text value) (hsign : 0x2b ∉ text) :
    documented.Channel text value := by
  obtain ⟨hlength, n, hn, rfl⟩ := h
  exact ⟨hlength, n, hn.documented_of_unsigned hsign, rfl⟩

theorem Channel.accepted_of_documented (h : documented.Channel text value) :
    accepted.Channel text value := by
  obtain ⟨hlength, n, hn, rfl⟩ := h
  exact ⟨hlength, n, hn.accepted_of_documented, rfl⟩

theorem Channel.unsigned (h : documented.Channel text value) : 0x2b ∉ text := by
  obtain ⟨-, n, hn, -⟩ := h
  exact hn.unsigned (Nat.le_refl 16)

/-- A value has three channels of eight bits. -/
theorem Names.le (h : grammar.Names spec value) : value ≤ 0xffffff := by
  cases h with
  | rgb hred hgreen hblue | rgba hred hgreen hblue | short _ hred hgreen hblue =>
    have red := hred.lt
    have green := hgreen.lt
    have blue := hblue.lt
    unfold pack
    omega

/-- Without a sign nothing more is read than what is documented. -/
theorem Names.documented_of_unsigned (h : grammar.Names spec value) (hsign : 0x2b ∉ spec) :
    documented.Names spec value := by
  cases h with
  | @rgb r g b red green blue hred hgreen hblue =>
    obtain ⟨-, hr, hg, hb⟩ : 0x2b ∉ Utf8.encode "rgb:" ∧ 0x2b ∉ r ∧ 0x2b ∉ g ∧ 0x2b ∉ b := by
      simpa [List.intercalate] using hsign
    exact .rgb (hred.documented_of_unsigned hr) (hgreen.documented_of_unsigned hg)
      (hblue.documented_of_unsigned hb)
  | @rgba r g b alpha red green blue hred hgreen hblue halpha htext =>
    obtain ⟨-, hr, hg, hb, -⟩ : 0x2b ∉ Utf8.encode "rgba:" ∧ 0x2b ∉ r ∧ 0x2b ∉ g ∧ 0x2b ∉ b ∧
        0x2b ∉ alpha := by
      simpa [List.intercalate] using hsign
    exact .rgba (hred.documented_of_unsigned hr) (hgreen.documented_of_unsigned hg)
      (hblue.documented_of_unsigned hb) halpha htext
  | @short before r g b red green blue hopacity hred hgreen hblue hlength hlength' =>
    obtain ⟨hbefore, hr, hg, hb⟩ : 0x2b ∉ before ∧ 0x2b ∉ r ∧ 0x2b ∉ g ∧ 0x2b ∉ b := by
      simpa using hsign
    refine .short ?_ (hred.documented_of_unsigned hr) (hgreen.documented_of_unsigned hg)
      (hblue.documented_of_unsigned hb) hlength hlength'
    obtain rfl | ⟨text, n, rfl, hnumber, -⟩ := hopacity
    · exact .inl rfl
    · have htext : 0x2b ∉ text := fun h => hbefore (by simp [h])
      exact .inr ⟨text, n, rfl, hnumber.documented_of_unsigned htext, trivial⟩

/-- What is documented is read, but for an opacity that is too great. -/
theorem Names.accepted_of_documented (h : documented.Names spec value) : accepted.Names spec value ∨
    ∃ text n rest, spec = 0x5b :: (text ++ 0x5d :: rest) ∧ documented.Number 10 text n ∧
      Numeral.max32 < n := by
  cases h with
  | rgb hred hgreen hblue =>
    exact .inl
      (.rgb hred.accepted_of_documented hgreen.accepted_of_documented hblue.accepted_of_documented)
  | rgba hred hgreen hblue halpha htext =>
    exact .inl
      (.rgba hred.accepted_of_documented hgreen.accepted_of_documented hblue.accepted_of_documented
        halpha htext)
  | @short before r g b red green blue hopacity hred hgreen hblue hlength hlength' =>
    have short (hopacity : accepted.Opacity before) :=
      Names.short hopacity hred.accepted_of_documented hgreen.accepted_of_documented
        hblue.accepted_of_documented hlength hlength'
    obtain rfl | ⟨text, n, rfl, hnumber, -⟩ := hopacity
    · exact .inl (short (.inl rfl))
    · by_cases hn : n ≤ Numeral.max32
      · exact .inl (short (.inr ⟨text, n, rfl, hnumber.accepted_of_documented, hn⟩))
      · refine .inr ⟨text, n, 0x23 :: (r ++ g ++ b), ?_, hnumber, Nat.lt_of_not_le hn⟩
        simp only [List.cons_append, List.append_assoc, List.nil_append]

/-- Only an alpha channel can hold a sign. -/
theorem Names.unsigned (h : documented.Names spec value) (halpha : ¬Utf8.encode "rgba:" <+: spec) :
    0x2b ∉ spec := by
  cases h with
  | rgb hred hgreen hblue =>
    have start : 0x2b ∉ Utf8.encode "rgb:" := by decide
    simp [List.intercalate, start, hred.unsigned, hgreen.unsigned, hblue.unsigned]
  | rgba => exact absurd (List.prefix_append _ _) halpha
  | short hopacity hred hgreen hblue hlength hlength' =>
    obtain rfl | ⟨text, n, rfl, hnumber, -⟩ := hopacity
    · simp [hred.unsigned, hgreen.unsigned, hblue.unsigned]
    · simp [hnumber.unsigned (by decide), hred.unsigned, hgreen.unsigned, hblue.unsigned]

end Grammar

/-- Reading takes just the accepted grammar, and breaks off just where a channel of the short form
ends inside a character. The documented grammar is what is accepted without a sign, but for an
opacity that is too great. -/
theorem read_grammar (spec : List UInt8) :
    (∀ value, read spec = .color value ↔ accepted.Names spec value) ∧
      (read spec = .splitCharacter ↔ SplitsCharacter spec) ∧
      (∀ value, read spec = .color value → value ≤ 0xffffff ∧
        (0x2b ∉ spec → documented.Names spec value)) ∧
      ∀ value, documented.Names spec value → read spec = .color value ∨
        ∃ text n rest, spec = 0x5b :: (text ++ 0x5d :: rest) ∧ documented.Number 10 text n ∧
          Numeral.max32 < n := by
  refine ⟨fun value => read_eq_color_iff, read_eq_splitCharacter_iff, fun value h => ?_,
    fun value h => ?_⟩
  · have names := read_eq_color_iff.1 h
    exact ⟨names.le, names.documented_of_unsigned⟩
  · rw [read_eq_color_iff]
    exact h.accepted_of_documented

/-- A character cut in two, a sign that is read and an opacity that is not. -/
theorem read_off_grammar :
    read (Utf8.encode "#é0") = .splitCharacter ∧
      (read (Utf8.encode "rgb:+f/0/0") = .color 0x0f0000 ∧
        ∀ value, ¬documented.Names (Utf8.encode "rgb:+f/0/0") value) ∧
      read (Utf8.encode "[4294967296]#fff") = .invalid ∧
        documented.Names (Utf8.encode "[4294967296]#fff") 0xf0f0f0 := by
  refine ⟨by decide +kernel, ⟨by decide +kernel, fun value h => ?_⟩, by decide +kernel, ?_⟩
  · have unsigned := h.unsigned (by decide)
    exact unsigned (by decide)
  · have number : documented.Number 10 (Utf8.encode "4294967296") 4294967296 :=
      ⟨_, .inl rfl,
        (Numeral.writes_iff (by decide) (Nat.le_refl _)).2 ⟨by decide, by decide +kernel⟩⟩
    have digit : documented.Number 16 [0x66] 15 :=
      ⟨_, .inl rfl,
        (Numeral.writes_iff (by decide) (Nat.le_refl _)).2 ⟨by decide, by decide +kernel⟩⟩
    have channel : documented.Channel [0x66] 0xf0 := ⟨by decide, 15, digit, rfl⟩
    exact .short (.inr ⟨_, _, rfl, number, trivial⟩) channel channel channel rfl rfl

end

end Teletype.Color.Spec
