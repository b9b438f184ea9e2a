import Mathlib.Tactic.Common
import Teletype.Proofs.Text.Utf8
import Teletype.Reply

/-!
# The form of replies

A reply goes to the application as if it had been typed. It must be one control sequence, operating
system command or device control string with nothing but printable characters inside: a control
character there would be taken for a key. A reply has this form exactly when what it repeats of the
question is printable.
-/

namespace Teletype

/-- The bytes of the printable characters of ASCII. -/
def Printable (b : UInt8) : Prop := 0x20 ≤ b ∧ b ≤ 0x7e

instance (b : UInt8) : Decidable (Printable b) := inferInstanceAs (Decidable (_ ∧ _))

/-- A text of printable characters. -/
def Plain (s : String) : Prop := ∀ c ∈ s.toList, 0x20 ≤ c.toNat ∧ c.toNat ≤ 0x7e

instance (s : String) : Decidable (Plain s) := List.decidableBAll _ s.toList

instance (l : List UInt8) : Decidable (∀ b ∈ l, Printable b) := List.decidableBAll _ l

/-! ## Printable texts -/

theorem plain_append {s t : String} : Plain (s ++ t) ↔ Plain s ∧ Plain t := by
  rw [Plain, String.toList_append]
  exact List.forall_mem_append

theorem plain_ofList {l : List Char} :
    Plain (String.ofList l) ↔ ∀ c ∈ l, 0x20 ≤ c.toNat ∧ c.toNat ≤ 0x7e := by
  rw [Plain, String.toList_ofList]

theorem Plain.printable {s : String} (h : Plain s) : ∀ b ∈ Text.Utf8.encode s, Printable b := by
  intro b hb
  rw [← String.ofList_toList (s := s), encode_ofList, List.mem_flatMap] at hb
  obtain ⟨c, hc, hb⟩ := hb
  obtain ⟨hlow, hhigh⟩ := h c hc
  rw [Text.Utf8.utf8EncodeChar_of_lt (by omega), List.mem_singleton] at hb
  subst hb
  simp only [Printable, UInt8.le_iff_toNat_le, UInt8.toNat_ofNat', UInt8.toNat_ofNat]
  omega

theorem mem_toDigitsCore {base fuel n : Nat} {l : List Char} {c : Char}
    (h : c ∈ Nat.toDigitsCore base fuel n l) : c ∈ l ∨ ∃ d, c = Nat.digitChar d := by
  induction fuel generalizing n l with
  | zero => exact .inl h
  | succ fuel ih =>
    unfold Nat.toDigitsCore at h
    dsimp only at h
    split at h
    · rcases List.mem_cons.1 h with rfl | h
      · exact .inr ⟨_, rfl⟩
      · exact .inl h
    · rcases ih h with h | h
      · rcases List.mem_cons.1 h with rfl | h
        · exact .inr ⟨_, rfl⟩
        · exact .inl h
      · exact .inr h

theorem plain_digitChar (d : Nat) :
    0x20 ≤ (Nat.digitChar d).toNat ∧ (Nat.digitChar d).toNat ≤ 0x7e := by
  have digit : ∀ d < 16, 0x20 ≤ (Nat.digitChar d).toNat ∧ (Nat.digitChar d).toNat ≤ 0x7e := by
    decide
  rcases Nat.lt_or_ge d 16 with h | h
  · exact digit d h
  · have star : Nat.digitChar d = '*' := by
      unfold Nat.digitChar
      repeat rw [if_neg (by omega)]
    rw [star]
    decide

theorem plain_toDigits (base n : Nat) :
    ∀ c ∈ Nat.toDigits base n, 0x20 ≤ c.toNat ∧ c.toNat ≤ 0x7e := by
  intro c hc
  obtain ⟨d, rfl⟩ := (mem_toDigitsCore hc).resolve_left (by simp)
  exact plain_digitChar d

theorem plain_toString (n : Nat) : Plain (toString n) := by
  have : toString n = String.ofList (Nat.toDigits 10 n) := rfl
  rw [this, plain_ofList]
  exact plain_toDigits 10 n

theorem plain_toString_byte (n : UInt8) : Plain (toString n) := plain_toString n.toNat

theorem plain_toString_text {s : String} : Plain (toString s) ↔ Plain s := Iff.rfl

theorem plain_hex (width n : Nat) : Plain (Text.Numeral.hex width n) := by
  rw [Text.Numeral.hex, plain_ofList, List.forall_mem_append]
  refine ⟨fun c hc => ?_, plain_toDigits 16 n⟩
  rw [List.eq_of_mem_replicate hc]
  decide

theorem plain_intercalate {sep : String} (hsep : Plain sep) {l : List String}
    (hl : ∀ s ∈ l, Plain s) : Plain (sep.intercalate l) := by
  induction l with
  | nil =>
    rw [String.intercalate_nil]
    decide
  | cons s l ih =>
    have hs := hl s List.mem_cons_self
    have hrest := ih fun s hs => hl s (List.mem_cons_of_mem _ hs)
    by_cases hnil : l = []
    · rwa [hnil, String.intercalate_singleton]
    · rw [String.intercalate_cons_of_ne_nil hnil, plain_append, plain_append]
      exact ⟨⟨hs, hsep⟩, hrest⟩

/-! ## The parts of replies -/

theorem plain_colorParam (color : Color) (base bright extended : Nat) :
    ∀ s ∈ Rendition.colorParam color base bright extended, Plain s := by
  cases color <;>
    simp only [Rendition.colorParam, List.not_mem_nil, List.mem_singleton, forall_eq, plain_append,
      plain_toString, plain_toString_byte, plain_toString_text, true_and, and_true,
      IsEmpty.forall_iff,
      implies_true]
  all_goals decide

theorem plain_underlineColorParam (color : Option Color) :
    ∀ s ∈ Rendition.underlineColorParam color, Plain s := by
  unfold Rendition.underlineColorParam
  split <;>
    simp only [List.not_mem_nil, List.mem_singleton, forall_eq, plain_append, plain_toString_byte,
      plain_toString_text, and_true, IsEmpty.forall_iff, implies_true]
  all_goals decide

theorem plain_underlineParam (u : Underline) : ∀ s ∈ Rendition.underlineParam u, Plain s := by
  cases u <;> decide

theorem plain_selector (r : Rendition) : Plain r.selector := by
  have option (on : Bool) {param : String} (h : Plain param) :
      ∀ s ∈ (if on then [param] else []), Plain s := by
    cases on <;> simp [h]
  unfold Rendition.selector
  rw [plain_append]
  refine ⟨plain_intercalate (by decide) ?_, by decide⟩
  simp only [List.forall_mem_append]
  refine ⟨⟨⟨⟨⟨⟨⟨⟨⟨⟨⟨by decide, option r.bold (by decide)⟩, option r.dim (by decide)⟩,
    option r.italic (by decide)⟩, plain_underlineParam _⟩, option r.blink (by decide)⟩,
    option r.inverse (by decide)⟩, option r.hidden (by decide)⟩,
    option r.strikethrough (by decide)⟩, plain_colorParam _ _ _ _⟩, plain_colorParam _ _ _ _⟩,
    plain_underlineColorParam _⟩

theorem plain_settingSelector (setting : Setting) : Plain setting.selector := by
  cases setting with
  | rendition r => exact plain_selector r
  | region top bottom =>
    simp only [Setting.selector, plain_append, plain_toString, plain_toString_text,
      and_true, true_and]
    decide
  | cursorStyle shape blink =>
    simp only [Setting.selector, plain_append, plain_toString, true_and]
    decide

theorem printable_iff {b : UInt8} : Printable b ↔ 0x20 ≤ b.toNat ∧ b.toNat ≤ 0x7e := by
  simp [Printable, UInt8.le_iff_toNat_le]

theorem printable_hex (bytes : List UInt8) : ∀ b ∈ Text.Hex.encode bytes, Printable b := by
  have digit (n : UInt8) (h : n.toNat < 16) : Printable (Text.Hex.digit n) := by
    rw [printable_iff, Text.Hex.digit]
    split <;> simp only [UInt8.toNat_add, UInt8.reduceToNat] <;> omega
  intro b hb
  obtain ⟨x, -, hx⟩ := List.mem_flatMap.1 hb
  have := x.toNat_lt
  simp only [List.mem_cons, List.not_mem_nil, or_false] at hx
  rcases hx with rfl | rfl
  · exact digit _ (by simp only [UInt8.toNat_div, UInt8.reduceToNat]; omega)
  · exact digit _ (by simp only [UInt8.toNat_mod, UInt8.reduceToNat]; omega)

theorem printable_symbol (n : Nat) : Printable (Text.Base64.symbol n) := by
  rw [printable_iff, Text.Base64.symbol, UInt8.toNat_ofNat']
  split_ifs <;> omega

/-- All that is needed of Base64 is that it is printable. -/
theorem printable_base64 (bytes : List UInt8) : ∀ b ∈ Text.Base64.encode bytes, Printable b := by
  have pad : Printable Text.Base64.pad := by decide
  suffices ∀ done : List UInt8, (∀ b ∈ done, Printable b) →
      ∀ b ∈ Text.Base64.encodeAfter done bytes, Printable b from this [] (by simp)
  intro done hdone
  fun_induction Text.Base64.encodeAfter done bytes with
  | case1 done => simpa using hdone
  | case2 done a => simpa [or_imp, forall_and, pad, printable_symbol] using hdone
  | case3 done a b => simpa [or_imp, forall_and, pad, printable_symbol] using hdone
  | case4 done a b c rest ih =>
    exact ih (by simpa [or_imp, forall_and, printable_symbol] using hdone)

theorem plain_color (value : Nat) : Plain (Color.Spec.write value) := by
  simp only [Color.Spec.write, plain_append, plain_toString_text, plain_hex, and_true]
  decide

/-! ## The form -/

/-- One reply: a control sequence, an operating system command or a device control string, with
nothing but printable characters inside. -/
inductive Framed : List UInt8 → Prop
  | sequence {body} : (∀ b ∈ body, Printable b) → Framed (0x1b :: 0x5b :: body)
  | commandBell {body} : (∀ b ∈ body, Printable b) → Framed (0x1b :: 0x5d :: (body ++ [0x07]))
  | command {body} : (∀ b ∈ body, Printable b) → Framed (0x1b :: 0x5d :: (body ++ [0x1b, 0x5c]))
  | device {body} : (∀ b ∈ body, Printable b) → Framed (0x1b :: 0x50 :: (body ++ [0x1b, 0x5c]))

theorem framed_sequence {s : String} (h : Plain s) :
    Framed (Text.Utf8.encode ("\x1b[" ++ s)) := by
  rw [encode_append]
  exact .sequence h.printable

theorem framed_command_iff (body : List UInt8) (terminator : Terminator) :
    Framed (0x1b :: 0x5d :: (body ++ Text.Utf8.encode terminator.text)) ↔
      ∀ b ∈ body, Printable b := by
  have bell : Text.Utf8.encode Terminator.bell.text = [0x07] := by decide
  have st : Text.Utf8.encode Terminator.st.text = [0x1b, 0x5c] := by decide
  constructor
  · intro h
    generalize hl : (0x1b :: 0x5d :: (body ++ Text.Utf8.encode terminator.text) : List UInt8) = l
      at h
    cases h with
    | sequence h => simp at hl
    | device h => simp at hl
    | @commandBell body' h =>
      cases terminator with
      | bell =>
        rw [bell] at hl
        simp only [List.cons.injEq, true_and, List.append_cancel_right_eq] at hl
        exact hl ▸ h
      | st =>
        rw [st] at hl
        have := congrArg List.reverse hl
        simp at this
    | @command body' h =>
      cases terminator with
      | bell =>
        rw [bell] at hl
        have := congrArg List.reverse hl
        simp at this
      | st =>
        rw [st] at hl
        simp only [List.cons.injEq, true_and, List.append_cancel_right_eq] at hl
        exact hl ▸ h
  · intro h
    cases terminator with
    | bell => exact bell ▸ .commandBell h
    | st => exact st ▸ .command h

theorem framed_device_iff (body : List UInt8) :
    Framed (0x1b :: 0x50 :: (body ++ [0x1b, 0x5c])) ↔ ∀ b ∈ body, Printable b := by
  constructor
  · intro h
    generalize hl : (0x1b :: 0x50 :: (body ++ [0x1b, 0x5c]) : List UInt8) = l at h
    cases h with
    | sequence h => simp at hl
    | commandBell h => simp at hl
    | command h => simp at hl
    | device h =>
      simp only [List.cons.injEq, true_and, List.append_cancel_right_eq] at hl
      exact hl ▸ h
  · exact .device

theorem framed_device {s : String} (h : Plain s) :
    Framed (Text.Utf8.encode ("\x1bP" ++ s ++ "\x1b\\")) := by
  rw [encode_append, encode_append]
  exact (framed_device_iff _).2 h.printable

theorem framed_command {s : String} (h : Plain s) (terminator : Terminator) :
    Framed (Text.Utf8.encode ("\x1b]" ++ s ++ terminator.text)) := by
  rw [encode_append, encode_append]
  exact (framed_command_iff _ terminator).2 h.printable

namespace Reply

/-- What a reply repeats of the question that it answers. -/
def echo : Reply → List UInt8
  | .capability name _ _ => name
  | .clipboard target _ _ => Text.Utf8.encode target.toString
  | _ => []

theorem printable_capabilityValue (value : Capability) (terminalName : String) :
    ∀ b ∈ capabilityValue value terminalName, Printable b := by
  unfold capabilityValue
  split
  · simp
  · rw [List.forall_mem_append]
    exact ⟨by decide, printable_hex _⟩

/-- A pair of numbers in a control sequence. -/
theorem plain_pair (head tail : String) (m n : Nat) (hh : Plain head) (ht : Plain tail) :
    Plain (head ++ s!"{m};{n}" ++ tail) := by
  simp only [plain_append, plain_toString, plain_toString_text, and_true, true_and]
  exact ⟨⟨hh, by decide⟩, ht⟩

theorem framed_capability_iff (name : List UInt8) (value : Option Capability)
    (terminalName : String) :
    Framed (Reply.capability name value terminalName).encode ↔ ∀ b ∈ name, Printable b := by
  cases value with
  | none =>
    refine (framed_device_iff (Text.Utf8.encode "0+r" ++ name)).trans ?_
    rw [List.forall_mem_append]
    exact and_iff_right (by decide)
  | some value =>
    have hencode : (Reply.capability name (some value) terminalName).encode = 0x1b :: 0x50 ::
        (Text.Utf8.encode "1+r" ++ name ++ capabilityValue value terminalName ++ [0x1b, 0x5c]) :=
      rfl
    rw [hencode, framed_device_iff, List.forall_mem_append, List.forall_mem_append]
    have head : ∀ b ∈ Text.Utf8.encode "1+r", Printable b := by decide
    have tail := printable_capabilityValue value terminalName
    exact ⟨fun h => h.1.2, fun h => ⟨⟨head, h⟩, tail⟩⟩

theorem framed_clipboard_iff (target : Char) (data : List UInt8) (terminator : Terminator) :
    Framed (Reply.clipboard target data terminator).encode ↔
      ∀ b ∈ Text.Utf8.encode target.toString, Printable b := by
  have hencode : (Reply.clipboard target data terminator).encode = 0x1b :: 0x5d ::
      (Text.Utf8.encode "52;" ++ Text.Utf8.encode target.toString ++ Text.Utf8.encode ";"
        ++ Text.Base64.encode data ++ Text.Utf8.encode terminator.text) := by
    simp only [encode, encode.ascii, encode_append]
    rfl
  rw [hencode, framed_command_iff]
  simp only [List.forall_mem_append]
  have head : ∀ b ∈ Text.Utf8.encode "52;", Printable b := by decide
  have separator : ∀ b ∈ Text.Utf8.encode ";", Printable b := by decide
  have tail := printable_base64 data
  exact ⟨fun h => h.1.1.2, fun h => ⟨⟨⟨head, h⟩, separator⟩, tail⟩⟩

/-- A reply has the right form exactly if what it repeats of the question is printable. -/
theorem framed_encode_iff (r : Reply) : Framed r.encode ↔ ∀ b ∈ r.echo, Printable b := by
  cases r with
  | capability name value terminalName => exact framed_capability_iff name value terminalName
  | clipboard target data terminator => exact framed_clipboard_iff target data terminator
  | primaryAttributes sixel =>
    refine iff_of_true ?_ (by simp [echo])
    cases sixel with
    | false => exact framed_sequence (s := "?62;22c") (by decide)
    | true => exact framed_sequence (s := "?62;4;22c") (by decide)
  | secondaryAttributes =>
    exact iff_of_true (framed_sequence (s := ">1;" ++ versionNumber ++ ";0c") (by decide))
      (by simp [echo])
  | tertiaryAttributes =>
    exact iff_of_true (framed_device (s := "!|" ++ Text.Hex.text (Text.Utf8.encode programName))
      (by decide)) (by simp [echo])
  | version =>
    exact iff_of_true (framed_device (s := ">|" ++ programName ++ "(" ++ programVersion ++ ")")
      (by decide)) (by simp [echo])
  | healthy => exact iff_of_true (framed_sequence (s := "0n") (by decide)) (by simp [echo])
  | position isPrivate row col =>
    refine iff_of_true ?_ (by simp [echo])
    cases isPrivate with
    | false => exact framed_sequence (plain_pair "" "R" row col (by decide) (by decide))
    | true => exact framed_sequence (plain_pair "?" "R" row col (by decide) (by decide))
  | decMode number status =>
    exact iff_of_true (framed_sequence (plain_pair "?" "$y" number status.number (by decide)
      (by decide))) (by simp [echo])
  | ansiMode number status =>
    exact iff_of_true (framed_sequence (plain_pair "" "$y" number status.number (by decide)
      (by decide))) (by simp [echo])
  | setting value =>
    refine iff_of_true ?_ (by simp [echo])
    cases value with
    | none => exact framed_device (s := "0$r") (by decide)
    | some value =>
      refine framed_device (s := "1$r" ++ value.selector) ?_
      exact plain_append.2 ⟨by decide, plain_settingSelector value⟩
  | color item value terminator =>
    refine iff_of_true (framed_command (s := item.number ++ ";" ++ Color.Spec.write value) ?_
      terminator) (by simp [echo])
    rw [plain_append, plain_append]
    refine ⟨⟨?_, by decide⟩, plain_color value⟩
    cases item with
    | palette index =>
      simp only [ColorItem.number, plain_append, plain_toString, plain_toString_text, and_true]
      decide
    | foreground | background | cursor => decide
  | windowOpen => exact iff_of_true (framed_sequence (s := "1t") (by decide)) (by simp [echo])
  | windowPosition =>
    exact iff_of_true (framed_sequence (s := "3;0;0t") (by decide)) (by simp [echo])
  | textPixels height width =>
    exact iff_of_true (framed_sequence (plain_pair "4;" "t" height width (by decide)
      (by decide))) (by simp [echo])
  | screenPixels =>
    exact iff_of_true (framed_sequence (s := "5;0;0t") (by decide)) (by simp [echo])
  | cellPixels height width =>
    exact iff_of_true (framed_sequence (plain_pair "6;" "t" height width (by decide)
      (by decide))) (by simp [echo])
  | textCells rows cols =>
    exact iff_of_true (framed_sequence (plain_pair "8;" "t" rows cols (by decide)
      (by decide))) (by simp [echo])
  | screenCells =>
    exact iff_of_true (framed_sequence (s := "9;0;0t") (by decide)) (by simp [echo])

end Reply

end Teletype
