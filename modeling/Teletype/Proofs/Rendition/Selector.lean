import Mathlib.Tactic.IntervalCases
import Teletype.Proofs.Control.Written
import Teletype.Sgr

/-!
# A rendition selects itself

The parameters that a rendition is written as select it, whatever the rendition was before. That
holds of the renditions that can be selected at all: a base colour is one of sixteen, and the colour
of the underline is never a base colour.
-/

namespace Teletype

/-! ## What can be selected -/

/-- A colour that a parameter of its own or an extended one selects. -/
def Color.Selectable : Color → Prop
  | .named n => n.toNat < 16
  | _ => True

/-- A colour that an extended parameter selects. -/
def Color.Extended : Color → Prop
  | .indexed _ | .rgb .. => True
  | _ => False

theorem Color.Extended.selectable {color : Color} (h : color.Extended) : color.Selectable := by
  cases color with
  | named n => exact h.elim
  | default | indexed | rgb => trivial

namespace Rendition

open Control (Param Params)
open Control.Params.Builder (Writes WritesAll listed writes_numeral writesAll_value)
open Text.Utf8 (encode)

/-- A rendition that some parameters select. -/
structure Selectable (r : Rendition) : Prop where
  foreground : r.foreground.Selectable
  background : r.background.Selectable
  underline : ∀ color, r.underlineColor = some color → color.Extended

variable {r q : Rendition} {color : Color}

theorem selectable_default : ({} : Rendition).Selectable := ⟨trivial, trivial, nofun⟩

theorem extended_of_subs {subs : List Nat} (h : colorOfSubs? subs = some color) :
    color.Extended := by
  unfold colorOfSubs? at h
  split at h
  · exact Option.some.inj h ▸ trivial
  · exact Option.some.inj h ▸ trivial
  · exact Option.some.inj h ▸ trivial
  · exact nomatch h

theorem extended_of_params {values : List Nat} {taken : Nat}
    (h : colorOfParams? values = some (color, taken)) : color.Extended := by
  unfold colorOfParams? at h
  split at h
  · obtain ⟨rfl, -⟩ := Prod.mk.inj (Option.some.inj h)
    trivial
  · obtain ⟨rfl, -⟩ := Prod.mk.inj (Option.some.inj h)
    trivial
  · exact nomatch h

theorem extended_of_extendedColor {p : Param} {rest : List Param} {taken : Nat}
    (h : extendedColor? p rest = some (color, taken)) : color.Extended := by
  unfold extendedColor? at h
  split at h
  · exact extended_of_params h
  · obtain ⟨_, subs, same⟩ := Option.map_eq_some_iff.1 h
    obtain ⟨rfl, -⟩ := Prod.mk.inj same
    exact extended_of_subs subs

theorem Selectable.setColor (h : r.Selectable) (hcolor : color.Extended) (introducer : Nat) :
    (r.setColor introducer color).Selectable := by
  unfold Rendition.setColor
  split
  · exact { h with foreground := hcolor.selectable }
  · exact { h with background := hcolor.selectable }
  · exact { h with underline := fun _ same => Option.some.inj same ▸ hcolor }

theorem selectable_named {n : Nat} (h : n < 16) : (named n).Selectable := by
  show (UInt8.ofNat n).toNat < 16
  simp
  omega

theorem Selectable.selectOne (h : r.Selectable) (p : Param) : (r.selectOne p).value.Selectable := by
  unfold Rendition.selectOne
  dsimp only
  split
  · exact selectable_default
  · exact { h with }
  · exact { h with }
  · exact { h with }
  · unfold selectUnderline
    split
    · exact { h with }
    · split
      · exact { h with }
      · exact h
  · exact { h with }
  · exact h
  · exact { h with }
  · exact { h with }
  · exact { h with }
  · exact h
  · exact h
  · exact { h with }
  · exact { h with }
  · exact { h with }
  · exact { h with }
  · exact { h with }
  · exact { h with }
  · exact { h with }
  · exact { h with foreground := trivial }
  · exact { h with background := trivial }
  · exact { h with underline := nofun }
  · simp only [Bool.and_eq_true, decide_eq_true_eq]
    split
    · exact { h with foreground := selectable_named (by omega) }
    · split
      · exact { h with background := selectable_named (by omega) }
      · split
        · exact { h with foreground := selectable_named (by omega) }
        · split
          · exact { h with background := selectable_named (by omega) }
          · exact h

theorem Selectable.selectFrom (h : r.Selectable) (reports : List Report) (items : List Param) :
    (r.selectFrom reports items).value.Selectable := by
  fun_induction Rendition.selectFrom r reports items with
  | case1 => exact h
  | case2 r reports p rest _ color taken hcolor ih =>
    exact ih (h.setColor (extended_of_extendedColor hcolor) _)
  | case3 r reports p rest _ _ ih => exact ih h
  | case4 r reports p rest _ next ih => exact ih (h.selectOne p)

/-- What is selected can be selected. -/
theorem Selectable.select (h : r.Selectable) (params : Params) :
    (r.select params).value.Selectable := by
  unfold Rendition.select
  split
  · exact selectable_default
  · exact h.selectFrom _ _

/-! ## The parameters -/

/-- A parameter that is there if something is on. -/
def optionItems (on : Bool) (value : Nat) : List Param := if on then [{ value }] else []

/-- The parameters that select a colour. -/
def colorItems (color : Color) (base bright extended : Nat) : List Param :=
  match color with
  | .default => []
  | .named n => [{ value := if 8 ≤ n.toNat then bright + n.toNat - 8 else base + n.toNat }]
  | .indexed n => [{ value := extended, subs := [5, n.toNat] }]
  | .rgb r g b => [{ value := extended, subs := [2, 0, r.toNat, g.toNat, b.toNat] }]

/-- The parameters that select a style of underline. -/
def underlineItems : Underline → List Param
  | .none => []
  | .single => [{ value := 4 }]
  | style => [{ value := 4, subs := [style.number] }]

/-- The parameters that select the colour of the underline. -/
def underlineColorItems : Option Color → List Param
  | some (.named n) | some (.indexed n) => [{ value := 58, subs := [5, n.toNat] }]
  | some (.rgb r g b) => [{ value := 58, subs := [2, 0, r.toNat, g.toNat, b.toNat] }]
  | some .default | none => []

/-- The parameters that a rendition is written as. -/
def selectorItems (r : Rendition) : List Param :=
  [{ value := 0 }] ++ optionItems r.bold 1 ++ optionItems r.dim 2 ++ optionItems r.italic 3
    ++ underlineItems r.underline ++ optionItems r.blink 5 ++ optionItems r.inverse 7
    ++ optionItems r.hidden 8 ++ optionItems r.strikethrough 9
    ++ colorItems r.foreground 30 90 38 ++ colorItems r.background 40 100 48
    ++ underlineColorItems r.underlineColor

theorem length_optionItems (on : Bool) (value : Nat) : (optionItems on value).length ≤ 1 := by
  unfold optionItems
  split <;> simp

theorem length_colorItems (color : Color) (base bright extended : Nat) :
    (colorItems color base bright extended).length ≤ 1 := by
  cases color <;> simp [colorItems]

theorem length_selectorItems (r : Rendition) : r.selectorItems.length ≤ Params.maxCount := by
  have underline : (underlineItems r.underline).length ≤ 1 := by
    cases r.underline <;> simp [underlineItems]
  have underlineColor : (underlineColorItems r.underlineColor).length ≤ 1 := by
    unfold underlineColorItems
    split <;> simp
  have option := length_optionItems
  have color := length_colorItems
  have bold := option r.bold 1
  have dim := option r.dim 2
  have italic := option r.italic 3
  have blink := option r.blink 5
  have inverse := option r.inverse 7
  have hidden := option r.hidden 8
  have strikethrough := option r.strikethrough 9
  have foreground := color r.foreground 30 90 38
  have background := color r.background 40 100 48
  simp only [selectorItems, List.length_append, List.length_cons, List.length_nil, Params.maxCount]
  omega

/-! ## The text -/

theorem byte_le (n : UInt8) : n.toNat ≤ Params.maxValue := by
  have := n.toNat_lt
  unfold Params.maxValue
  omega

theorem writesAll_option (on : Bool) {text : String} {value : Nat} (h : toString value = text)
    (hvalue : value ≤ Params.maxValue) :
    WritesAll (if on then [text] else []) (optionItems on value) := by
  cases on with
  | false => exact .nil
  | true => exact writesAll_value h hvalue

/-- An entry of the palette, in sub-parameters. -/
theorem writes_indexed {extended : Nat} (h : extended ≤ Params.maxValue) (n : UInt8) :
    Writes (encode s!"{extended}:5:{n}") { value := extended, subs := [5, n.toNat] } := by
  have bytes :
      encode s!"{extended}:5:{n}" = encode (toString extended) ++ encode ":" ++
      encode (toString 5) ++ encode ":" ++ encode (toString n.toNat) := by
    have text : s!"{extended}:5:{n}" = toString extended ++ ":5:" ++ toString n.toNat := rfl
    have middle : encode ":5:" = encode ":" ++ encode (toString 5) ++ encode ":" := by decide
    rw [text, encode_append, encode_append, middle]
    simp
  rw [bytes]
  have introduced := (writes_numeral h).sub (n := 5) (by decide) (by decide)
  exact introduced.sub (by decide) (byte_le n)

/-- A colour value, in sub-parameters, with the colour space left out. -/
theorem writes_rgb {extended : Nat} (h : extended ≤ Params.maxValue) (r g b : UInt8) :
    Writes (encode s!"{extended}:2::{r}:{g}:{b}")
      { value := extended, subs := [2, 0, r.toNat, g.toNat, b.toNat] } := by
  have bytes : encode s!"{extended}:2::{r}:{g}:{b}" = encode (toString extended) ++ encode ":"
      ++ encode (toString 2) ++ encode ":" ++ encode ":" ++ encode (toString r.toNat) ++ encode ":"
      ++ encode (toString g.toNat) ++ encode ":" ++ encode (toString b.toNat) := by
    have text :
        s!"{extended}:2::{r}:{g}:{b}" = toString extended ++ ":2::" ++ toString r.toNat ++ ":"
      ++ toString g.toNat ++ ":" ++ toString b.toNat := rfl
    have middle :
        encode ":2::" = encode ":" ++ encode (toString 2) ++ encode ":" ++ encode ":" := by decide
    simp only [text, encode_append, middle, List.append_assoc]
  rw [bytes]
  have introduced := (writes_numeral h).sub (n := 2) (by decide) (by decide)
  exact (((introduced.colon (by decide)).sub (by decide) (byte_le r)).sub (by simp [Params.maxSubs])
    (byte_le g)).sub (by simp [Params.maxSubs]) (byte_le b)

theorem writesAll_color (color : Color) (base bright extended : Nat) (hbase : base ≤ 100)
    (hbright : bright ≤ 100) (hextended : extended ≤ 100) :
    WritesAll (colorParam color base bright extended) (colorItems color base bright extended) := by
  cases color with
  | default => exact .nil
  | named n =>
    refine .cons (writes_numeral ?_) .nil
    have := n.toNat_lt
    unfold Params.maxValue
    split <;> omega
  | indexed n => exact .cons (writes_indexed (by unfold Params.maxValue; omega) n) .nil
  | rgb r g b => exact .cons (writes_rgb (by unfold Params.maxValue; omega) r g b) .nil

theorem writesAll_underline (style : Underline) :
    WritesAll (underlineParam style) (underlineItems style) := by
  have styled (n : Nat) (h : n ≤ 5) {text : String}
      (htext : encode text = encode (toString 4) ++ encode ":" ++ encode (toString n)) :
      WritesAll [text] [{ value := 4, subs := [n] }] := by
    refine .cons ?_ .nil
    rw [htext]
    exact (writes_numeral (n := 4) (by decide)).sub (by decide) (by unfold Params.maxValue; omega)
  cases style with
  | none => exact .nil
  | single => exact writesAll_value (n := 4) rfl (by decide)
  | double => exact styled 2 (by decide) (by decide)
  | curly => exact styled 3 (by decide) (by decide)
  | dotted => exact styled 4 (by decide) (by decide)
  | dashed => exact styled 5 (by decide) (by decide)

theorem writesAll_underlineColor (color : Option Color) :
    WritesAll (underlineColorParam color) (underlineColorItems color) := by
  have indexed (n : UInt8) : s!"58:5:{n}" = s!"{58}:5:{n}" := congrArg (· ++ toString n) (by decide)
  have rgb (r g b : UInt8) : s!"58:2::{r}:{g}:{b}" = s!"{58}:2::{r}:{g}:{b}" :=
    congrArg (· ++ toString r ++ ":" ++ toString g ++ ":" ++ toString b) (by decide)
  unfold underlineColorParam underlineColorItems
  split
  · rw [indexed]
    exact .cons (writes_indexed (by decide) _) .nil
  · rw [indexed]
    exact .cons (writes_indexed (by decide) _) .nil
  · rw [rgb]
    exact .cons (writes_rgb (by decide) _ _ _) .nil
  · exact .nil
  · exact .nil

/-- The parameters of a rendition as texts. -/
def selectorTexts (r : Rendition) : List String :=
  let option (on : Bool) (param : String) := if on then [param] else []
  ["0"] ++ option r.bold "1" ++ option r.dim "2" ++ option r.italic "3"
    ++ underlineParam r.underline ++ option r.blink "5" ++ option r.inverse "7"
    ++ option r.hidden "8" ++ option r.strikethrough "9"
    ++ colorParam r.foreground 30 90 38 ++ colorParam r.background 40 100 48
    ++ underlineColorParam r.underlineColor

theorem selector_eq (r : Rendition) : r.selector = listed r.selectorTexts ++ "m" := rfl

theorem selectorTexts_ne_nil (r : Rendition) : r.selectorTexts ≠ [] := by
  simp [selectorTexts]

/-- The selector of a rendition writes its parameters. -/
theorem writesAll_selector (r : Rendition) : WritesAll r.selectorTexts r.selectorItems := by
  have option (on : Bool) (text : String) (value : Nat) (h : toString value = text)
      (hvalue : value ≤ 9) :=
    writesAll_option on h (by unfold Params.maxValue; omega)
  have reset : WritesAll ["0"] [{ value := 0 }] := writesAll_value rfl (by decide)
  have weight := (reset.append (option r.bold "1" 1 rfl (by decide))).append
    (option r.dim "2" 2 rfl (by decide))
  have style := ((weight.append (option r.italic "3" 3 rfl (by decide))).append
    (writesAll_underline r.underline)).append (option r.blink "5" 5 rfl (by decide))
  have flags := ((style.append (option r.inverse "7" 7 rfl (by decide))).append
    (option r.hidden "8" 8 rfl (by decide))).append (option r.strikethrough "9" 9 rfl (by decide))
  have colors :=
    (flags.append
      (writesAll_color r.foreground 30 90 38 (by decide) (by decide) (by decide))).append
        (writesAll_color r.background 40 100 48 (by decide) (by decide) (by decide))
  exact colors.append (writesAll_underlineColor r.underlineColor)

/-! ## The effect -/

/-- Reading the parameters, whatever follows them, makes one rendition of another. -/
def Leads (items : List Param) (r q : Rendition) : Prop :=
  ∀ reports rest, ∃ reports', r.selectFrom reports (items ++ rest) = q.selectFrom reports' rest

theorem Leads.append {items items' : List Param} {p : Rendition} (h : Leads items r q)
    (h' : Leads items' q p) : Leads (items ++ items') r p := by
  intro reports rest
  obtain ⟨between, first⟩ := h reports (items' ++ rest)
  obtain ⟨last, second⟩ := h' between rest
  exact ⟨last, by rw [List.append_assoc, first, second]⟩

theorem leads_nil (h : r = q) : Leads [] r q := fun reports _ => ⟨reports, h ▸ rfl⟩

/-- A parameter that stands for itself. -/
theorem leads_one {p : Param} (h : isIntroducer p.value = false) :
    Leads [p] r (r.selectOne p).value := by
  intro reports rest
  refine ⟨reports ++ (r.selectOne p).reports, ?_⟩
  rw [List.singleton_append, selectFrom, h, if_neg Bool.false_ne_true]

/-- A parameter that introduces a colour, which its sub-parameters give. -/
theorem leads_color {introducer : Nat} {subs : List Nat} (h : isIntroducer introducer = true)
    (hsubs : subs ≠ []) (hcolor : colorOfSubs? subs = some color) :
    Leads [{ value := introducer, subs }] r (r.setColor introducer color) := by
  intro reports rest
  have found : extendedColor? { value := introducer, subs } rest = some (color, 0) := by
    rw [extendedColor?, if_neg (by simpa using hsubs), hcolor]
    rfl
  refine ⟨reports, ?_⟩
  rw [List.singleton_append, selectFrom]
  dsimp only
  rw [if_pos h, found]
  rfl

theorem clampByte_toNat (n : UInt8) : clampByte n.toNat = n := by
  have := n.toNat_lt
  rw [clampByte, Nat.min_eq_left (by omega), UInt8.ofNat_toNat]

/-- A parameter that is there if something is on, which was off before. -/
theorem leads_option (on : Bool) (value : Nat) (put : Rendition → Bool → Rendition)
    (hvalue : isIntroducer value = false) (hset : (r.selectOne { value }).value = put r true)
    (hkeep : r = put r false) : Leads (optionItems on value) r (put r on) := by
  cases on with
  | false => exact leads_nil hkeep
  | true => exact hset ▸ leads_one hvalue

theorem leads_underline (hr : r.underline = .none) (style : Underline) :
    Leads (underlineItems style) r { r with underline := style } := by
  cases style with
  | none => exact leads_nil (congrArg (fun style => { r with underline := style }) hr)
  | single | double | curly | dotted | dashed => exact leads_one rfl

theorem colorOfSubs?_indexed (n : UInt8) : colorOfSubs? [5, n.toNat] = some (.indexed n) := by
  rw [colorOfSubs?, clampByte_toNat]

theorem colorOfSubs?_rgb (red green blue : UInt8) :
    colorOfSubs? [2, 0, red.toNat, green.toNat, blue.toNat] = some (.rgb red green blue) := by
  rw [colorOfSubs?, clampByte_toNat, clampByte_toNat, clampByte_toNat]

/-- The parameters of a colour that was the default before. The base colours have parameters of
their own, the plain ones and the bright ones apart. -/
theorem leads_colorItems {base bright extended : Nat} (put : Rendition → Color → Rendition)
    (hnamed : ∀ k < 16, isIntroducer (if 8 ≤ k then bright + k - 8 else base + k) = false ∧
      (r.selectOne { value := if 8 ≤ k then bright + k - 8 else base + k }).value = put r (named k))
    (hextended : isIntroducer extended = true)
    (hset : ∀ color, r.setColor extended color = put r color)
    (hkeep : r = put r .default) (h : color.Selectable) :
    Leads (colorItems color base bright extended) r (put r color) := by
  cases color with
  | default => exact leads_nil hkeep
  | named n =>
    obtain ⟨plain, selected⟩ := hnamed n.toNat h
    rw [named, UInt8.ofNat_toNat] at selected
    exact selected ▸ leads_one plain
  | indexed n =>
    exact hset _ ▸ leads_color hextended (List.cons_ne_nil _ _) (colorOfSubs?_indexed n)
  | rgb red green blue =>
    exact hset _ ▸ leads_color hextended (List.cons_ne_nil _ _) (colorOfSubs?_rgb red green blue)

theorem leads_foreground (hr : r.foreground = .default) (h : color.Selectable) :
    Leads (colorItems color 30 90 38) r { r with foreground := color } :=
  leads_colorItems (fun p color => { p with foreground := color })
    (fun k hk => by interval_cases k <;> exact ⟨rfl, rfl⟩) rfl (fun _ => rfl)
    (congrArg (fun color => { r with foreground := color }) hr) h

theorem leads_background (hr : r.background = .default) (h : color.Selectable) :
    Leads (colorItems color 40 100 48) r { r with background := color } :=
  leads_colorItems (fun p color => { p with background := color })
    (fun k hk => by interval_cases k <;> exact ⟨rfl, rfl⟩) rfl (fun _ => rfl)
    (congrArg (fun color => { r with background := color }) hr) h

theorem leads_underlineColor (hr : r.underlineColor = none) {color : Option Color}
    (h : ∀ c, color = some c → c.Extended) :
    Leads (underlineColorItems color) r { r with underlineColor := color } := by
  cases color with
  | none => exact leads_nil (congrArg (fun color => { r with underlineColor := color }) hr)
  | some color =>
    cases color with
    | default => exact (h _ rfl).elim
    | named n => exact (h _ rfl).elim
    | indexed n => exact leads_color rfl (List.cons_ne_nil _ _) (colorOfSubs?_indexed n)
    | rgb red green blue =>
      exact leads_color rfl (List.cons_ne_nil _ _) (colorOfSubs?_rgb red green blue)

/-- One parameter after the other fills in the rendition. -/
theorem leads_selectorItems (h : r.Selectable) (q : Rendition) : Leads r.selectorItems q r := by
  have reset : Leads [{ value := 0 }] q {} := leads_one rfl
  have bold := reset.append (leads_option r.bold 1 (fun p on => { p with bold := on }) rfl rfl rfl)
  have dim := bold.append (leads_option r.dim 2 (fun p on => { p with dim := on }) rfl rfl rfl)
  have italic := dim.append
    (leads_option r.italic 3 (fun p on => { p with italic := on }) rfl rfl rfl)
  have underline := italic.append (leads_underline rfl r.underline)
  have blink := underline.append
    (leads_option r.blink 5 (fun p on => { p with blink := on }) rfl rfl rfl)
  have inverse := blink.append
    (leads_option r.inverse 7 (fun p on => { p with inverse := on }) rfl rfl rfl)
  have hidden := inverse.append
    (leads_option r.hidden 8 (fun p on => { p with hidden := on }) rfl rfl rfl)
  have strikethrough := hidden.append
    (leads_option r.strikethrough 9 (fun p on => { p with strikethrough := on }) rfl rfl rfl)
  have foreground := strikethrough.append (leads_foreground rfl h.foreground)
  have background := foreground.append (leads_background rfl h.background)
  exact background.append (leads_underlineColor rfl h.underline)

/-- The parameters of a rendition select it, whatever the rendition was. -/
theorem select_selectorItems (h : r.Selectable) (q : Rendition) :
    (q.select { items := r.selectorItems }).value = r := by
  obtain ⟨reports, read⟩ := leads_selectorItems h q [] []
  have started : ¬r.selectorItems.isEmpty = true := by simp [selectorItems]
  rw [List.append_nil] at read
  rw [select, if_neg started, read, selectFrom]

end Rendition

end Teletype
