import Teletype.Proofs.Rendition.Selector
import Teletype.Proofs.Terminal.Sequences

/-!
# The groups of a rendition sequence

How many parameters are read at once depends on those that follow: a colour takes two or four of
them, and if too few follow, each is read by itself. Where a complete group ends nothing that
follows is looked at, so that a list can be cut there. A colour can be written in several ways,
which all select the same.
-/

namespace Teletype

open Control (Param Params)
open Text.Utf8 (encode)

namespace Rendition

variable {p q : List Param} {r : Rendition} {color : Color}

/-! ## Groups -/

/-- A list of parameters that ends where a group ends. A parameter is a group by itself if it is
none of a colour or has the colour with it. One of a colour without sub-parameters is a group
together with the parameters that give the colour. -/
inductive Complete : List Param → Prop
  | nil : Complete []
  | single {first : Param} {rest : List Param} (whole : isIntroducer first.value = true →
    first.subs ≠ []) :
      Complete rest → Complete (first :: rest)
  | indexed {first kind index : Param} {rest : List Param}
    (introducer : isIntroducer first.value = true)
      (alone : first.subs = []) (hkind : kind.value = 5) :
      Complete rest → Complete (first :: kind :: index :: rest)
  | channels {first kind red green blue : Param} {rest : List Param}
    (introducer : isIntroducer first.value = true)
      (alone : first.subs = []) (hkind : kind.value = 2) :
      Complete rest → Complete (first :: kind :: red :: green :: blue :: rest)

/-- A colour that is given in sub-parameters does not depend on what follows. -/
theorem extendedColor?_of_subs {first : Param} (h : first.subs ≠ []) (rest : List Param) :
    extendedColor? first rest = (colorOfSubs? first.subs).map (·, 0) := by
  rw [extendedColor?, if_neg (by simpa using h)]

theorem extendedColor?_indexed {first kind : Param} (alone : first.subs = [])
    (hkind : kind.value = 5) (index : Param) (rest : List Param) :
    extendedColor? first (kind :: index :: rest) = some (.indexed (clampByte index.value), 2) := by
  rw [extendedColor?, alone, if_pos List.isEmpty_nil, List.map_cons, hkind]
  rfl

theorem extendedColor?_channels {first kind : Param} (alone : first.subs = [])
    (hkind : kind.value = 2) (red green blue : Param) (rest : List Param) :
    extendedColor? first (kind :: red :: green :: blue :: rest) =
      some (.rgb (clampByte red.value) (clampByte green.value) (clampByte blue.value), 4) := by
  rw [extendedColor?, alone, if_pos List.isEmpty_nil, List.map_cons, hkind]
  rfl

/-- A parameter with the colour that it introduces. -/
theorem selectFrom_color {first : Param} {rest : List Param} {taken : Nat}
    (h : isIntroducer first.value = true) (hcolor : extendedColor? first rest = some (color, taken))
    (r : Rendition) (reports : List Report) :
    r.selectFrom reports (first :: rest) =
      (r.setColor first.value color).selectFrom reports (rest.drop taken) := by
  rw [selectFrom, if_pos h, hcolor]

/-- After complete groups the rest is read from the rendition and the reports that they gave. -/
theorem selectFrom_append (h : Complete p) (q : List Param) (r : Rendition)
    (reports : List Report) : r.selectFrom reports (p ++ q) =
      (r.selectFrom reports p).value.selectFrom (r.selectFrom reports p).reports q := by
  induction h generalizing r reports with
  | nil => rw [selectFrom.eq_1 r reports, List.nil_append]
  | @single first rest whole _ ih =>
    rw [List.cons_append]
    cases hfirst : isIntroducer first.value with
    | false =>
      rw [selectFrom, selectFrom, hfirst, if_neg Bool.false_ne_true, if_neg Bool.false_ne_true]
      exact ih _ _
    | true =>
      have given := extendedColor?_of_subs (whole hfirst)
      rw [selectFrom, selectFrom, if_pos hfirst, if_pos hfirst, given, given]
      cases colorOfSubs? first.subs with
      | none => exact ih _ _
      | some color => exact ih _ _
  | @indexed first kind index rest introducer alone hkind _ ih =>
    have given := extendedColor?_indexed alone hkind index
    rw [selectFrom_color introducer (given rest)]
    exact (selectFrom_color introducer (given (rest ++ q)) r reports).trans (ih _ _)
  | @channels first kind red green blue rest introducer alone hkind _ ih =>
    have given := extendedColor?_channels alone hkind red green blue
    rw [selectFrom_color introducer (given rest)]
    exact (selectFrom_color introducer (given (rest ++ q)) r reports).trans (ih _ _)

/-- The reports made so far come first, and do not matter otherwise. -/
theorem selectFrom_reports (before : List Report) (r : Rendition) (reports : List Report)
    (items : List Param) : r.selectFrom (before ++ reports) items =
      ⟨(r.selectFrom reports items).value, before ++ (r.selectFrom reports items).reports⟩ := by
  fun_induction Rendition.selectFrom r reports items with
  | case1 => rw [selectFrom]
  | case2 r reports first rest hfirst color taken hcolor ih =>
    rw [selectFrom_color hfirst hcolor]
    exact ih
  | case3 r reports first rest hfirst hcolor ih =>
    rw [selectFrom, if_pos hfirst, hcolor]
    dsimp only
    rw [List.append_assoc]
    exact ih
  | case4 r reports first rest hfirst next ih =>
    rw [selectFrom, if_neg hfirst]
    dsimp only
    rw [List.append_assoc]
    exact ih

/-- A sequence can be cut after complete groups. -/
theorem select_append (h : Complete p) (hp : p ≠ []) (hq : q ≠ []) (r : Rendition) :
    r.select { items := p ++ q } =
      ⟨((r.select { items := p }).value.select { items := q }).value,
        (r.select { items := p }).reports ++
        ((r.select { items := p }).value.select { items := q }).reports⟩ := by
  have some {l : List Param} (hl : l ≠ []) : ¬l.isEmpty = true := by simpa using hl
  simp only [select, if_neg (some hp), if_neg (some hq),
    if_neg (some (List.append_ne_nil_of_left_ne_nil hp q))]
  rw [selectFrom_append h, ← selectFrom_reports, List.append_nil]

end Rendition

theorem Terminal.selectRendition_append {p q : List Param} (h : Rendition.Complete p) (hp : p ≠ [])
    (hq : q ≠ []) (t : Terminal) : t.selectRendition { items := p ++ q } =
      (t.selectRendition { items := p }).selectRendition { items := q } := by
  have reports (made : Array Report) (first rest : List Report) :
      made ++ (first ++ rest) = made ++ first ++ rest := by
    simp [← Array.toList_inj]
  unfold selectRendition noteAll
  rw [Rendition.select_append h hp hq]
  dsimp only
  rw [reports]

/-! ## Colours as they are written -/

namespace Rendition

/-- The ways to write a colour value after the number of what has the colour: as parameters, as
sub-parameters, and with an empty sub-parameter for the colour space. -/
def channelForms (introducer red green blue : Nat) : List String :=
  [s!"{introducer};2;{red};{green};{blue}", s!"{introducer}:2:{red}:{green}:{blue}",
    s!"{introducer}:2::{red}:{green}:{blue}"]

/-- The ways to write an entry of the palette. -/
def indexForms (introducer index : Nat) : List String :=
  [s!"{introducer};5;{index}", s!"{introducer}:5:{index}"]

theorem le_of_isIntroducer {introducer : Nat} (h : isIntroducer introducer = true) :
    introducer ≤ Params.maxValue := by
  have one : introducer = 38 ∨ introducer = 48 ∨ introducer = 58 := by
    simpa [isIntroducer, or_assoc] using h
  unfold Params.maxValue
  omega

/-- A number that is cut off as a parameter is cut off as a channel alike. -/
theorem clampByte_min (n : Nat) : clampByte (min n Params.maxValue) = clampByte n := by
  have cut : min (min n Params.maxValue) 255 = min n 255 := by
    unfold Params.maxValue
    omega
  rw [clampByte, cut, clampByte]

/-- A parameter that introduces a colour, with all that gives it. -/
theorem select_color {first : Param} {rest : List Param} (h : isIntroducer first.value = true)
    (hcolor : extendedColor? first rest = some (color, rest.length)) (r : Rendition) :
    (r.select { items := first :: rest }).value = r.setColor first.value color := by
  have some : ¬(first :: rest).isEmpty = true := Bool.false_ne_true
  rw [select, if_neg some, selectFrom_color h hcolor, List.drop_length, selectFrom]

end Rendition

namespace Terminal

open Control.Params (numeral written tooGreat maxCount maxValue)
open Rendition (isIntroducer extendedColor? clampByte clampByte_min channelForms indexForms)

/-- The end of a string leaves the rendition as it is. -/
theorem rendition_broken (t : Terminal) (now : Instant) (bytes : List UInt8) :
    (t.broken now bytes).rendition = t.rendition := by
  refine (congrArg Shell.rendition (t.shell_broken now bytes)).trans ?_
  unfold atSequence promptCommand modifyGrid
  split
  · split
    · cases t.screen <;> rfl
    · rfl
  · rfl

/-- The bytes end what was being read, as an ESC does, and select the rendition. Nothing else is
done but reporting, and nothing is left open. -/
def Selects (t : Terminal) (now : Instant) (bytes : List UInt8) (r : Rendition) : Prop :=
  ∃ (decoder : Control.Decoder) (reports : Array Report),
    t.feed bytes now =
    { t.feed [0x1b] now with composeAt := none, rendition := r, decoder, reports } ∧
      decoder.state = .ground ∧ decoder.sixel = t.decoder.sixel

/-- What a rendition sequence asks for. -/
theorem run_rendition (t : Terminal) (now : Instant) {s : Control.ControlSequence} {params : Params}
    (h : s = ⟨params, [], none, 0x6d⟩) : ∃ reports, t.run now (.ofSequence s) =
      { t with
        rendition := if params.overflowed then t.rendition else (t.rendition.select params).value
        reports } := by
  subst h
  rw [Command.ofSequence]
  cases params.overflowed with
  | true => exact ⟨_, rfl⟩
  | false => exact ⟨_, rfl⟩

/-- A rendition sequence selects what its parameters say, unless one of its numbers is too great. -/
theorem selects_rendition {n : Nat} (subs : List (Option Nat)) {rest : List (List (Option Nat))}
    (h : ∀ numbers ∈ rest, numbers ≠ []) (t : Terminal) (now : Instant) :
    let fields := (some n :: subs) :: rest
    Selects t now ([0x1b, 0x5b] ++ (written fields ++ [0x6d]))
      (if tooGreat fields then t.rendition
      else (t.rendition.select { items := (fields.take maxCount).map Param.ofFields }).value) := by
  intro fields
  let w : Control.Spelling :=
    ⟨none, written fields, [], 0x6d, nofun, Control.Params.written_isParam fields, nofun,
      Nat.zero_le _, rfl⟩
  have bytes : [0x1b, 0x5b] ++ (written fields ++ [0x6d]) = [0x1b, 0x5b] ++ w.bytes := by
    simp [w, Control.Spelling.bytes]
  let params : Params :=
    { items := (fields.take maxCount).map Param.ofFields, overflowed := tooGreat fields }
  have sequence : w.sequence = ⟨params, [], none, 0x6d⟩ :=
    congrArg (fun params => (⟨params, [], none, 0x6d⟩ : Control.ControlSequence))
      (Control.Params.ofPart_written subs h)
  rw [bytes]
  obtain ⟨fed, ground, sixel⟩ := t.feed_spelling w now
  obtain ⟨reports, run⟩ := run_rendition (t.broken now ([0x1b, 0x5b] ++ w.bytes)) now sequence
  obtain ⟨decoder, _, drawn⟩ := t.drawn_broken now (0x5b :: w.bytes)
  have asked : (if params.overflowed then t.rendition else (t.rendition.select params).value) =
      if tooGreat fields then t.rendition
      else (t.rendition.select { items := (fields.take maxCount).map Param.ofFields }).value := rfl
  rw [run, t.rendition_broken, asked] at fed
  generalize (if tooGreat fields then t.rendition
    else (t.rendition.select { items := (fields.take maxCount).map Param.ofFields }).value) =
      r at fed ⊢
  have whole : t.feed ([0x1b, 0x5b] ++ w.bytes) now =
      { t.feed [0x1b] now with composeAt := none, rendition := r, decoder, reports } :=
    fed.trans (congrArg (fun u : Terminal => { u with rendition := r, reports }) drawn)
  rw [whole] at ground sixel
  exact ⟨decoder, reports, whole, ground, sixel⟩

/-- A colour in one of its forms is selected. -/
theorem selects_color {text : String} {introducer : Nat} (subs : List (Option Nat))
    (rest : List (List (Option Nat))) {color : Color} {Fits : Prop} [Decidable Fits]
    (hintroducer : isIntroducer introducer = true)
    (htext : encode text = written ((some introducer :: subs) :: rest))
    (hrest : ∀ numbers ∈ rest, numbers ≠ []) (hroom : rest.length < maxCount)
    (hfits : tooGreat ((some introducer :: subs) :: rest) = true ↔ ¬Fits)
    (hcolor : extendedColor? (Param.ofFields (some introducer :: subs)) (rest.map Param.ofFields) =
      some (color, rest.length)) (t : Terminal) (now : Instant) :
    Selects t now (encode ("\x1b[" ++ text ++ "m"))
      (if Fits then t.rendition.setColor introducer color else t.rendition) := by
  have bytes : encode ("\x1b[" ++ text ++ "m") =
      [0x1b, 0x5b] ++ (written ((some introducer :: subs) :: rest) ++ [0x6d]) := by
    have before : encode "\x1b[" = [0x1b, 0x5b] := by decide
    have after : encode "m" = [0x6d] := by decide
    rw [encode_append, encode_append, before, after, htext, List.append_assoc]
  have value : (Param.ofFields (some introducer :: subs)).value = introducer :=
    Nat.min_eq_left (Rendition.le_of_isIntroducer hintroducer)
  have room : ((some introducer :: subs) :: rest).length ≤ maxCount := hroom
  rw [← List.length_map Param.ofFields] at hcolor
  have selected := t.selects_rendition (n := introducer) subs hrest now
  dsimp only at selected
  rw [List.take_of_length_le room, List.map_cons,
    Rendition.select_color (value.symm ▸ hintroducer) hcolor, value] at selected
  rw [bytes]
  simpa only [hfits, ite_not] using selected

/-- All forms of a colour value select it, and a channel above 255 is taken for 255. -/
theorem selects_channels {introducer : Nat} (h : isIntroducer introducer = true)
    (red green blue : Nat) (t : Terminal) (now : Instant) :
    ∀ text ∈ channelForms introducer red green blue,
      Selects t now (encode ("\x1b[" ++ text ++ "m"))
        (if red ≤ maxValue ∧ green ≤ maxValue ∧ blue ≤ maxValue then
          t.rendition.setColor introducer (.rgb (clampByte red) (clampByte green) (clampByte blue))
        else t.rendition) := by
  have low := Rendition.le_of_isIntroducer h
  have separator : encode ";" = [0x3b] ∧ encode ":" = [0x3a] := by decide
  have kind : encode ";2;" = [0x3b] ++ encode (toString 2) ++ [0x3b] ∧
      encode ":2:" = [0x3a] ++ encode (toString 2) ++ [0x3a] ∧
      encode ":2::" = [0x3a] ++ encode (toString 2) ++ [0x3a] ++ [0x3a] := by decide
  have params : s!"{introducer};2;{red};{green};{blue}" =
      toString introducer ++ ";2;" ++ toString red ++ ";" ++
    toString green ++ ";" ++ toString blue := rfl
  have subs : s!"{introducer}:2:{red}:{green}:{blue}" =
      toString introducer ++ ":2:" ++ toString red ++ ":" ++
    toString green ++ ":" ++ toString blue := rfl
  have space : s!"{introducer}:2::{red}:{green}:{blue}" =
      toString introducer ++ ":2::" ++ toString red ++ ":" ++
    toString green ++ ":" ++ toString blue := rfl
  have color : Color.rgb (clampByte (min red maxValue)) (clampByte (min green maxValue))
      (clampByte (min blue maxValue)) =
      .rgb (clampByte red) (clampByte green) (clampByte blue) := by
    simp only [clampByte_min]
  have two : ¬maxValue < 2 := by decide
  have fits : ¬maxValue < introducer ∧ ¬maxValue < 2 ∧
      ((maxValue < red ∨ maxValue < green ∨ maxValue < blue) ↔
        ¬(red ≤ maxValue ∧ green ≤ maxValue ∧ blue ≤ maxValue)) := by
    refine ⟨Nat.not_lt.2 low, by decide, ?_⟩
    omega
  simp only [channelForms, List.forall_mem_cons]
  refine ⟨?_, ?_, ?_, List.forall_mem_nil _⟩
  · refine selects_color [] [[some 2], [some red], [some green], [some blue]] h ?_ (by simp)
      (by simp [maxCount]) ?_ (congrArg (fun color => some (color, 4)) color) t now
    · simp only [params, encode_append, kind, separator, written, numeral, List.map,
        List.intercalate_cons_cons, List.intercalate_singleton, List.append_assoc]
    · simpa [tooGreat, fits.1, fits.2.1] using fits.2.2
  · refine selects_color [some 2, some red, some green, some blue] [] h ?_ (by simp)
      (by simp [maxCount]) ?_ (congrArg (fun color => some (color, 0)) color) t now
    · simp only [subs, encode_append, kind, separator, written, numeral, List.map,
        List.intercalate_cons_cons, List.intercalate_singleton, List.append_assoc]
    · simpa [tooGreat, fits.1, fits.2.1] using fits.2.2
  · refine selects_color [some 2, none, some red, some green, some blue] [] h ?_ (by simp)
      (by simp [maxCount]) ?_ (congrArg (fun color => some (color, 0)) color) t now
    · simp only [space, encode_append, kind, separator, written, numeral, List.map,
        List.intercalate_cons_cons, List.intercalate_singleton, List.append_assoc, List.nil_append]
    · simpa [tooGreat, fits.1, fits.2.1] using fits.2.2

/-- Both forms of an entry of the palette select it, and an index above 255 is taken for 255. -/
theorem selects_index {introducer : Nat} (h : isIntroducer introducer = true) (index : Nat)
    (t : Terminal) (now : Instant) : ∀ text ∈ indexForms introducer index,
      Selects t now (encode ("\x1b[" ++ text ++ "m"))
        (if index ≤ maxValue then t.rendition.setColor introducer (.indexed (clampByte index))
          else t.rendition) := by
  have low := Rendition.le_of_isIntroducer h
  have kind : encode ";5;" = [0x3b] ++ encode (toString 5) ++ [0x3b] ∧
      encode ":5:" = [0x3a] ++ encode (toString 5) ++ [0x3a] := by decide
  have params : s!"{introducer};5;{index}" = toString introducer ++ ";5;" ++ toString index := rfl
  have subs : s!"{introducer}:5:{index}" = toString introducer ++ ":5:" ++ toString index := rfl
  have color : Color.indexed (clampByte (min index maxValue)) = .indexed (clampByte index) := by
    rw [clampByte_min]
  have fits : ¬maxValue < introducer ∧ ¬maxValue < 5 := ⟨Nat.not_lt.2 low, by decide⟩
  simp only [indexForms, List.forall_mem_cons]
  refine ⟨?_, ?_, List.forall_mem_nil _⟩
  · refine selects_color [] [[some 5], [some index]] h ?_ (by simp) (by simp [maxCount]) ?_
      (congrArg (fun color => some (color, 2)) color) t now
    · simp only [params, encode_append, kind, written, numeral, List.map,
        List.intercalate_cons_cons, List.intercalate_singleton, List.append_assoc]
    · simp [tooGreat, fits]
  · refine selects_color [some 5, some index] [] h ?_ (by simp) (by simp [maxCount]) ?_
      (congrArg (fun color => some (color, 0)) color) t now
    · simp only [subs, encode_append, kind, written, numeral, List.map, List.intercalate_cons_cons,
        List.intercalate_singleton, List.append_assoc]
    · simp [tooGreat, fits]

/-- A rendition sequence can be cut where a group of its parameters ends. All ways to write a colour
select the same one and do nothing else, with 255 in place of greater numbers. With a number that no
parameter can have none of them selects anything. -/
theorem rendition_groups (t : Terminal) :
    (∀ p q, Rendition.Complete p → p ≠ [] → q ≠ [] →
      t.selectRendition { items := p ++ q } =
        (t.selectRendition { items := p }).selectRendition { items := q }) ∧
    ∀ introducer, isIntroducer introducer = true → ∀ now,
      (∀ red green blue, ∀ text ∈ channelForms introducer red green blue,
        Selects t now (encode ("\x1b[" ++ text ++ "m"))
          (if red ≤ maxValue ∧ green ≤ maxValue ∧ blue ≤ maxValue then
            t.rendition.setColor introducer
              (.rgb (clampByte red) (clampByte green) (clampByte blue))
          else t.rendition)) ∧
      ∀ index, ∀ text ∈ indexForms introducer index,
        Selects t now (encode ("\x1b[" ++ text ++ "m"))
          (if index ≤ maxValue then t.rendition.setColor introducer (.indexed (clampByte index))
            else t.rendition) :=
  ⟨fun _ _ h hp hq => t.selectRendition_append h hp hq, fun _ h now =>
    ⟨fun red green blue => selects_channels h red green blue t now,
      fun index => selects_index h index t now⟩⟩

/-- An entry of the palette in parameters of its own, and then bold. A channel of 300 is one of
255. -/
theorem rendition_groups_palette :
    let t : Terminal := Terminal.drive { size := ⟨5, 1⟩ } []
    let p : List Param := [{ value := 38 }, { value := 5 }, { value := 200 }]
    let q : List Param := [{ value := 1 }]
    t.selectRendition { items := p ++ q } =
      (t.selectRendition { items := p }).selectRendition { items := q } ∧
      (t.selectRendition { items := p ++ q }).rendition =
      { foreground := .indexed 200, bold := true } ∧
      Selects t 0 (encode ("\x1b[" ++ "48:2::1:300:3" ++ "m")) { background := .rgb 1 255 3 } := by
  intro t p q
  have groups : Rendition.Complete p := .indexed rfl rfl rfl .nil
  obtain ⟨cut, colors⟩ := t.rendition_groups
  refine ⟨cut p q groups (List.cons_ne_nil _ _) (List.cons_ne_nil _ _), by decide +kernel, ?_⟩
  have color : t.rendition.setColor 48 (.rgb (clampByte 1) (clampByte 300) (clampByte 3)) =
      { background := .rgb 1 255 3 } := by decide +kernel
  exact color ▸ (colors 48 rfl 0).1 1 300 3 "48:2::1:300:3" (by decide)

end Terminal

end Teletype
