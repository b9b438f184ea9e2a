import Teletype.Control.Params
import Teletype.Rendition
import Teletype.Report

/-!
# Selecting a rendition

The parameters of a graphic rendition sequence, read from the left. Most parameters change one
thing; those for colours beyond the base sixteen take what follows them into account, either their
own sub-parameters or the parameters after them.
-/

namespace Teletype.Rendition

open Teletype.Control (Param Params)

/-- A channel or an index, cut off at 255. -/
def clampByte (n : Nat) : UInt8 := UInt8.ofNat (min n 255)

/-- A colour given in sub-parameters. The colour space of a colour value may be left out. -/
def colorOfSubs? : List Nat → Option Color
  | 5 :: index :: _ => some (.indexed (clampByte index))
  | 2 :: _ :: r :: g :: b :: _ => some (.rgb (clampByte r) (clampByte g) (clampByte b))
  | [2, r, g, b] => some (.rgb (clampByte r) (clampByte g) (clampByte b))
  | _ => none

/-- A colour given in the parameters that follow, and how many of them it takes. -/
def colorOfParams? : List Nat → Option (Color × Nat)
  | 5 :: index :: _ => some (.indexed (clampByte index), 2)
  | 2 :: r :: g :: b :: _ => some (.rgb (clampByte r) (clampByte g) (clampByte b), 4)
  | _ => none

/-- The colour that a parameter introduces, and how many of the following parameters it takes. -/
def extendedColor? (p : Param) (rest : List Param) : Option (Color × Nat) :=
  if p.subs.isEmpty then colorOfParams? (rest.map Param.value)
  else (colorOfSubs? p.subs).map (·, 0)

/-- The report on a parameter that changes nothing. -/
def ignored (message name : String) (value : Nat) : Report :=
  ⟨.debug, message, [(name, toString value)]⟩

/-- The style of underline that a parameter selects. -/
def selectUnderline (r : Rendition) (subs : List Nat) : Reported Rendition :=
  match subs with
  | [] => ⟨{ r with underline := .single }, []⟩
  | n :: _ =>
    match Underline.ofNumber? n with
    | some style => ⟨{ r with underline := style }, []⟩
    | none => ⟨r, [ignored "SGR: unknown underline style" "style" n]⟩

/-- A base colour, bright from 8 on. -/
def named (n : Nat) : Color := .named (UInt8.ofNat n)

/-- What a parameter that stands for itself changes. -/
def selectOne (r : Rendition) (p : Param) : Reported Rendition :=
  let n := p.value
  match n with
  | 0 => ⟨{}, []⟩
  | 1 => ⟨{ r with bold := true }, []⟩
  | 2 => ⟨{ r with dim := true }, []⟩
  | 3 => ⟨{ r with italic := true }, []⟩
  | 4 => r.selectUnderline p.subs
  | 5 => ⟨{ r with blink := true }, []⟩
  | 6 => ⟨r, [⟨.debug, "SGR: ignored: rapid blink", []⟩]⟩
  | 7 => ⟨{ r with inverse := true }, []⟩
  | 8 => ⟨{ r with hidden := true }, []⟩
  | 9 => ⟨{ r with strikethrough := true }, []⟩
  | 21 | 26 => ⟨r, [ignored "SGR: ignored" "param" n]⟩
  | 22 => ⟨{ r with bold := false, dim := false }, []⟩
  | 23 => ⟨{ r with italic := false }, []⟩
  | 24 => ⟨{ r with underline := .none }, []⟩
  | 25 => ⟨{ r with blink := false }, []⟩
  | 27 => ⟨{ r with inverse := false }, []⟩
  | 28 => ⟨{ r with hidden := false }, []⟩
  | 29 => ⟨{ r with strikethrough := false }, []⟩
  | 39 => ⟨{ r with foreground := .default }, []⟩
  | 49 => ⟨{ r with background := .default }, []⟩
  | 59 => ⟨{ r with underlineColor := none }, []⟩
  | n =>
    if 30 ≤ n && n ≤ 37 then ⟨{ r with foreground := named (n - 30) }, []⟩
    else if 40 ≤ n && n ≤ 47 then ⟨{ r with background := named (n - 40) }, []⟩
    else if 90 ≤ n && n ≤ 97 then ⟨{ r with foreground := named (n - 82) }, []⟩
    else if 100 ≤ n && n ≤ 107 then ⟨{ r with background := named (n - 92) }, []⟩
    else ⟨r, [ignored "SGR: unhandled parameter" "param" n]⟩

/-- Gives a colour to what the introducing parameter names. -/
def setColor (r : Rendition) (introducer : Nat) (color : Color) : Rendition :=
  match introducer with
  | 38 => { r with foreground := color }
  | 48 => { r with background := color }
  | _ => { r with underlineColor := some color }

/-- Whether the parameter introduces a colour. -/
def isIntroducer (n : Nat) : Bool := n = 38 || n = 48 || n = 58

/-- Reads parameters from the left and adds to the reports made so far. -/
def selectFrom (r : Rendition) (reports : List Report) : List Param → Reported Rendition
  | [] => ⟨r, reports⟩
  | p :: rest =>
    if isIntroducer p.value then
      match extendedColor? p rest with
      | some (color, taken) => selectFrom (r.setColor p.value color) reports (rest.drop taken)
      | none =>
        selectFrom r (reports ++ [ignored "SGR: unhandled color form" "param" p.value]) rest
    else
      let next := r.selectOne p
      selectFrom next.value (reports ++ next.reports) rest
termination_by l => l.length
decreasing_by all_goals (simp only [List.length_cons, List.length_drop]; omega)

/-- The rendition after a graphic rendition sequence. One without parameters asks for the
default. -/
def select (r : Rendition) (params : Params) : Reported Rendition :=
  if params.items.isEmpty then ⟨{}, []⟩ else r.selectFrom [] params.items

end Teletype.Rendition
