import Teletype.Color.Basic

/-!
# Renditions

How characters look: weight and style, underline, and colours. A rendition can be written as the
parameters that select it.
-/

namespace Teletype

/-- The styles of underline. -/
inductive Underline where
  | none | single | double | curly | dotted | dashed
  deriving DecidableEq

namespace Underline

/-- The style that a sub-parameter selects. -/
def ofNumber? : Nat → Option Underline
  | 0 => some .none
  | 1 => some .single
  | 2 => some .double
  | 3 => some .curly
  | 4 => some .dotted
  | 5 => some .dashed
  | _ => Option.none

/-- The sub-parameter that selects the style. -/
def number : Underline → Nat
  | .none => 0
  | .single => 1
  | .double => 2
  | .curly => 3
  | .dotted => 4
  | .dashed => 5

end Underline

/-- How characters look. -/
structure Rendition where
  bold : Bool := false
  dim : Bool := false
  italic : Bool := false
  blink : Bool := false
  inverse : Bool := false
  hidden : Bool := false
  strikethrough : Bool := false
  underline : Underline := .none
  foreground : Color := .default
  background : Color := .default
  /-- The colour of the underline, if it is not that of the characters. -/
  underlineColor : Option Color := none
  deriving DecidableEq

namespace Rendition

/-- The default rendition on the given background. -/
def blank (background : Color) : Rendition := { background := background }

/-- Whether nothing but colours and the underline sets the rendition apart from the default. -/
def isPlain (r : Rendition) : Bool :=
  !(r.bold || r.dim || r.italic || r.blink || r.inverse || r.hidden || r.strikethrough)

/-- The parameter that selects a colour, given those of the plain and bright base colours and the
one that introduces any other colour. -/
def colorParam (color : Color) (base bright extended : Nat) : List String :=
  match color with
  | .default => []
  | .named n => [toString (if 8 ≤ n.toNat then bright + n.toNat - 8 else base + n.toNat)]
  | .indexed n => [s!"{extended}:5:{n}"]
  | .rgb r g b => [s!"{extended}:2::{r}:{g}:{b}"]

/-- The parameter that selects a style of underline. -/
def underlineParam : Underline → List String
  | .none => []
  | .single => ["4"]
  | style => [s!"4:{style.number}"]

/-- The parameter that selects the colour of the underline. -/
def underlineColorParam : Option Color → List String
  | some (.named n) | some (.indexed n) => [s!"58:5:{n}"]
  | some (.rgb r g b) => [s!"58:2::{r}:{g}:{b}"]
  | some .default | none => []

/-- The parameters that select the rendition from any other, with the letter that ends them. -/
def selector (r : Rendition) : String :=
  let option (on : Bool) (param : String) := if on then [param] else []
  let params := ["0"] ++ option r.bold "1" ++ option r.dim "2" ++ option r.italic "3"
    ++ underlineParam r.underline ++ option r.blink "5" ++ option r.inverse "7"
    ++ option r.hidden "8" ++ option r.strikethrough "9"
    ++ colorParam r.foreground 30 90 38 ++ colorParam r.background 40 100 48
    ++ underlineColorParam r.underlineColor
  ";".intercalate params ++ "m"

end Rendition

end Teletype
