/-!
# Colours

The colour of a cell is named by where it comes from: the terminal's default, one of the sixteen
base colours, the palette of 256, or a value of its own. A value is one number, red above green
above blue with eight bits each.
-/

namespace Teletype

/-- A colour as an application chooses it. -/
inductive Color where
  | default
  /-- One of the sixteen base colours: eight plain ones, then eight bright ones. -/
  | named (index : UInt8)
  /-- An entry of the palette. -/
  | indexed (index : UInt8)
  | rgb (red green blue : UInt8)
  deriving DecidableEq

namespace Color

/-- The number of a colour value: red above green above blue. -/
def pack (red green blue : Nat) : Nat := red * 0x10000 + green * 0x100 + blue

/-- The palette entry that the colour comes from. -/
def paletteIndex? : Color → Option UInt8
  | .named i | .indexed i => some i
  | .default | .rgb .. => none

end Color

/-- The 256 colour values that indices choose from. -/
abbrev Palette := Vector Nat 256

namespace Palette

/-- The sixteen base colours. -/
def base : List Nat :=
  [0x000000, 0xcd0000, 0x00cd00, 0xcdcd00, 0x0000ee, 0xcd00cd, 0x00cdcd, 0xe5e5e5,
    0x7f7f7f, 0xff0000, 0x00ff00, 0xffff00, 0x5c5cff, 0xff00ff, 0x00ffff, 0xffffff]

/-- The six strengths of a channel in the colour cube. -/
def level (n : Nat) : Nat := if n = 0 then 0 else 0x37 + 0x28 * n

/-- The value of a palette entry: the base colours, a cube of six by six by six, and a ramp of
twenty-four greys. -/
def standardEntry (i : Nat) : Nat :=
  if i < 16 then base.getD i 0
  else if i < 232 then
    Color.pack (level ((i - 16) / 36)) (level ((i - 16) / 6 % 6)) (level ((i - 16) % 6))
  else
    let grey := 8 + (i - 232) * 10
    Color.pack grey grey grey

/-- The palette that a terminal starts with. -/
def standard : Palette := Vector.ofFn fun i => standardEntry i.val

/-- The entries that differ from those of another palette, each after its index. -/
def changes (p other : Palette) : List (Nat × Nat) :=
  (List.range 256).filterMap fun i =>
    if p[i]? = other[i]? then none else p[i]?.map fun value => (i, value)

end Palette

end Teletype
