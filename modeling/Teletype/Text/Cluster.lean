import Teletype.Text.Property.Extend
import Teletype.Text.Property.Cluster

/-!
# Grapheme cluster boundaries

Where a text may be cut so that no user-perceived character is split. The rules look at the class
of the two characters around the cut and at a little of what came before it: the parity of a run
of regional indicators, whether an emoji sequence ends in a joiner, and whether a consonant is
followed by a conjunct linker. That context is the state of a machine that reads the text from its
start.
-/

namespace Teletype.Text.Cluster

/-- What a character is to the boundary rules. -/
inductive Kind where
  | other | cr | lf | control | extend | joiner | regionalIndicator | prepend | spacingMark
  | hangulL | hangulV | hangulT | hangulLV | hangulLVT
  deriving DecidableEq

/-- Whether `n` lies in the interval with ends `a` and `b`. -/
def within (n a b : Nat) : Bool := a ≤ n && n ≤ b

/-- The class of a character that is neither a control nor plain ASCII. -/
def Kind.ofNonAscii (c : Char) : Kind :=
  let n := c.toNat
  if n = 0x200d then .joiner
  else if within n 0x1f1e6 0x1f1ff then .regionalIndicator
  else if within n 0x1100 0x115f || within n 0xa960 0xa97c then .hangulL
  else if within n 0x1160 0x11a7 || within n 0xd7b0 0xd7c6 || n = 0x16d63
      || within n 0x16d67 0x16d6a then .hangulV
  else if within n 0x11a8 0x11ff || within n 0xd7cb 0xd7fb then .hangulT
  else if within n 0xac00 0xd7a3 then
    if (n - 0xac00) % 28 = 0 then .hangulLV else .hangulLVT
  else if Property.graphemeExtend.contains c || within n 0x1f3fb 0x1f3ff then .extend
  else if Property.control.contains c then .control
  else if Property.prepend.contains c then .prepend
  else if Property.spacingMark.contains c then .spacingMark
  else .other

/-- The class of a character. -/
def Kind.of (c : Char) : Kind :=
  if c = '\r' then .cr
  else if c = '\n' then .lf
  else if c.toNat < 0x20 then .control
  else if c.toNat < 0x7f then .other
  else Kind.ofNonAscii c

/-- How far an emoji sequence has come: a pictograph with its marks, and then a joiner. -/
inductive Emoji where
  | none | pictograph | joined
  deriving DecidableEq

/-- How far a conjunct has come: a consonant, and then a linker among its marks. -/
inductive Conjunct where
  | none | consonant | linked
  deriving DecidableEq

/-- What the boundary before the next character depends on. -/
structure Context where
  /-- The class of the last character, if there was one. -/
  last : Option Kind := none
  /-- Whether the text ends in an odd number of regional indicators. -/
  oddIndicators : Bool := false
  emoji : Emoji := .none
  conjunct : Conjunct := .none

/-- The context after `c` was read. -/
def Context.push (x : Context) (c : Char) : Context :=
  let kind := Kind.of c
  { last := some kind
    oddIndicators := kind = .regionalIndicator && !x.oddIndicators
    emoji :=
      if Property.pictographic.contains c then .pictograph
      else if x.emoji = .pictograph && kind = .extend then .pictograph
      else if x.emoji = .pictograph && kind = .joiner then .joined
      else .none
    conjunct :=
      if Property.conjunctConsonant.contains c then .consonant
      else if x.conjunct = .none then .none
      else if Property.conjunctLinker.contains c then .linked
      else if kind = .joiner || (kind = .extend && c.toNat ≠ 0x200c) then x.conjunct
      else .none }

/-- Whether the text may be cut between what the context describes and `c`. -/
def Context.boundary (x : Context) (c : Char) : Bool :=
  match x.last with
  | none => true
  | some last =>
    match last, Kind.of c with
    | .cr, .lf => false
    | .cr, _ | .lf, _ | .control, _ => true
    | _, .cr | _, .lf | _, .control => true
    | .hangulL, .hangulL | .hangulL, .hangulV | .hangulL, .hangulLV | .hangulL, .hangulLVT => false
    | .hangulLV, .hangulV | .hangulV, .hangulV | .hangulLV, .hangulT | .hangulV, .hangulT => false
    | .hangulLVT, .hangulT | .hangulT, .hangulT => false
    | _, .extend | _, .joiner | _, .spacingMark => false
    | .prepend, _ => false
    | .regionalIndicator, .regionalIndicator => !x.oddIndicators
    | _, _ =>
      if x.conjunct = .linked && Property.conjunctConsonant.contains c then false
      else if x.emoji = .joined && Property.pictographic.contains c then false
      else true

/-- The context at the end of a text. -/
def Context.ofText (text : List Char) : Context := text.foldl Context.push {}

/-- Whether a text is one cluster that cannot be cut anywhere inside. -/
def isSingle : List Char → Bool
  | [] => true
  | c :: rest => go (Context.push {} c) rest
where
  /-- Whether no cut is possible before any of the characters that follow the context. -/
  go (x : Context) : List Char → Bool
    | [] => true
    | c :: rest => !x.boundary c && go (x.push c) rest

end Teletype.Text.Cluster
