import Std.Data.HashMap
import Teletype.Cell
import Teletype.Report
import Teletype.Text.Cluster
import Teletype.Text.Width

/-!
# Clusters of characters

A cell shows one character until a mark or another extending character arrives for it. Then the
characters become an entry of the cluster table, and the cell's key is the entry's number. An entry
never changes, and the same characters always have the same number: it is chained from the numbers
of the shorter clusters, and a number that is taken passes to the next free one.
-/

namespace Teletype

/-- How the width of a cluster follows from its characters. -/
inductive WidthMethod where
  /-- The widest character decides. -/
  | max
  /-- The widths add up to at most two, and an emoji presentation selector asks for two. -/
  | double
  /-- The widths add up to at most two. -/
  | wcswidth
  deriving DecidableEq

/-- Characters that are shown in one place, the base first, and the width they take. -/
structure Spelling where
  chars : List Char
  width : Nat
  deriving DecidableEq

/-- A key of a cell with the width of what it shows. -/
structure Glyph where
  key : Nat
  width : Nat
  deriving DecidableEq

/-- A cluster: what it shows, and its number. -/
structure Cluster extends Spelling where
  number : Nat
  deriving DecidableEq

namespace Cluster

/-- The cell that shows the cluster refers to it by its number. -/
def glyph (cluster : Cluster) : Glyph := ⟨clusterBase + cluster.number, cluster.width⟩

/-- Every cluster is stored under its own number. -/
def Keyed (entries : Std.HashMap Nat Cluster) : Prop :=
  ∀ (number : Nat) (cluster : Cluster), entries[number]? = some cluster → cluster.number = number

theorem keyed_empty : Keyed {} := fun number cluster h => absurd h (by simp)

theorem Keyed.insert {entries : Std.HashMap Nat Cluster} (h : Keyed entries) (cluster : Cluster) :
    Keyed (entries.insert cluster.number cluster) := by
  intro number other hother
  rw [Std.HashMap.getElem?_insert] at hother
  split at hother
  · rename_i here
    rw [← Option.some.inj hother]
    exact eq_of_beq here
  · exact h number other hother

end Cluster

/-- The clusters by number. -/
structure Clusters where
  entries : Std.HashMap Nat Cluster := {}
  keyed : Cluster.Keyed entries := by exact Cluster.keyed_empty
  warnedFull : Bool := false
  warnedCollisions : Bool := false

namespace Clusters

/-- The greatest number of a cluster, and the most clusters that are kept. -/
def span : Nat := 0xfffff

/-- Most characters of a cluster; more of them are dropped. -/
def maxLength : Nat := 255

/-- How many numbers are tried for a cluster. -/
def maxTries : Nat := 129

/-- The number that follows from the number of a shorter cluster, or the code point of a base, and
one more character: rotate, mix in, multiply, and cut off at twenty bits. -/
def chain (number c : Nat) : Nat :=
  let rotated := (number * 0x100) % 0x100000000 ||| number / 0x1000
  (rotated ^^^ c) * 2654435761 % 0x100000

/-- The cluster that a cell's key names. -/
def resolve? (table : Clusters) (key : Nat) : Option Cluster :=
  if key < clusterBase then none else table.entries[key - clusterBase]?

/-- The characters that a cell's key stands for: none for a right half. -/
def text (table : Clusters) (key : Nat) : List Char :=
  if key = 0 then []
  else match table.resolve? key with
    | some cluster => cluster.chars
    | none => (scalar? key).toList

/-- Whether `next` continues what the key stands for rather than starting a new cluster. -/
def extends? (table : Clusters) (key : Nat) (next : Char) : Bool :=
  match table.text key with
  | [] => false
  | chars => Text.Cluster.isSingle (chars ++ [next])

/-- What looking for a number finds. -/
inductive Place where
  /-- The cluster is in the table. -/
  | taken (cluster : Cluster)
  /-- The number is free. -/
  | free (number : Nat)
  /-- Every number tried belongs to another cluster. -/
  | crowded

/-- Looks for the number of the characters, trying up to `tries` numbers from the given one on. -/
def place (table : Clusters) (chars : List Char) : Nat → Nat → Place
  | 0, _ => .crowded
  | tries + 1, number =>
    match table.entries[number]? with
    | none => .free number
    | some cluster =>
      if cluster.chars = chars then .taken cluster
      else table.place chars tries ((number + 1) % 0x100000)

/-- The width of a cluster of the given width with one more character. -/
def widen (method : WidthMethod) (width : Nat) (c : Char) : Nat :=
  let added := Text.displayWidth c
  Nat.max 1 <| match method with
    | .max => Nat.max width added
    | .double => min (width + if c = '\uFE0F' then 2 else added) 2
    | .wcswidth => min (width + added) 2

/-- What the key stands for before a character joins it: its characters and width, and the number
that the longer cluster starts its search from. -/
def base? (table : Clusters) (key : Nat) (c : Char) : Option (Spelling × Nat) :=
  match table.resolve? key with
  | some cluster => some (cluster.toSpelling, chain cluster.number c.toNat)
  | none => (scalar? key).map fun base =>
      (⟨[base], Text.displayWidth base⟩, chain key c.toNat)

/-- Adds the character to what the key stands for. The answer is the key of the longer cluster
with its width, or nothing if it cannot be kept; a cluster of full length stays as it is. -/
def append (table : Clusters) (key : Nat) (c : Char) (method : WidthMethod) :
    Reported (Clusters × Option Glyph) :=
  match table.base? key c with
  | none => ⟨(table, none), []⟩
  | some (base, start) =>
    if maxLength ≤ base.chars.length then
      ⟨(table, (table.resolve? key).map Cluster.glyph),
        [⟨.debug, "cluster too long, dropping extender",
          [("len", toString base.chars.length)]⟩]⟩
    else
      let chars := base.chars ++ [c]
      match table.place chars maxTries start with
      | .taken cluster => ⟨(table, some cluster.glyph), []⟩
      | .crowded =>
        if table.warnedCollisions then ⟨(table, none), []⟩
        else ⟨({ table with warnedCollisions := true }, none),
          [⟨.warning, "ignoring composed character: too many collisions", []⟩]⟩
      | .free number =>
        if span ≤ table.entries.size then
          if table.warnedFull then ⟨(table, none), []⟩
          else ⟨({ table with warnedFull := true }, none),
            [⟨.warning, "maximum number of composed characters reached", []⟩]⟩
        else
          let cluster : Cluster := ⟨⟨chars, widen method base.width c⟩, number⟩
          ⟨({ table with
              entries := table.entries.insert cluster.number cluster
              keyed := table.keyed.insert cluster },
            some cluster.glyph), []⟩

/-- What comes of adding characters in turn. -/
structure Run where
  table : Clusters
  /-- The key of what the characters became. -/
  key : Nat
  /-- Its width, if a character joined. -/
  width : Option Nat := none
  /-- How many characters could not be kept. -/
  dropped : Nat := 0

/-- Adds one more character to a run. -/
def Run.add (method : WidthMethod) (r : Reported Run) (c : Char) : Reported Run :=
  let next := r.value.table.append r.value.key c method
  let reports := r.reports ++ next.reports
  match next.value with
  | (table, some glyph) =>
    ⟨{ r.value with table, key := glyph.key, width := some glyph.width }, reports⟩
  | (table, none) => ⟨{ r.value with table, dropped := r.value.dropped + 1 }, reports⟩

/-- Adds characters in turn to what the key stands for. -/
def appendAll (table : Clusters) (key : Nat) (chars : List Char) (method : WidthMethod) :
    Reported Run := chars.foldl (Run.add method) ⟨{ table, key }, []⟩

/-- Forgets every cluster. -/
def clear (table : Clusters) : Clusters :=
  { table with
    entries := {}
    keyed := Cluster.keyed_empty }

/-- How many clusters the table holds. -/
def size (table : Clusters) : Nat := table.entries.size

end Clusters

end Teletype
