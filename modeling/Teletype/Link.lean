import Std.Data.HashMap
import Teletype.Report

/-!
# Hyperlinks

The addresses that cells link to. An address gets a number when it is first seen and keeps it until
the table is cleared; when the numbers are used up, new addresses are not linked.
-/

namespace Teletype

/-- The addresses by number, the first of which is 1. -/
structure Links where
  uris : Array String := #[]
  numbers : Std.HashMap String Nat := {}

namespace Links

/-- The greatest number of a link. -/
def maxNumber : Nat := 65535

/-- The number of an address, given out if it is new. The empty address has the number 0. -/
def intern (links : Links) (uri : String) : Reported (Links × Nat) :=
  if uri.isEmpty then ⟨(links, 0), []⟩
  else match links.numbers[uri]? with
    | some number => ⟨(links, number), []⟩
    | none =>
      let number := links.uris.size + 1
      if maxNumber < number then
        ⟨(links, 0), [⟨.warning, "hyperlink ids exhausted; link dropped", [("uri", uri)]⟩]⟩
      else
        ⟨({ uris := links.uris.push uri, numbers := links.numbers.insert uri number }, number), []⟩

/-- The address with the given number. -/
def get? (links : Links) (number : Nat) : Option String :=
  if number = 0 then none else links.uris[number - 1]?

/-- How many addresses the table holds. -/
def size (links : Links) : Nat := links.uris.size

end Links

end Teletype
