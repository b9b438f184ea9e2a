import Teletype.Text.CharClass

/-!
# Cutting texts

Cutting lists of characters or bytes at separators, and blanks off the ends of a text.
-/

namespace Teletype.Text

variable {α : Type} [DecidableEq α]

/-- What stands before and after the first separator, if there is one. -/
def cutAt? (separator : α) (items : List α) : Option (List α × List α) :=
  match items.span (· ≠ separator) with
  | (_, []) => none
  | (before, _ :: after) => some (before, after)

/-- The parts between the separators, put after those in `done`, the last of which stands first;
`part` is what was read of the present one, backwards. -/
def splitAfter (separator : α) (done : List (List α)) (part : List α) : List α → List (List α)
  | [] => (part.reverse :: done).reverse
  | a :: rest =>
    if a = separator then splitAfter separator (part.reverse :: done) [] rest
    else splitAfter separator done (a :: part) rest

/-- The parts between the separators: one more than there are separators. -/
def splitAt (separator : α) (items : List α) : List (List α) := splitAfter separator [] [] items

/-- What follows `start`, if the items begin with it. -/
def after? (start items : List α) : Option (List α) :=
  if start.isPrefixOf items then some (items.drop start.length) else none

/-- The characters without the blanks at their end. -/
def trimEnd (chars : List Char) : List Char := (chars.reverse.dropWhile isBlank).reverse

/-- The characters without the blanks at either end. -/
def trim (chars : List Char) : List Char := trimEnd (chars.dropWhile isBlank)

end Teletype.Text
