import Teletype.Text.Property.Alphanumeric

/-!
# Classes of characters in words

The characters that count as letters and digits, and those that count as white space.
-/

namespace Teletype.Text

/-- Letters and digits of every script. -/
def isAlphanumeric (c : Char) : Bool :=
  c.isAlphanum || (0x7f < c.toNat && Property.alphanumeric.contains c)

/-- White space: the ASCII blanks, the other spaces, and the line and paragraph separators. -/
def isBlank (c : Char) : Bool :=
  let n := c.toNat
  (9 ≤ n && n ≤ 13) || n = 0x20 || n = 0x85 || n = 0xa0 || n = 0x1680
    || (0x2000 ≤ n && n ≤ 0x200a) || n = 0x2028 || n = 0x2029 || n = 0x202f || n = 0x205f
    || n = 0x3000

end Teletype.Text
