import Teletype.Text.Numeral
import Teletype.Text.Property.Extend
import Teletype.Text.Property.Unprintable

/-!
# Quoted text

The form in which a report shows a text or a character: between quotes, with a backslash before
what would be misread and the number of every character that does not show.
-/

namespace Teletype.Text.Quoted

/-- The escaped form of one character inside the given quotes. -/
def escape (quote : Char) (c : Char) : String :=
  if c = '\x00' then "\\0"
  else if c = '\t' then "\\t"
  else if c = '\n' then "\\n"
  else if c = '\r' then "\\r"
  else if c = quote || c = '\\' then "\\" ++ c.toString
  else if Property.graphemeExtend.contains c || Property.unprintable.contains c then
    "\\u\x7b" ++ Numeral.hex 1 c.toNat ++ "\x7d"
  else c.toString

/-- The quoted form of a text, in double quotes. -/
def text (s : String) : String :=
  "\"" ++ String.join (s.toList.map (escape '"')) ++ "\""

/-- The quoted form of a character, in single quotes. -/
def char (c : Char) : String := "\x27" ++ escape '\x27' c ++ "\x27"

/-- The quoted form of a list whose items are already written. -/
def list (items : List String) : String := "[" ++ ", ".intercalate items ++ "]"

/-- The form of a value that may be missing. -/
def option : Option String → String
  | none => "None"
  | some item => "Some(" ++ item ++ ")"

end Teletype.Text.Quoted
