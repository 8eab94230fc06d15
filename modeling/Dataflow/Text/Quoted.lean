import Dataflow.Text.Unprintable

set_option autoImplicit false

namespace Dataflow.Text

def codePointEscape (c : Char) : String :=
  "\\u\x7b" ++ String.ofList (Nat.toDigits 16 c.toNat) ++ "\x7d"

/-- Quotes and backslashes are escaped by a backslash, the common controls by a letter, and every
other character without a shape of its own by its code point. -/
def escape (c : Char) : String :=
  if c = '\x00' then "\\0"
  else if c = '\t' then "\\t"
  else if c = '\r' then "\\r"
  else if c = '\n' then "\\n"
  else if c = '"' ∨ c = '\\' then "\\" ++ c.toString
  else if isUnprintable c then codePointEscape c
  else c.toString

def quote (text : String) : String :=
  "\"" ++ String.join (text.toList.map escape) ++ "\""

end Dataflow.Text
