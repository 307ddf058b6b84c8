import SqlCompose.Text.Visible

/-!
# Text in dumps

Diagnostic dumps put text between double quotes. Quotes and backslashes are escaped, the common
controls have short escapes, and every other hidden character is written by its code point.
-/

namespace SqlCompose.Text

/-- A character as it stands inside a dumped text. -/
def dumpChar (c : Char) : String :=
  if c = '"' then "\\\""
  else if c = '\\' then "\\\\"
  else if c = '\n' then "\\n"
  else if c = '\r' then "\\r"
  else if c = '\t' then "\\t"
  else if c.toNat = 0 then "\\0"
  else if visible c then c.toString
  else "\\u\x7b" ++ String.ofList (Nat.toDigits 16 c.toNat) ++ "\x7d"

/-- A text as it stands in a dump. -/
def dump (s : String) : String :=
  "\"" ++ String.join (s.toList.map dumpChar) ++ "\""

/-- A dumped list. -/
def dumpList (items : List String) : String := "[" ++ ", ".intercalate items ++ "]"

end SqlCompose.Text
