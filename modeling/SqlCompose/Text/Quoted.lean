/-!
# Quoted SQL text

A literal stands between single quotes, and a quote inside it is written twice.
-/

namespace SqlCompose.Text

/-- The characters of a literal's inside, every quote doubled. -/
def doubleQuotes (s : List Char) : List Char :=
  s.flatMap fun c => if c = '\'' then ['\'', '\''] else [c]

/-- A text as a quoted literal. -/
def quote (s : String) : String := "'" ++ String.ofList (doubleQuotes s.toList) ++ "'"

end SqlCompose.Text
