import SqlCompose.Json.Basic
import SqlCompose.Number.Written
import SqlCompose.Text.Dump
import SqlCompose.Text.Hex

/-!
# JSON text and dumps

The compact text of a JSON value, and the dump that names the kind of each part.
-/

namespace SqlCompose

/-- The text of a number. -/
def JsonNumber.text : JsonNumber → String
  | .natural n => toString n
  | .negative n => toString n
  | .float x => NumberStyle.json.number .double FloatReading.specialName x.read

namespace Json

/-- A character as it stands inside a JSON string. -/
def escapeChar (c : Char) : String :=
  if c = '"' then "\\\""
  else if c = '\\' then "\\\\"
  else if c = '\n' then "\\n"
  else if c = '\r' then "\\r"
  else if c = '\t' then "\\t"
  else if c.toNat = 8 then "\\b"
  else if c.toNat = 12 then "\\f"
  else if c.toNat < 32 then "\\u00" ++ String.ofList (Text.hexByte c.toNat.toUInt8)
  else c.toString

/-- A string in JSON text. -/
def stringText (s : String) : String :=
  "\"" ++ String.join (s.toList.map escapeChar) ++ "\""

mutual

/-- The compact text of a value. -/
def text : Json → String
  | .null => "null"
  | .bool b => if b then "true" else "false"
  | .number n => n.text
  | .string s => stringText s
  | .array items => "[" ++ ",".intercalate (itemTexts items) ++ "]"
  | .object members => "\x7b" ++ ",".intercalate (memberTexts members) ++ "\x7d"

/-- The texts of array items. -/
def itemTexts : List Json → List String
  | [] => []
  | v :: rest => v.text :: itemTexts rest

/-- The texts of object members, each key before its value. -/
def memberTexts : List (String × Json) → List String
  | [] => []
  | (k, v) :: rest => (stringText k ++ ":" ++ v.text) :: memberTexts rest
end

mutual

/-- The dump of a value. -/
def dump : Json → String
  | .null => "Null"
  | .bool b => if b then "Bool(true)" else "Bool(false)"
  | .number n => "Number(" ++ n.text ++ ")"
  | .string s => "String(" ++ Text.dump s ++ ")"
  | .array items => "Array [" ++ ", ".intercalate (itemDumps items) ++ "]"
  | .object members => "Object \x7b" ++ ", ".intercalate (memberDumps members) ++ "\x7d"

/-- The dumps of array items. -/
def itemDumps : List Json → List String
  | [] => []
  | v :: rest => v.dump :: itemDumps rest

/-- The dumps of object members, each key before its value. -/
def memberDumps : List (String × Json) → List String
  | [] => []
  | (k, v) :: rest => (Text.dump k ++ ": " ++ v.dump) :: memberDumps rest
end

end Json

end SqlCompose
