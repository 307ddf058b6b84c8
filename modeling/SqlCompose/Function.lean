import SqlCompose.Field

/-!
# SQL functions

Calls of functions as fields, with the type of their result.
-/

namespace SqlCompose.Function

/-- A call with a declared type. -/
def call (name : String) (type : FieldType) (args : List Field) : Field :=
  .computed type
    (Neutral.escape name ++ "(" ++ ", ".intercalate (args.map fun _ => "?") ++ ")")
    (args.map .field)

/-- The number of rows. -/
def countAll : Field := .computed .number "COUNT(*)" []

/-- The number of rows where a field is not null. -/
def count (f : Field) : Field := call "COUNT" .number [f]

/-- The number of different values. -/
def countDistinct (f : Field) : Field := .computed .number "COUNT(DISTINCT ?)" [.field f]

def sum (f : Field) : Field := call "SUM" .number [f]
def avg (f : Field) : Field := call "AVG" .number [f]

/-- The least value, of the type of its argument. -/
def min (f : Field) : Field := call "MIN" f.type [f]

/-- The greatest value, of the type of its argument. -/
def max (f : Field) : Field := call "MAX" f.type [f]

def lower (f : Field) : Field := call "LOWER" .string [f]
def upper (f : Field) : Field := call "UPPER" .string [f]

/-- The first argument that is not null, of the type of the first. -/
def coalesce (fs : List Field) : Field :=
  call "COALESCE" ((fs.head?.map Field.type).getD .custom) fs

/-- The current time. -/
def now : Field := .computed .timestamp "NOW()" []

end SqlCompose.Function
