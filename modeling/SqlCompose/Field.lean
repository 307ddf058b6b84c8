import SqlCompose.Layout

/-!
# Fields

Scalar expressions and the operators that build them. A label or an order to sort by never changes
what a field is.
-/

namespace SqlCompose

namespace Field

/-- An expression of a type, without label and order. -/
def ofExpr (expr : Expr) (type : FieldType) : Field := ⟨expr, type, none, none, none⟩

/-- A column without a qualifier. -/
def column (name : String) (type : FieldType) : Field := ofExpr (.column none name) type

/-- A column with a qualifier; the empty qualifier is none. -/
def qualified (qualifier name : String) (type : FieldType) : Field :=
  ofExpr (.column (nonempty? qualifier) name) type

def star : Field := column "*" .custom

def null : Field := ofExpr .null .custom

/-- A bound value; `NULL` is written out. -/
def value (v : Value) : Field := if v.isNull then null else ofExpr (.literal v) v.fieldType

/-- An array bound as one value. -/
def array (p : Param) : Field := ofExpr (.literal (.custom p)) .array

/-- A template of a declared type. -/
def computed (type : FieldType) (template : String) (args : List Arg) : Field :=
  ofExpr (.computed template args) type

/-- A template without a declared type. -/
def custom (template : String) (args : List Arg) : Field := computed .custom template args

def raw (sql : String) : Field := custom (Neutral.escape sql) []

/-! ## Decorations -/

def labelled (f : Field) (label : String) : Field := { f with label := some label }

def asc (f : Field) : Field := { f with order := some .asc }

def desc (f : Field) : Field := { f with order := some .desc }

def nullsFirst (f : Field) : Field := { f with nulls := some .first }

def nullsLast (f : Field) : Field := { f with nulls := some .last }

def withType (f : Field) (type : FieldType) : Field := { f with type := type }

/-- Points a column at another table; other fields stay as they are. -/
def requalify (f : Field) (qualifier : String) : Field :=
  match f.expr with
  | .column _ name => { f with expr := .column (nonempty? qualifier) name }
  | _ => f

/-! ## Parts -/

/-- The name of a column, empty for other fields. -/
def name (f : Field) : String :=
  match f.expr with
  | .column _ name => name
  | _ => ""

def outputName (f : Field) : String := f.label.getD f.name

def qualifier (f : Field) : Option String :=
  match f.expr with
  | .column q _ => q
  | _ => none

/-- The neutral text of a field as an operand. -/
def render (f : Field) (exclude : Exclude) : Fragment := (f.doc exclude).render

/-- The neutral text of a field in a projection. -/
def renderProjection (f : Field) (exclude : Exclude) : Fragment := (f.projectionDoc exclude).render

/-- Whether two fields are the same expression, whatever they are sorted by. -/
def sameExpr (f g : Field) : Bool :=
  f.type == g.type && f.label == g.label &&
    (f.expr.doc .none).render.same (g.expr.doc .none).render

/-! ## Conditions -/

/-- A comparison with another field. -/
def compare (f : Field) (op : String) (g : Field) : Predicate := .binary (some f) op (some g)

/-- A test of one field. -/
def test (f : Field) (op : String) : Predicate := .unary (some f) op

/-- A test against two bounds. -/
def range (f : Field) (op : String) (low high : Field) : Predicate :=
  .ternary (some f) op (some low) (some high)

def eq (f g : Field) : Predicate := f.compare "=" g
def ne (f g : Field) : Predicate := f.compare "<>" g
def gt (f g : Field) : Predicate := f.compare ">" g
def gte (f g : Field) : Predicate := f.compare ">=" g
def lt (f g : Field) : Predicate := f.compare "<" g
def lte (f g : Field) : Predicate := f.compare "<=" g
def like (f g : Field) : Predicate := f.compare "LIKE" g
def notLike (f g : Field) : Predicate := f.compare "NOT LIKE" g
def ilike (f g : Field) : Predicate := f.compare "ILIKE" g
def notIlike (f g : Field) : Predicate := f.compare "NOT ILIKE" g

/-- A match with a regular expression. -/
def regex (f g : Field) : Predicate := f.compare "~" g

def isDistinctFrom (f g : Field) : Predicate := f.compare "IS DISTINCT FROM" g
def isNotDistinctFrom (f g : Field) : Predicate := f.compare "IS NOT DISTINCT FROM" g

/-- Containment of JSON data or arrays. -/
def contains (f g : Field) : Predicate := f.compare "@>" g

/-- Whether two arrays have an element in common. -/
def overlaps (f g : Field) : Predicate := f.compare "&&" g

def isNull (f : Field) : Predicate := f.test "IS NULL"
def isNotNull (f : Field) : Predicate := f.test "IS NOT NULL"
def isTrue (f : Field) : Predicate := f.test "IS TRUE"
def isFalse (f : Field) : Predicate := f.test "IS FALSE"
def between (f low high : Field) : Predicate := f.range "BETWEEN" low high
def notBetween (f low high : Field) : Predicate := f.range "NOT BETWEEN" low high
def betweenSymmetric (f low high : Field) : Predicate := f.range "BETWEEN SYMMETRIC" low high

/-- Membership in a list of values; an empty list leaves no condition. -/
def inList (f : Field) (vs : List Value) : Predicate := .custom "? IN (?)" [.field f, .list vs]

/-- Absence from a list of values; an empty list leaves no condition. -/
def notInList (f : Field) (vs : List Value) : Predicate :=
  .custom "? NOT IN (?)" [.field f, .list vs]

/-- Membership in the rows of a statement. -/
def inQuery (f : Field) (q : Query) : Predicate := .custom "? IN (?)" [.field f, .query q]

/-- Absence from the rows of a statement. -/
def notInQuery (f : Field) (q : Query) : Predicate := .custom "? NOT IN (?)" [.field f, .query q]

/-- Membership in an array. -/
def eqAny (f array : Field) : Predicate := .custom "? = ANY(?)" [.field f, .field array]

/-! ## Operators -/

/-- A binary operator in parentheses, with the type of its left operand. -/
def arithmetic (f : Field) (op : String) (g : Field) : Field :=
  computed f.type ("(? " ++ op ++ " ?)") [.field f, .field g]

def add (f g : Field) : Field := f.arithmetic "+" g
def sub (f g : Field) : Field := f.arithmetic "-" g
def mul (f g : Field) : Field := f.arithmetic "*" g
def div (f g : Field) : Field := f.arithmetic "/" g
def modulo (f g : Field) : Field := f.arithmetic "%" g

/-- Concatenation of text. -/
def concat (f g : Field) : Field := computed .string "? || ?" [.field f, .field g]

/-- A member of JSON data. -/
def jsonGet (f key : Field) : Field := computed .json "?->?" [.field f, .field key]

/-- A member of JSON data, as text. -/
def jsonGetText (f key : Field) : Field := computed .string "?->>?" [.field f, .field key]

/-- A field under a collation. -/
def collate (f : Field) (collation : String) : Field :=
  computed f.type ("? COLLATE \"" ++ Neutral.escape collation ++ "\"") [.field f]

/-- A field converted to an SQL type. -/
def cast (f : Field) (sqlType : String) (type : FieldType) : Field :=
  computed type ("CAST(? AS " ++ Neutral.escape sqlType ++ ")") [.field f]

/-- The value that an insertion proposed for a column, inside a conflict clause. -/
def excluded (column : Field) : Field := qualified "EXCLUDED" column.name column.type

end Field

/-- What fills a slot with a value: `NULL` is written out, not bound. -/
def Arg.ofValue (v : Value) : Arg := if v.isNull then .null else .value v

/-! ## Columns of tables -/

namespace BaseTable

/-- A column of a table with an explicit type. -/
def columnOf (t : BaseTable) (name : String) (type : FieldType) : Field :=
  .qualified t.qualifier name type

/-- A column of a table, typed by its first declaration. -/
def get (t : BaseTable) (name : String) : Field :=
  t.columnOf name (((t.columns.find? fun c => c.1 == name).map Prod.snd).getD .custom)

/-- All columns of a table. -/
def all (t : BaseTable) : Field := t.columnOf "*" .custom

/-- The declared columns of a table. -/
def fields (t : BaseTable) : List Field := t.columns.map fun (name, type) => t.columnOf name type

end BaseTable

/-- A column of a common table expression. -/
def Cte.get (c : Cte) (name : String) : Field := .qualified c.name name .custom

/-- A column of a second reference to a common table expression. -/
def CteReference.get (c : CteReference) (name : String) : Field := .qualified c.label name .custom

/-- A column of a table expression. -/
def CustomTable.get (t : CustomTable) (name : String) : Field :=
  .qualified (t.label.getD "") name .custom

end SqlCompose
