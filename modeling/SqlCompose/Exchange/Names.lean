import SqlCompose.Function
import SqlCompose.Predicate
import SqlCompose.Session.Log

/-!
# Names of operators and functions

The words by which a statement that is described as data refers to operators, functions and kinds.
-/

namespace SqlCompose

/-- What a name stands for. -/
def named? {α : Type} (entries : List (String × α)) (name : String) : Option α :=
  (entries.find? fun e => e.1 == name).map Prod.snd

/-- The field type of a name. -/
def FieldType.ofName? (name : String) : Option FieldType :=
  [FieldType.custom, .bool, .number, .string, .date, .time, .timestamp, .interval, .array, .binary,
    .json, .uuid].find? fun t => t.name == name

/-- The dialect of a name. -/
def Dialect.ofName? (name : String) : Option Dialect :=
  [Dialect.postgres, .mysql, .sqlite].find? fun d => d.name == name

namespace Exchange

/-- Log modes. -/
def logModes : List (String × LogMode) :=
  [("sql", .sql), ("interpolated", .interpolated), ("stats", .stats)]

/-- Kinds of joins. -/
def joinKinds : List (String × JoinKind) :=
  [("inner", .inner), ("left", .left), ("right", .right), ("full", .full), ("cross", .cross)]

/-- Operators between statements. -/
def setOperators : List (String × SetOperator) := [
  ("union", .union), ("union_all", .unionAll), ("intersect", .intersect),
  ("intersect_all", .intersectAll), ("except", .except), ("except_all", .exceptAll)]

/-- Strengths of locks. -/
def lockStrengths : List (String × LockStrength) := [
  ("for_update", .update), ("for_no_key_update", .noKeyUpdate), ("for_share", .share),
  ("for_key_share", .keyShare)]

/-- Conditions on one field. -/
def fieldTests : List (String × (Field → Predicate)) := [
  ("is_null", Field.isNull), ("is_not_null", Field.isNotNull), ("is_true", Field.isTrue),
  ("is_false", Field.isFalse)]

/-- Conditions on two fields. -/
def comparisons : List (String × (Field → Field → Predicate)) := [
  ("eq", Field.eq), ("ne", Field.ne), ("gt", Field.gt), ("gte", Field.gte), ("lt", Field.lt),
  ("lte", Field.lte), ("like", Field.like), ("not_like", Field.notLike), ("ilike", Field.ilike),
  ("not_ilike", Field.notIlike), ("matches", Field.regex),
  ("is_distinct_from", Field.isDistinctFrom), ("is_not_distinct_from", Field.isNotDistinctFrom),
  ("contains", Field.contains), ("overlaps", Field.overlaps), ("eq_any", Field.eqAny)]

/-- Conditions on a field and two bounds. -/
def rangeTests : List (String × (Field → Field → Field → Predicate)) := [
  ("between", Field.between), ("not_between", Field.notBetween),
  ("between_symmetric", Field.betweenSymmetric)]

/-- Functions of one field. -/
def functions : List (String × (Field → Field)) := [
  ("count", Function.count), ("count_distinct", Function.countDistinct), ("sum", Function.sum),
  ("avg", Function.avg), ("min", Function.min), ("max", Function.max), ("lower", Function.lower),
  ("upper", Function.upper), ("excluded", Field.excluded)]

/-- Decorations of a field. -/
def decorations : List (String × (Field → Field)) := [
  ("asc", Field.asc), ("desc", Field.desc), ("nulls_first", Field.nullsFirst),
  ("nulls_last", Field.nullsLast)]

/-- Operators between two fields. -/
def operators : List (String × (Field → Field → Field)) := [
  ("add", Field.add), ("sub", Field.sub), ("mul", Field.mul), ("div", Field.div),
  ("modulo", Field.modulo), ("concat", Field.concat), ("json_get", Field.jsonGet),
  ("json_get_text", Field.jsonGetText)]

end Exchange

end SqlCompose
