import SqlCompose.Table
import SqlCompose.Template

/-!
# The layout of statements

Every node of a statement tree has a document. Qualifiers are excluded within one expression only: a
table or a statement inside an expression is laid out with all its qualifiers. The documents of the
clauses stand in a fixed order, whatever the order in which a statement was built.
-/

namespace SqlCompose

/-- The name of a column, after its qualifier unless that is excluded. -/
def columnDoc (exclude : Exclude) (qualifier : Option String) (name : String) : Doc :=
  match qualifier with
  | some q => if exclude.contains q then .text name else .seq [.text q, .text ".", .text name]
  | none => .text name

def SortOrder.words : SortOrder → String
  | .asc => " ASC"
  | .desc => " DESC"

def NullsOrder.words : NullsOrder → String
  | .first => " NULLS FIRST"
  | .last => " NULLS LAST"

/-- What follows a term to sort by. -/
def orderingWords (order : Option SortOrder) (nulls : Option NullsOrder) : String :=
  (match order with
    | some o => o.words
    | none => "") ++
  match nulls with
  | some n => n.words
  | none => ""

def Connective.separator : Connective → String
  | .and => " AND "
  | .or => " OR "

def JoinKind.words : JoinKind → String
  | .inner => "INNER JOIN"
  | .left => "LEFT JOIN"
  | .right => "RIGHT JOIN"
  | .full => "FULL JOIN"
  | .cross => "CROSS JOIN"

def SetOperator.words : SetOperator → String
  | .union => "UNION"
  | .unionAll => "UNION ALL"
  | .intersect => "INTERSECT"
  | .intersectAll => "INTERSECT ALL"
  | .except => "EXCEPT"
  | .exceptAll => "EXCEPT ALL"

def LockStrength.words : LockStrength → String
  | .update => "FOR UPDATE"
  | .noKeyUpdate => "FOR NO KEY UPDATE"
  | .share => "FOR SHARE"
  | .keyShare => "FOR KEY SHARE"

def LockWait.words : LockWait → String
  | .wait => ""
  | .noWait => " NOWAIT"
  | .skipLocked => " SKIP LOCKED"

def Lock.doc (l : Lock) : Doc :=
  .seq [.text l.strength.words,
    .text (if l.tables.isEmpty then "" else " OF " ++ ", ".intercalate l.tables),
    .text l.wait.words]

def lockDoc : Option Lock → Doc
  | some l => l.doc
  | none => .empty

/-- A bound number of rows. -/
def countDoc (n : Option Int64) : Doc := .bound (n.map .bigInt)

/-- The body of a `WITH` clause: `RECURSIVE` stands before the definitions if one of them is. -/
def withDoc (ctes : List Cte) (definitions : Doc) : Doc :=
  if ctes.any (·.recursive) then .enclosed "RECURSIVE " "" definitions else definitions

/-- The words between the name of a common table expression and its statement. -/
def materializedWords : Option Bool → String
  | none => " AS "
  | some true => " AS MATERIALIZED "
  | some false => " AS NOT MATERIALIZED "

/-- What stands before the statement of a common table expression. -/
def cteHead (name : String) (columns : List String) (materialized : Option Bool) : String :=
  name ++ (if columns.isEmpty then "" else " (" ++ ", ".intercalate columns ++ ")") ++
    materializedWords materialized

mutual

def Expr.doc (exclude : Exclude) : Expr → Doc
  | .literal v => .bind v
  | .column qualifier name => columnDoc exclude qualifier name
  | .computed template args => Template.doc template (argDocs exclude args)
  | .null => .text "NULL"

/-- A field as an operand or a term to sort by. -/
def Field.doc (exclude : Exclude) : Field → Doc
  | ⟨expr, _, _, order, nulls⟩ => .follow (expr.doc exclude) (.text (orderingWords order nulls))

/-- A field in a projection, under its label. -/
def Field.projectionDoc (exclude : Exclude) : Field → Doc
  | ⟨expr, _, label, _, _⟩ => (expr.doc exclude).named label

def fieldDocs (exclude : Exclude) : List Field → List Doc
  | [] => []
  | f :: rest => f.doc exclude :: fieldDocs exclude rest

def projectionDocs : List Field → List Doc
  | [] => []
  | f :: rest => f.projectionDoc .none :: projectionDocs rest

/-- The values of a row: one that is empty still takes its place. -/
def valueDocs : List Field → List Doc
  | [] => []
  | f :: rest => .orNull (f.doc .none) :: valueDocs rest

/-- An operand of a predicate. -/
def operandDoc (exclude : Exclude) : Option Field → Doc
  | some f => .orNull (f.doc exclude)
  | none => .text "NULL"

/-- What an argument puts into its slot; a list without values has no content. -/
def Arg.doc? (exclude : Exclude) : Arg → Option Doc
  | .null => some (.text "NULL")
  | .value v => some (.bind v)
  | .list vs => if vs.isEmpty then none else some (.list (vs.map .bind))
  | .field f => some (f.doc exclude)
  | .predicate p => some (p.doc exclude false)
  | .table t => some t.doc
  | .query q => some q.doc

def argDocs (exclude : Exclude) : List Arg → List (Option Doc)
  | [] => []
  | a :: rest => a.doc? exclude :: argDocs exclude rest

/-- A predicate. As a whole clause body, a group has no parentheses. -/
def Predicate.doc (exclude : Exclude) (whole : Bool) : Predicate → Doc
  | .unary operand op => .seq [operandDoc exclude operand, .text " ", .operator op]
  | .binary lhs op rhs =>
    .seq [operandDoc exclude lhs, .text " ", .operator op, .text " ", operandDoc exclude rhs]
  | .ternary operand op low high =>
    .seq [operandDoc exclude operand, .text " ", .operator op, .text " ", operandDoc exclude low,
      .text " AND ", operandDoc exclude high]
  | .group connective members topLevel => groupDoc exclude connective (whole || topLevel) members
  | .negation p => .enclosed "NOT (" ")" (p.doc exclude true)
  | .existence q negated => .enclosed (if negated then "NOT EXISTS (" else "EXISTS (") ")" q.doc
  | .custom template args => Template.doc template (argDocs exclude args)

/-- A group of predicates. A group that is the only member takes the place of the outer one;
otherwise two or more members that are not empty stand in parentheses, unless the group is a whole
body. -/
def groupDoc (exclude : Exclude) (connective : Connective) (whole : Bool) : List Predicate → Doc
  | [] => .empty
  | [.group inner members _] => groupDoc exclude inner whole members
  | p :: rest =>
    .joined connective.separator (!whole) (p.doc exclude false :: predicateDocs exclude rest)

def predicateDocs (exclude : Exclude) : List Predicate → List Doc
  | [] => []
  | p :: rest => p.doc exclude false :: predicateDocs exclude rest

def CustomTable.doc : CustomTable → Doc
  | ⟨template, args, _⟩ => Template.doc template (argDocs .none args)

def Cte.doc : Cte → Doc
  | ⟨name, columns, query, _, materialized⟩ =>
    .enclosed (cteHead name columns materialized ++ "(") ")" query.doc

def cteDocs : List Cte → List Doc
  | [] => []
  | c :: rest => c.doc :: cteDocs rest

/-- A table without its label. -/
def TableSource.doc : TableSource → Doc
  | .base t => t.doc
  | .cte c => .text c.name
  | .reference c => .text c.name
  | .query q => .parens q.doc
  | .custom t => t.doc

def sourceDocs : List TableSource → List Doc
  | [] => []
  | t :: rest => t.doc.named t.label :: sourceDocs rest

/-- A join; nothing if its table is empty. -/
def Join.doc : Join → Doc
  | ⟨kind, target, conditions, lateral⟩ =>
    .follow
      (.enclosed (kind.words ++ if lateral then " LATERAL " else " ") ""
        (target.doc.named target.label))
      (if kind = .cross then .empty
        else .enclosed " ON " "" (groupDoc .none .and true conditions))

def joinDocs : List Join → List Doc
  | [] => []
  | j :: rest => j.doc :: joinDocs rest

def Distinct.doc : Distinct → Doc
  | .off => .empty
  | .rows => .text "DISTINCT "
  | .byFields fields => .enclosed "DISTINCT ON (" ") " (.list (fieldDocs .none fields))

/-- A `SELECT` statement. An empty projection selects every column. -/
def Select.doc : Select → Doc
  | ⟨ctes, distinct, projections, sources, joins, filters, groupBy, having, orderBy, limit, offset,
      lock, _, _, _, _⟩ =>
    .clauses [
      .keyword "WITH" (withDoc ctes (.list (cteDocs ctes))),
      .seq [.text "SELECT ", distinct.doc,
        .orElse (.list (projectionDocs projections)) (.text "*")],
      .keyword "FROM" (.list (sourceDocs sources)),
      .clauses (joinDocs joins),
      .keyword "WHERE" (groupDoc .none .and true filters),
      .keyword "GROUP BY" (.list (fieldDocs .none groupBy)),
      .keyword "HAVING" (groupDoc .none .and true having),
      .keyword "ORDER BY" (.list (fieldDocs .none orderBy)),
      .keyword "LIMIT" (countDoc limit),
      .keyword "OFFSET" (countDoc offset),
      lockDoc lock]

/-- A column and its value; nothing if the value is empty. -/
def Assignment.doc (target : Exclude) : Assignment → Doc
  | ⟨column, value⟩ =>
    .lead (.seq [column.doc target, .text " = "]) (value.doc .none)

def assignmentDocs (target : Exclude) : List Assignment → List Doc
  | [] => []
  | a :: rest => a.doc target :: assignmentDocs target rest

def ConflictTarget.doc (target : Exclude) : ConflictTarget → Doc
  | .any => .empty
  | .columns fields filters =>
    .follow (.enclosed " (" ")" (.list (fieldDocs target fields)))
      (.enclosed " WHERE " "" (groupDoc target .and true filters))
  | .constraint name _ => .text (" ON CONSTRAINT " ++ name)

/-- What a conflict clause does; without assignments it does nothing. -/
def ConflictAction.doc (target : Exclude) : ConflictAction → Doc
  | .nothing => .text " DO NOTHING"
  | .update [] _ => .text " DO NOTHING"
  | .update (a :: rest) filters =>
    .seq [.text " DO UPDATE SET ", .list (a.doc target :: assignmentDocs target rest),
      .enclosed " WHERE " "" (groupDoc .none .and true filters)]

def Conflict.doc (target : Exclude) : Conflict → Doc
  | ⟨subject, action⟩ => .seq [.text "ON CONFLICT", subject.doc target, action.doc target]

def conflictDoc (target : Exclude) : Option Conflict → Doc
  | some c => c.doc target
  | none => .empty

def Tuple.doc : Tuple → Doc
  | ⟨values⟩ => .parens (.list (valueDocs values))

def tupleDocs : List Tuple → List Doc
  | [] => []
  | r :: rest => r.doc :: tupleDocs rest

def InsertSource.doc (rows : Doc) : InsertSource → Doc
  | .rows => rows
  | .query q => q.doc

/-- An `INSERT` statement. Its columns stand without the target's qualifier. -/
def Insert.doc : Insert → Doc
  | ⟨ctes, target, columns, rows, source, conflict, returning, _, _, _⟩ =>
    .clauses [
      .keyword "WITH" (withDoc ctes (.list (cteDocs ctes))),
      .seq [.text "INSERT INTO ", target.sourceDoc,
        .enclosed " (" ")" (.list (fieldDocs ⟨[target.qualifier]⟩ columns))],
      source.doc (if rows.isEmpty then .text "DEFAULT VALUES"
        else .seq [.text "VALUES ", .list (tupleDocs rows)]),
      conflictDoc ⟨[target.qualifier]⟩ conflict,
      .keyword "RETURNING" (.list (projectionDocs returning))]

/-- An `UPDATE` statement. The columns that are set stand without the target's qualifier, and joins
stand only after a table to join to. -/
def Update.doc : Update → Doc
  | ⟨ctes, target, assignments, sources, joins, filters, returning, _, _, _, _⟩ =>
    .clauses [
      .keyword "WITH" (withDoc ctes (.list (cteDocs ctes))),
      .seq [.text "UPDATE ", target.sourceDoc],
      .keyword "SET" (.list (assignmentDocs ⟨[target.qualifier]⟩ assignments)),
      .follow (.keyword "FROM" (.list (sourceDocs sources)))
        (.enclosed " " "" (.clauses (joinDocs joins))),
      .keyword "WHERE" (groupDoc .none .and true filters),
      .keyword "RETURNING" (.list (projectionDocs returning))]

/-- A `DELETE` statement. Joins stand only after a table to join to. -/
def Delete.doc : Delete → Doc
  | ⟨ctes, target, sources, joins, filters, returning, _, _, _, _⟩ =>
    .clauses [
      .keyword "WITH" (withDoc ctes (.list (cteDocs ctes))),
      .seq [.text "DELETE FROM ", target.sourceDoc],
      .follow (.keyword "USING" (.list (sourceDocs sources)))
        (.enclosed " " "" (.clauses (joinDocs joins))),
      .keyword "WHERE" (groupDoc .none .and true filters),
      .keyword "RETURNING" (.list (projectionDocs returning))]

def Arm.doc : Arm → Doc
  | ⟨operator, query⟩ => .enclosed (" " ++ operator.words ++ " (") ")" query.doc

def armDocs : List Arm → List Doc
  | [] => []
  | a :: rest => a.doc :: armDocs rest

/-- Combined statements, each in parentheses. -/
def SetOperation.doc : SetOperation → Doc
  | ⟨head, arms, orderBy, limit, offset, _, _, _⟩ =>
    .clauses [
      .seq (.parens head.doc :: armDocs arms),
      .keyword "ORDER BY" (.list (fieldDocs .none orderBy)),
      .keyword "LIMIT" (countDoc limit),
      .keyword "OFFSET" (countDoc offset)]

/-- Any statement, without parentheses. -/
def Query.doc : Query → Doc
  | .select s => s.doc
  | .insert s => s.doc
  | .update s => s.doc
  | .delete s => s.doc
  | .setOperation s => s.doc

end

end SqlCompose
