import Dossier.Predicate.Document
import Dossier.Sql.Operand

/-!
# Conditions in SQL

The SQL reading of a predicate. A condition is a tree over single tests; only what it prints as
knows about parentheses, so a condition has a meaning in three-valued logic of its own.

A test on a missing field is unknown, so a complement is written `NOT COALESCE(…, false)`: what is not
known to hold counts as not holding.
-/

namespace Dossier

namespace Sql

inductive Test where
  | columnIsNull (column : SystemColumn)
  /-- A declared field is missing or null. -/
  | dataIsNull (key : String)
  /-- A declared field is a text, or a list with it among its items. -/
  | dataHolds (key text : String)
  | dataIs (key : String) (document : Json)
  | compares (operand : Operand) (relation : Relation) (value : Param)
  | between (operand : Operand) (low high : Param)
  | columnLike (column : SystemColumn) (pattern : String)
  /-- A declared field is a text that matches, or a list with one among its items. -/
  | dataLike (key pattern : String)

inductive Clause where
  | constant (holds : Bool)
  | test (t : Test)
  /-- A condition in parentheses. -/
  | group (inner : Clause)
  | and (parts : List Clause)
  | or (parts : List Clause)
  /-- Holds unless the inner condition does. -/
  | complement (inner : Clause)

def relationSign : Relation → String
  | .eq => "="
  | .ne => "<>"
  | .gt => ">"
  | .gte => ">="
  | .lt => "<"
  | .lte => "<="

namespace Test

def statement : Test → Statement
  | .columnIsNull column => [.fixed s!"{column.sql} IS NULL"]
  | .dataIsNull key =>
    [.fixed "(data->", .quoted key, .fixed " IS NULL OR data->", .quoted key, .fixed " = 'null'::jsonb)"]
  | .dataHolds key text =>
    [.fixed "data->", .quoted key, .fixed " @> to_jsonb(", .param (.text text), .fixed "::text)"]
  | .dataIs key document => [.fixed "data->", .quoted key, .fixed " = ", .param (.json document)]
  | .compares operand relation value =>
    operand.statement ++ [.fixed s!" {relationSign relation} ", .param value]
  | .between operand low high =>
    operand.statement ++ [.fixed " BETWEEN ", .param low, .fixed " AND ", .param high]
  | .columnLike column pattern => [.fixed s!"{column.sql}::text ILIKE ", .param (.text pattern)]
  | .dataLike key pattern =>
    [.fixed "EXISTS (SELECT 1 FROM jsonb_array_elements_text(CASE jsonb_typeof(data->", .quoted key,
      .fixed ") WHEN 'array' THEN data->", .quoted key,
      .fixed " WHEN 'string' THEN jsonb_build_array(data->", .quoted key,
      .fixed ") ELSE '[]'::jsonb END) AS t(v) WHERE t.v ILIKE ", .param (.text pattern), .fixed ")"]

/-- The test for equality of a field with a value. -/
def equals (field : String) (value : Value) : Test :=
  match SystemColumn.ofField? field, value with
  | some column, .null => .columnIsNull column
  | none, .null => .dataIsNull field
  | none, .text s | none, .ref s => .dataHolds field s
  | none, .list items => .dataIs field (Value.list items).render
  | none, .json document => .dataIs field document
  | _, value => .compares (.forValue field value) .eq (.ofValue value)

end Test

namespace Clause

mutual

def statement : Clause → Statement
  | .constant true => [.fixed "1=1"]
  | .constant false => [.fixed "1=0"]
  | .test t => t.statement
  | .group inner => .fixed "(" :: inner.statement ++ [.fixed ")"]
  | .and parts => Statement.separated " AND " (statements parts)
  | .or parts => Statement.separated " OR " (statements parts)
  | .complement inner => .fixed "NOT COALESCE(" :: inner.statement ++ [.fixed ", false)"]

def statements : List Clause → List Statement
  | [] => []
  | part :: rest => part.statement :: statements rest

end

mutual

def ofPredicate : Predicate → Clause
  | .always => .constant true
  | .never => .constant false
  | .compare field .eq value => .test (.equals field value)
  | .compare field .ne value => .complement (.test (.equals field value))
  | .compare field relation value => .test (.compares (.forValue field value) relation (.ofValue value))
  | .among _ [] negated => .constant negated
  | .among field values false => .group (.or (values.map fun v => .test (.equals field v)))
  | .among field values true =>
    .complement (.group (.or (values.map fun v => .test (.equals field v))))
  | .text field mode pattern =>
    match SystemColumn.ofField? field with
    | some column => .test (.columnLike column (likePattern mode pattern))
    | none => .test (.dataLike field (likePattern mode pattern))
  | .between field low high =>
    .test (.between (.forValue field low) (.ofValue low) (.ofValue high))
  | .and parts => .and (groups parts)
  | .or parts => .or (groups parts)
  | .not inner => .complement (.group (ofPredicate inner))

/-- The conditions of a list of predicates, each in parentheses. -/
def groups : List Predicate → List Clause
  | [] => []
  | part :: rest => .group (ofPredicate part) :: groups rest

end

end Clause

def whereClause (p : Predicate) : Statement := (Clause.ofPredicate p).statement

end Sql

end Dossier
