import Dossier.Sql.Query

/-!
# Statements written while values are bound

The statements of `Query` once more, written as text from left to right. Where the text speaks of a value,
the value is put at the end of the values bound so far and goes by their count. What an update sets is
written with its numbers beforehand, and its guard goes on from there.
-/

namespace Dossier

namespace Sql

/-- Something written while values are bound. -/
abbrev Binding := StateM (List Param)

/-- The text of an operand; nothing in it is bound. -/
def Operand.text : Operand → String
  | .column c => c.sql
  | .columnAsText c => s!"{c.sql}::text"
  | .dataText key none => "data->>" ++ literal key
  | .dataText key (some type) => "(data->>" ++ literal key ++ s!")::{type.name}"
  | .dataJson key => "data->" ++ literal key

/-- The text of a sort order; nothing in it is bound. -/
def orderText (entity : Entity) : List SortSpec → String
  | [] => ""
  | specs =>
    "ORDER BY " ++ String.intercalate ", " (specs.map fun spec =>
      (sortOperand entity spec.field).text ++ " " ++ directionWord spec.direction)

namespace Binding

/-- Binds one more value, which goes by its number. -/
def param (value : Param) : Binding String := do
  modify (· ++ [value])
  let bound ← get
  return s!"${bound.length}"

def equality (field : String) (value : Value) : Binding String :=
  let document := "data->" ++ literal field
  match SystemColumn.ofField? field, value with
  | some column, .null => return column.sql ++ " IS NULL"
  | none, .null => return "(" ++ document ++ " IS NULL OR " ++ document ++ " = 'null'::jsonb)"
  | none, .text s | none, .ref s => do
    let placeholder ← param (.text s)
    return document ++ " @> to_jsonb(" ++ placeholder ++ "::text)"
  | none, .list items => do
    let placeholder ← param (.json (Value.list items).render)
    return document ++ " = " ++ placeholder
  | none, .json content => do
    let placeholder ← param (.json content)
    return document ++ " = " ++ placeholder
  | _, value => do
    let placeholder ← param (.ofValue value)
    return (Operand.forValue field value).text ++ " = " ++ placeholder

mutual

def condition : Predicate → Binding String
  | .always => return "1=1"
  | .never => return "1=0"
  | .compare field .eq value => equality field value
  | .compare field .ne value => do
    let equal ← equality field value
    return "NOT COALESCE(" ++ equal ++ ", false)"
  | .compare field relation value => do
    let placeholder ← param (.ofValue value)
    return (Operand.forValue field value).text ++ s!" {relationSign relation} " ++ placeholder
  | .among _ [] negated => return if negated then "1=1" else "1=0"
  | .among field values negated => do
    let parts ← values.mapM (equality field)
    let any := "(" ++ String.intercalate " OR " parts ++ ")"
    return if negated then "NOT COALESCE(" ++ any ++ ", false)" else any
  | .text field mode pattern => do
    let placeholder ← param (.text (likePattern mode pattern))
    match SystemColumn.ofField? field with
    | some column => return column.sql ++ "::text ILIKE " ++ placeholder
    | none =>
      let document := "data->" ++ literal field
      return "EXISTS (SELECT 1 FROM jsonb_array_elements_text(CASE jsonb_typeof(" ++ document ++
        ") WHEN 'array' THEN " ++ document ++ " WHEN 'string' THEN jsonb_build_array(" ++ document ++
        ") ELSE '[]'::jsonb END) AS t(v) WHERE t.v ILIKE " ++ placeholder ++ ")"
  | .between field low high => do
    let lowest ← param (.ofValue low)
    let highest ← param (.ofValue high)
    return (Operand.forValue field low).text ++ " BETWEEN " ++ lowest ++ " AND " ++ highest
  | .and parts => do return String.intercalate " AND " (← conditions parts)
  | .or parts => do return String.intercalate " OR " (← conditions parts)
  | .not inner => do
    let holds ← condition inner
    return "NOT COALESCE((" ++ holds ++ "), false)"

/-- The conditions of a list of predicates, each in parentheses. -/
def conditions : List Predicate → Binding (List String)
  | [] => return []
  | part :: rest => do
    let first ← condition part
    let others ← conditions rest
    return ("(" ++ first ++ ")") :: others

end

/-! ## Statements -/

def reading (columns : String) (entity : Entity) (p : Predicate) : Binding String := do
  let name ← param (.text entity.name)
  let holds ← condition p
  return "SELECT " ++ columns ++ " FROM " ++ table ++ " WHERE \"entity_name\" = " ++ name ++ " AND (" ++
    holds ++ ")"

def listing (entity : Entity) (q : ListQuery) : Binding String := do
  let page ← reading "*" entity q.predicate
  let asked := orderText entity q.sort
  let order := if asked.isEmpty then "ORDER BY \"id\" ASC" else asked ++ ", \"id\" ASC"
  let limit ← param (.integer q.limit)
  let offset ← param (.integer q.offset)
  return page ++ " " ++ order ++ " LIMIT " ++ limit ++ " OFFSET " ++ offset

/-- An update whose settings speak of the values bound before. -/
def guarded (entity : Entity) (id : Uuid) (guard : Predicate) (settings : String) : Binding String := do
  let record ← param (.uuid id)
  let name ← param (.text entity.name)
  let holds ← condition guard
  return "UPDATE " ++ table ++ " SET " ++ settings ++ " WHERE \"id\" = " ++ record ++
    " AND \"entity_name\" = " ++ name ++ " AND (" ++ holds ++ ") RETURNING *"

/-- What a write sets, with the values that its numbers stand for. -/
def settings (stamp : Stamp) : Write → String × List Param
  | .update changes =>
    ("\"data\" = (\"data\" - $1::text[]) || $2::jsonb, \"updated_at\" = $3, \"updated_by\" = $4",
      [.textList (removals changes), .json (.object (additions changes)), .timestamp stamp.time,
        .text stamp.actor])
  | .delete =>
    ("\"deleted\" = true, \"deleted_at\" = $1, \"deleted_by\" = $2",
      [.timestamp stamp.time, .text stamp.actor])
  | .restore =>
    ("\"deleted\" = false, \"deleted_at\" = NULL, \"deleted_by\" = NULL, \"updated_at\" = $1, \"updated_by\" = $2",
      [.timestamp stamp.time, .text stamp.actor])

/-- The statement that stores a record, with the values that its numbers stand for. -/
def insertion (r : Record) : String × List Param :=
  ("INSERT INTO " ++ table ++ " (\"id\", \"tenant_id\", \"entity_name\", \"data\", \"approval\", " ++
      "\"created_at\", \"updated_at\", \"created_by\", \"updated_by\", \"deleted\") VALUES (" ++
      "$1, $2, $3, $4, $5, $6, $7, $8, $9, false) RETURNING *",
    [.uuid r.id, .text r.tenant, .text r.entity, .json (.ofDict r.dataMembers),
      .ofColumn (r.approval.map Approval.render), .timestamp r.createdAt, .timestamp r.updatedAt,
      .text r.createdBy, .text r.updatedBy])

def ofRequest (entity : Entity) : StoreRequest → String × List Param
  | .create r => insertion r
  | .get p => (do return (← reading "*" entity p) ++ " LIMIT 1").run []
  | .list q => (listing entity q).run []
  | .count p => (reading "COUNT(*) AS count" entity p).run []
  | .write id guard w stamp =>
    let (set, bound) := settings stamp w
    (guarded entity id guard set).run bound
  | .setApproval id state =>
    (guarded entity id .always "\"approval\" = NULLIF($1::jsonb, 'null'::jsonb)").run
      [.json ((state.map Approval.render).getD .null)]

end Binding

end Sql

end Dossier
