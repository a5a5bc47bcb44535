import Dossier.Schema.Field
import Dossier.Sql.Statement
import Dossier.Value.Basic

/-!
# Columns and casts

Records live in one table: a column for each system field, one for the approval state, and one document
column for all declared fields. How a field is written depends on what it is compared with: a system
column is cast to text unless the value has the column's type, and a declared field is taken out of the
document and cast to the type of the value.
-/

namespace Dossier

namespace Sql

/-- The columns that filters can speak of. -/
inductive SystemColumn where
  | id
  | tenantId
  | entityName
  | createdAt
  | updatedAt
  | createdBy
  | updatedBy
  | deleted
  | deletedAt
  | deletedBy
  | approvalStatus
deriving DecidableEq

inductive SqlType where
  | text
  | uuid
  | float8
  | boolean
  | timestamptz
  | numeric
  | jsonb
deriving DecidableEq

def SqlType.name : SqlType → String
  | .text => "text"
  | .uuid => "uuid"
  | .float8 => "float8"
  | .boolean => "boolean"
  | .timestamptz => "timestamptz"
  | .numeric => "numeric"
  | .jsonb => "jsonb"

namespace SystemColumn

def all : List SystemColumn :=
  [.id, .tenantId, .entityName, .createdAt, .updatedAt, .createdBy, .updatedBy, .deleted, .deletedAt,
    .deletedBy, .approvalStatus]

def field : SystemColumn → String
  | .id => "id"
  | .tenantId => "tenant_id"
  | .entityName => "entity_name"
  | .createdAt => "created_at"
  | .updatedAt => "updated_at"
  | .createdBy => "created_by"
  | .updatedBy => "updated_by"
  | .deleted => "deleted"
  | .deletedAt => "deleted_at"
  | .deletedBy => "deleted_by"
  | .approvalStatus => "approval.status"

/-- The column of a field, if it is a system field. -/
def ofField? (name : String) : Option SystemColumn := all.find? fun column => column.field == name

def sql : SystemColumn → String
  | .approvalStatus => "(approval->>'status')"
  | column => s!"\"{column.field}\""

def type : SystemColumn → SqlType
  | .id => .uuid
  | .deleted => .boolean
  | .createdAt | .updatedAt | .deletedAt => .timestamptz
  | _ => .text

end SystemColumn

/-- What stands on the left of a comparison. -/
inductive Operand where
  | column (c : SystemColumn)
  | columnAsText (c : SystemColumn)
  /-- A declared field as text, perhaps cast. -/
  | dataText (key : String) (cast : Option SqlType)
  /-- A declared field as a document. -/
  | dataJson (key : String)
deriving DecidableEq

namespace Operand

def statement : Operand → Statement
  | .column c => [.fixed c.sql]
  | .columnAsText c => [.fixed s!"{c.sql}::text"]
  | .dataText key none => [.fixed "data->>", .quoted key]
  | .dataText key (some type) => [.fixed "(data->>", .quoted key, .fixed s!")::{type.name}"]
  | .dataJson key => [.fixed "data->", .quoted key]

def type : Operand → SqlType
  | .column c => c.type
  | .columnAsText _ => .text
  | .dataText _ cast => cast.getD .text
  | .dataJson _ => .jsonb

/-- Whether a value can be compared with a column as it is. -/
def fitsColumn (c : SystemColumn) : Value → Bool
  | .date _ => c.type == .timestamptz
  | .bool _ => c.type == .boolean
  | .ref id => c.type == .uuid && (Uuid.read? id).isSome
  | .text _ => c.type == .text
  | _ => false

/-- The type a declared field is cast to when it is compared with a value. -/
def castFor? : Value → Option SqlType
  | .number _ => some .float8
  | .currency _ => some .numeric
  | .date _ => some .timestamptz
  | .bool _ => some .boolean
  | _ => none

/-- The left side of a comparison of a field with a value. -/
def forValue (field : String) (value : Value) : Operand :=
  match SystemColumn.ofField? field with
  | some c => if fitsColumn c value then .column c else .columnAsText c
  | none =>
    match value with
    | .list _ | .json _ => .dataJson field
    | value => .dataText field (castFor? value)

end Operand

namespace Param

/-- The parameter for a value. A reference that is a record identifier is bound as one. -/
def ofValue : Value → Param
  | .null => .json .null
  | .text s => .text s
  | .ref id =>
    match Uuid.read? id with
    | some id => .uuid id
    | none => .text id
  | .number n => .number n
  | .bool b => .bool b
  | .date t => .timestamp t
  | .currency d => .decimal d
  | .list items => .json (Value.list items).render
  | .json document => .json document

end Param

end Sql

end Dossier
