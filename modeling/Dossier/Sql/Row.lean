import Dossier.Record.Basic
import Dossier.Schema.Field
import Dossier.Store.Error
import Dossier.Value.Conversion

/-!
# Rows

A record as the table holds it: its data is one document and so is its approval state. Reading a row
back gives every data member the kind that its field now has. What was stored under an older definition
and no longer fits is kept as it is, so a row with a well-formed state is never lost.
-/

namespace Dossier

namespace Sql

structure Row where
  id : Uuid
  tenant : String
  entity : String
  createdAt : Instant
  updatedAt : Instant
  createdBy : String
  updatedBy : String
  deleted : Bool
  deletedAt : Option Instant
  deletedBy : Option String
  /-- The data column, `none` where it is empty. -/
  data : Option Json
  /-- The approval column, `none` where it is empty. -/
  approval : Option Json

namespace Row

def ofRecord (r : Record) : Row where
  id := r.id
  tenant := r.tenant
  entity := r.entity
  createdAt := r.createdAt
  updatedAt := r.updatedAt
  createdBy := r.createdBy
  updatedBy := r.updatedBy
  deleted := r.deleted
  deletedAt := r.deletedAt
  deletedBy := r.deletedBy
  data := some (.ofDict r.dataMembers)
  approval := r.approval.map Approval.render

/-- The value of a stored data member; `none` where its field takes it for absent. -/
def memberValue (entity : Entity) (name : String) (stored : Json) : Option Value :=
  match entity.find? name with
  | none => some (.ofJson stored)
  | some f =>
    match f.convert stored with
    | .ok value => value
    | .error _ => some (.ofJson stored)

/-- The values of a data column. -/
def dataValues (entity : Entity) : Option Json → Except StoreError (Dict String Value)
  | some (.object members) =>
    .ok <| .ofList <| members.filterMap fun member =>
      (memberValue entity member.1 member.2).map fun value => (member.1, value)
  | some _ => .error (.corrupt "data column is not an object")
  | none => .error .database

def approvalState : Option Json → Except StoreError (Option Approval)
  | none | some .null => .ok none
  | some document =>
    match Approval.ofJson? document with
    | some state => .ok (some state)
    | none => .error .malformed

def record (entity : Entity) (row : Row) : Except StoreError Record := do
  let data ← dataValues entity row.data
  let approval ← approvalState row.approval
  .ok {
    id := row.id
    tenant := row.tenant
    entity := row.entity
    createdAt := row.createdAt
    updatedAt := row.updatedAt
    createdBy := row.createdBy
    updatedBy := row.updatedBy
    deleted := row.deleted
    deletedAt := row.deletedAt
    deletedBy := row.deletedBy
    data
    approval }

end Row

end Sql

end Dossier
