import Dossier.Predicate.Basic
import Dossier.Record.Approval
import Dossier.Record.SystemField
import Dossier.Uuid

/-!
# Records

A record belongs to a tenant and an entity. Next to its data it keeps who created and last changed it,
whether it is deleted (a deleted record stays stored), and where it stands in an approval workflow.

Every operation starts from a guard on tenant, entity and deletion (`scope`, `deletedScope`).
-/

namespace Dossier

structure Record where
  id : Uuid
  tenant : String
  entity : String
  createdAt : Instant
  updatedAt : Instant
  createdBy : String
  updatedBy : String
  deleted : Bool
  deletedAt : Option Instant
  deletedBy : Option String
  data : Dict String Value
  approval : Option Approval

structure Stamp where
  actor : String
  time : Instant

/-- New values by field; nothing removes a field. -/
abbrev Changes := Dict String (Option Value)

namespace Record

def create (id : Uuid) (tenant entity : String) (stamp : Stamp) (data : Dict String Value) : Record where
  id := id
  tenant := tenant
  entity := entity
  createdAt := stamp.time
  updatedAt := stamp.time
  createdBy := stamp.actor
  updatedBy := stamp.actor
  deleted := false
  deletedAt := none
  deletedBy := none
  data := data
  approval := none

/-- Whether a pending approval keeps a record from being changed. -/
def isLocked (r : Record) : Bool :=
  match r.approval with
  | some approval => approval.status == .pending
  | none => false

def field (r : Record) : FieldSource
  | "id" | "_id" => some (.ref r.id.text)
  | "tenant_id" => some (.text r.tenant)
  | "entity_name" => some (.text r.entity)
  | "created_at" => some (.date r.createdAt)
  | "updated_at" => some (.date r.updatedAt)
  | "created_by" => some (.text r.createdBy)
  | "updated_by" => some (.text r.updatedBy)
  | "deleted" => some (.bool r.deleted)
  | "deleted_at" => r.deletedAt.map .date
  | "deleted_by" => r.deletedBy.map .text
  | "approval.status" => r.approval.map fun approval => .text approval.status.name
  | name => r.data.get? name

def meets (r : Record) (p : Predicate) : Bool := p.holds r.field

/-! ## Documents -/

/-- The system fields as members of an object; those without a value are left out. -/
def systemMembers (r : Record) : List (String × Json) :=
  [("id", .string r.id.text), ("tenant_id", .string r.tenant), ("entity_name", .string r.entity),
    ("created_at", .string r.createdAt.text), ("updated_at", .string r.updatedAt.text),
    ("created_by", .string r.createdBy), ("updated_by", .string r.updatedBy),
    ("deleted", .bool r.deleted)] ++
  (r.deletedAt.map fun t => ("deleted_at", Json.string t.text)).toList ++
  (r.deletedBy.map fun user => ("deleted_by", Json.string user)).toList ++
  (r.approval.map fun approval => ("approval", approval.render)).toList

/-- The data in document form. -/
def dataMembers (r : Record) : Dict String Json := r.data.mapEntries fun _ value => value.render

/-- The flat object of a record, by key. -/
def members (r : Record) : List (String × Json) :=
  Entries.ofList (r.systemMembers ++ r.dataMembers.entries)

def render (r : Record) : Json := .object r.members

/-! ## Changes -/

def applyChange (data : Dict String Value) (field : String) : Option Value → Dict String Value
  | some value => data.insert field value
  | none => data.erase field

def update (r : Record) (changes : Changes) (stamp : Stamp) : Record :=
  { r with
    data := changes.entries.foldl (fun data (field, value) => applyChange data field value) r.data
    updatedAt := stamp.time
    updatedBy := stamp.actor }

def delete (r : Record) (stamp : Stamp) : Record :=
  { r with deleted := true, deletedAt := some stamp.time, deletedBy := some stamp.actor }

/-- Takes the mark away. -/
def restore (r : Record) (stamp : Stamp) : Record :=
  { r with
    deleted := false
    deletedAt := none
    deletedBy := none
    updatedAt := stamp.time
    updatedBy := stamp.actor }

end Record

/-! ## Guards -/

/-- Records of a tenant and an entity that are, or are not, deleted. -/
def scopeWhere (tenant entity : String) (deleted : Bool) : Predicate :=
  .all [.eq "tenant_id" (.text tenant), .eq "entity_name" (.text entity), .eq "deleted" (.bool deleted)]

def scope (tenant entity : String) : Predicate := scopeWhere tenant entity false

def deletedScope (tenant entity : String) : Predicate := scopeWhere tenant entity true

/-- Records that no pending approval locks. -/
def unlocked : Predicate := .ne "approval.status" (.text ApprovalStatus.pending.name)

def byId (id : Uuid) : Predicate := .eq "id" (.ref id.text)

end Dossier
