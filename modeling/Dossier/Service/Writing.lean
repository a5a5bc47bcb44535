import Dossier.Service.Payload

/-!
# Writing records

A write reads the record first, and only then asks the store to change it, under a guard that repeats
everything the reading has established: tenant, entity, deletion, the caller's row condition, and that no
pending approval locks the record. If something else changed the record in between, the guard fails and
nothing is written.

A write that succeeds is entered in the audit trail; creations and updates are also notified. Neither
can make the write fail.
-/

namespace Dossier

namespace Service

/-- The record that a write starts from. -/
def fetchUnlocked (entity : Entity) (id : Uuid) (p : Predicate) : Call Record := do
  let r ← fetchOne entity id p
  if r.isLocked then .fail (.locked id) else return r

/-- Why a guarded write found no record: it is locked, or not there for the caller. -/
def explainMiss {α : Type} (ctx : Context) (entity : Entity) (deleted : Bool) (id : Uuid) : Call α := do
  match ← Call.fetch entity ((scopeWhere ctx.tenant entity.name deleted).both (byId id)) with
  | some r => if r.isLocked then .fail (.locked id) else .fail (.recordNotFound entity.name id.text)
  | none => .fail (.recordNotFound entity.name id.text)

/-- Writes a record that a predicate admits and no approval locks. -/
def commit (ctx : Context) (entity : Entity) (deleted : Bool) (id : Uuid) (p : Predicate) (w : Write) :
    Call Record := do
  match ← Call.write entity id (p.both unlocked) w ctx.user with
  | some r => return r
  | none => explainMiss ctx entity deleted id

/-- A write shown to a caller who may not be allowed to read; who is not learns only that it was done. -/
def shownAfterWrite (access : Access) (entity : Entity) (r : Record) : Json :=
  match access.readMask entity with
  | .ok mask => shown mask r.members
  | .error _ => .ofMembers [("id", .string r.id.text), ("deleted", .bool r.deleted)]

def newData (s : Service) (ctx : Context) (mask : FieldMask) (entity : Entity) (payload : Json) :
    Call (Dict String Value) := do
  let members ← .done (payloadMembers mask payload)
  .done (checkRequired members entity.fields)
  return (← s.gather ctx members entity.fields ∅).values

def create (s : Service) (ctx : Context) (entity : String) (payload : Json) : Call Json := do
  let (entity, access) ← s.enter ctx entity
  let permission ← .done (access.authorize entity.name .create)
  let mask ← .done (access.readMask entity)
  let data ← s.newData ctx (mask.restrict permission) entity payload
  let draft : Draft := { tenant := ctx.tenant, entity := entity.name, author := ctx.user, data }
  let approval ← Call.approval s.workflows ctx.toCaller entity draft
  let created ← Call.create entity { draft with approval }
  Call.audit (.of ctx.toCaller .create entity.name created.id created.additions)
  Call.notify (.of .created ctx.toCaller created created.additions)
  return shown mask created.members

def update (s : Service) (ctx : Context) (entity id : String) (payload : Json) : Call Json := do
  let (entity, access) ← s.enter ctx entity
  let permission ← .done (access.authorize entity.name .update)
  let forced ← .done (forced ctx access entity .update)
  let mask ← .done (access.readMask entity)
  let id ← .done (recordId entity id)
  let p := reachable ctx entity false id forced
  let before ← fetchUnlocked entity id p
  let members ← .done (payloadMembers (mask.restrict permission) payload)
  let changes ← s.gather ctx members entity.fields ∅
  let after ← commit ctx entity false id p (.update changes)
  Call.audit (.of ctx.toCaller .update entity.name id (before.changes after))
  Call.notify (.of .updated ctx.toCaller after (before.changes after))
  return shown mask after.members

/-- Marks a record as deleted, or takes the mark away; both need the permission to delete. -/
def mark (s : Service) (ctx : Context) (entity id : String) (deleted : Bool) (w : Write) (logged : Action) :
    Call Json := do
  let (entity, access) ← s.enter ctx entity
  let forced ← .done (forced ctx access entity .delete)
  let id ← .done (recordId entity id)
  let p := reachable ctx entity deleted id forced
  let before ← fetchUnlocked entity id p
  let after ← commit ctx entity deleted id p w
  Call.audit (.of ctx.toCaller logged entity.name id (before.changes after))
  return shownAfterWrite access entity after

def delete (s : Service) (ctx : Context) (entity id : String) : Call Json :=
  s.mark ctx entity id false .delete .delete

def restore (s : Service) (ctx : Context) (entity id : String) : Call Json :=
  s.mark ctx entity id true .restore .update

end Service

end Dossier
