import Dossier.Access.Mask
import Dossier.Access.RowPredicate
import Dossier.Schema.Registry
import Dossier.Service.Call
import Dossier.Settings.Basic

/-!
# The record service

A service knows the schema, who decides about the workflows of new records, and how large pages may be. This module holds what its operations have in common: whom they serve, which records of an
entity the caller may reach, and how records are shown.
-/

namespace Dossier

structure Service where
  schema : Schema
  workflows : Workflows := .none
  pages : PageSettings := Settings.development.pages

def Context.variables (ctx : Context) (access : Access) : Variables :=
  .ofCaller ctx.toCaller access.roleNames ctx.now

namespace Service

def enter (s : Service) (ctx : Context) (name : String) : Call (Entity × Access) := do
  let entity ← .done ((s.schema.find name).mapError Fault.ofSchemaError)
  let access ← Call.access ctx.toCaller
  return (entity, access)

/-- The records that the caller's permission for an action holds for. -/
def forced (ctx : Context) (access : Access) (entity : Entity) (action : Action) : Except Fault Predicate :=
  access.authorize entity.name action >>= fun permission =>
    permission.rowPredicate (ctx.variables access) entity

/-- The identifier in a request. One that cannot be read names no record. -/
def recordId (entity : Entity) (id : String) : Except Fault Uuid :=
  match Uuid.read? (trimmed id) with
  | some uuid => .ok uuid
  | none => .error (.recordNotFound entity.name id)

/-- The record of an identifier that a caller may reach, live or deleted. -/
def reachable (ctx : Context) (entity : Entity) (deleted : Bool) (id : Uuid) (forced : Predicate) : Predicate :=
  .all [scopeWhere ctx.tenant entity.name deleted, byId id, forced]

/-- The record that a predicate singles out. -/
def fetchOne (entity : Entity) (id : Uuid) (p : Predicate) : Call Record := do
  match ← Call.fetch entity p with
  | some r => return r
  | none => .fail (.recordNotFound entity.name id.text)

/-- The members of a record that a mask lets be read. -/
def shown (mask : FieldMask) (members : List (String × Json)) : Json := .object (mask.apply members)

end Service

end Dossier
