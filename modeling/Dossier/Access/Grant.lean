import Dossier.Access.Permission

/-!
# Roles

A role grants permissions by entity and action. An entry under `*` stands for the entities that the role
has no entry of their own for.
-/

namespace Dossier

/-- The permissions of a role on an entity, by action. -/
structure EntityGrant where
  create : Option Permission := none
  read : Option Permission := none
  update : Option Permission := none
  delete : Option Permission := none

namespace EntityGrant

def action (g : EntityGrant) : Action → Option Permission
  | .create => g.create
  | .read => g.read
  | .update => g.update
  | .delete => g.delete

def grant (g : EntityGrant) (action : Action) (p : Permission) : EntityGrant :=
  match action with
  | .create => { g with create := some p }
  | .read => { g with read := some p }
  | .update => { g with update := some p }
  | .delete => { g with delete := some p }

def ofJson? (document : Json) : Option EntityGrant := do
  match ← document.parts? ["create", "read", "update", "delete"] with
  | [create, read, update, delete] =>
    some {
      create := ← Json.optional? Permission.ofJson? create
      read := ← Json.optional? Permission.ofJson? read
      update := ← Json.optional? Permission.ofJson? update
      delete := ← Json.optional? Permission.ofJson? delete }
  | _ => none

def render (g : EntityGrant) : Json :=
  let part (p : Option Permission) : Json := (p.map Permission.render).getD .null
  .ofMembers [("create", part g.create), ("read", part g.read), ("update", part g.update),
    ("delete", part g.delete)]

end EntityGrant

structure Role where
  name : String
  entities : Dict String EntityGrant := ∅

namespace Role

/-- The name that stands for every other entity. -/
def anyEntity : String := "*"

def grantFor (r : Role) (entity : String) : Option EntityGrant :=
  r.entities.get? entity <|> r.entities.get? anyEntity

def ofJson? (document : Json) : Option Role := do
  match ← document.parts? ["role", "entities"] with
  | [name, entities] =>
    some {
      name := ← Json.needed? Json.text? name
      entities := ← Json.given? ∅ (Json.dict? EntityGrant.ofJson?) entities }
  | _ => none

def render (r : Role) : Json :=
  .ofMembers [("role", .string r.name), ("entities", .ofDict (r.entities.mapEntries fun _ g => g.render))]

end Role

/-! ## The roles of a user -/

/-- The roles a user holds, in the order they were given. -/
structure Access where
  roles : List Role

namespace Access

def roleNames (a : Access) : List String := a.roles.map (·.name)

/-- The permissions that single roles have for an action on an entity. -/
def permissions (a : Access) (entity : String) (action : Action) : List Permission :=
  a.roles.filterMap fun r => (r.grantFor entity).bind fun g => g.action action

/-- What the roles together allow. -/
def authorize (a : Access) (entity : String) (action : Action) : Except Fault Permission :=
  match Permission.union (a.permissions entity action) with
  | some p => .ok p
  | none => .error (.actionDenied action entity)

end Access

end Dossier
