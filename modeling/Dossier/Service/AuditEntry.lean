import Dossier.Condition.Variables
import Dossier.Fault
import Dossier.Record.Diff

/-!
# The audit trail

One entry for every write that succeeded. A restoration is entered as an update.
-/

namespace Dossier

structure AuditEntry where
  tenant : String
  user : String
  action : Action
  entity : String
  id : Uuid
  changes : List FieldChange

namespace AuditEntry

/-- The entry of an action of a caller on a record. -/
def of (caller : Caller) (action : Action) (entity : String) (id : Uuid) (changes : List FieldChange) :
    AuditEntry :=
  ⟨caller.tenant, caller.user, action, entity, id, changes⟩

def render (e : AuditEntry) : Json :=
  .ofMembers [("user", .string e.user), ("action", .string e.action.name), ("entity", .string e.entity),
    ("id", .string e.id.text), ("changes", .array (e.changes.map FieldChange.render))]

end AuditEntry

end Dossier
