import Dossier.Condition.Variables
import Dossier.Record.Diff

/-!
# Notifications

What notifiers are told about a write: the record as it is after it, and what changed.
-/

namespace Dossier

inductive RecordEvent where
  | created
  | updated
deriving DecidableEq

def RecordEvent.name : RecordEvent → String
  | .created => "record.created"
  | .updated => "record.updated"

structure Notification where
  event : RecordEvent
  tenant : String
  entity : String
  id : Uuid
  actor : String
  /-- The whole record after the write. -/
  record : Json
  changes : List FieldChange

namespace Notification

def of (event : RecordEvent) (caller : Caller) (r : Record) (changes : List FieldChange) : Notification where
  event := event
  tenant := caller.tenant
  entity := r.entity
  id := r.id
  actor := caller.user
  record := r.render
  changes := changes

def render (n : Notification) : Json :=
  .ofMembers [("event", .string n.event.name), ("tenant_id", .string n.tenant), ("entity", .string n.entity),
    ("record_id", .string n.id.text), ("actor", .string n.actor), ("record", n.record),
    ("changes", .array (n.changes.map FieldChange.render))]

end Notification

end Dossier
