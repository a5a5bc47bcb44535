import Dossier.Access.Grant
import Dossier.Record.SystemField
import Dossier.Schema.Field

/-!
# Field masks

The access of a caller to the declared fields of an entity. Reading hides what may not be read; writing
needs full access both by the rules for reading and by those of the action. Fields that are not declared
give no access.
-/

namespace Dossier

structure FieldMask where
  fields : Dict String FieldAccess

namespace FieldMask

def ofPermission (entity : Entity) (p : Permission) : FieldMask :=
  ⟨.ofList (entity.fields.map fun f => (f.name, p.access f.name))⟩

def restrict (m : FieldMask) (p : Permission) : FieldMask :=
  ⟨m.fields.mapEntries fun name access => access.min (p.access name)⟩

def access (m : FieldMask) (field : String) : FieldAccess := (m.fields.get? field).getD .none

def canRead (m : FieldMask) (field : String) : Bool := (m.access field).canRead

def canWrite (m : FieldMask) (field : String) : Bool := (m.access field).canWrite

/-- Refuses a payload for the first of its fields that may not be written. -/
def checkWritable (m : FieldMask) : List (String × Json) → Except Fault Unit
  | [] => .ok ()
  | (field, _) :: rest =>
    if isSystemField field || !m.canWrite field then .error (.notWritable field)
    else m.checkWritable rest

/-- A record object without the fields that may not be read. -/
def apply (m : FieldMask) (members : List (String × Json)) : List (String × Json) :=
  members.filter fun member => isSystemField member.1 || m.canRead member.1

end FieldMask

def Access.readMask (a : Access) (entity : Entity) : Except Fault FieldMask :=
  (a.authorize entity.name .read).map (FieldMask.ofPermission entity)

end Dossier
