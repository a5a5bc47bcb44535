import Dossier.Record.Basic

/-!
# Differences between records

The list of changes that the audit trail and notifications carry: one entry for each data field whose
rendered value is not the same before and after, by name, and last the mark of deletion.
-/

namespace Dossier

inductive Change where
  | added (new : Json)
  | modified (old new : Json)
  | removed (old : Json)

namespace Change

def name : Change → String
  | .added _ => "added"
  | .modified .. => "modified"
  | .removed _ => "removed"

def old? : Change → Option Json
  | .added _ => none
  | .modified old _ => some old
  | .removed old => some old

def new? : Change → Option Json
  | .added new => some new
  | .modified _ new => some new
  | .removed _ => none

/-- The change from one presence and value to another. -/
def between : Option Json → Option Json → Option Change
  | none, some new => some (.added new)
  | some old, none => some (.removed old)
  | some old, some new => if old.same new then none else some (.modified old new)
  | none, none => none

end Change

structure FieldChange where
  field : String
  change : Change

namespace FieldChange

def render (c : FieldChange) : Json :=
  .ofMembers [("field", .string c.field), ("old_value", c.change.old?.getD .null),
    ("new_value", c.change.new?.getD .null), ("change_type", .string c.change.name)]

end FieldChange

namespace Record

/-- Every data field of a new record, as an addition. -/
def additions (r : Record) : List FieldChange :=
  r.dataMembers.entries.map fun (field, value) => ⟨field, .added value⟩

/-- The names of the fields of either of two records, ascending. -/
def fieldNames (before after : Record) : List String :=
  (Dict.ofList ((before.data.keys ++ after.data.keys).map fun field => (field, ()))).keys

def deletionChange (before after : Record) : List FieldChange :=
  if before.deleted = after.deleted then []
  else [⟨"deleted", .modified (.bool before.deleted) (.bool after.deleted)⟩]

/-- The changes from one version of a record to another. -/
def changes (before after : Record) : List FieldChange :=
  (fieldNames before after).filterMap (fun field =>
    (Change.between (before.dataMembers.get? field) (after.dataMembers.get? field)).map fun change =>
      ⟨field, change⟩) ++
  deletionChange before after

end Record

end Dossier
