/-!
# System fields

The names of the fields that the engine itself keeps for every record. No entity declares them and no
payload sets them.
-/

namespace Dossier

def systemFields : List String :=
  ["id", "tenant_id", "entity_name", "created_at", "updated_at", "created_by", "updated_by", "deleted",
    "deleted_at", "deleted_by", "approval"]

/-- Whether a name belongs to the engine; `_id` is a second name of the identifier. -/
def isSystemField (name : String) : Bool := name == "_id" || systemFields.contains name

end Dossier
