import Dossier.Uuid

/-!
# Store errors

What can go wrong in a store of records.
-/

namespace Dossier

inductive StoreError where
  | configMissing (setting : String)
  | duplicate (id : Uuid)
  | corrupt (reason : String)
  /-- A stored document has the wrong form. -/
  | malformed
  /-- The database refuses or fails. -/
  | database
deriving DecidableEq

namespace StoreError

/-- The words for an error, where they do not come from elsewhere. -/
def message? : StoreError → Option String
  | .configMissing name => some s!"Missing configuration: {name}"
  | .duplicate id => some s!"Duplicate record id: {id.text}"
  | .corrupt reason => some s!"Stored record is unreadable: {reason}"
  | .malformed => none
  | .database => none

end StoreError

end Dossier
