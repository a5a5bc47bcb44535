import Dossier.Condition.Variables
import Dossier.Fault
import Dossier.Record.Basic
import Dossier.Schema.Field

/-!
# Workflows of new records

Before a new record is stored, somebody outside decides whether it enters a workflow, and in which state
of approval. That may fail, and the record is not created then.
-/

namespace Dossier

/-- Decides about a new record of a caller. Every new record has an identifier of its own, so the answers
to two of them need have nothing in common. -/
structure Workflows where
  approval : Caller → Entity → Record → Except ObserverError (Option Approval)

namespace Workflows

def none : Workflows := ⟨fun _ _ _ => .ok Option.none⟩

/-- Every new record of some entities is submitted to the workflow of its entity. -/
def ofEntities (workflows : Dict String String) : Workflows where
  approval caller entity r :=
    .ok ((workflows.get? entity.name).map fun workflow => .submitted workflow caller.user r.createdAt)

instance : Coe (Dict String String) Workflows := ⟨ofEntities⟩

end Workflows

end Dossier
