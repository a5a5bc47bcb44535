import Dossier.Access.Grant
import Dossier.Condition.Compile

/-!
# Row predicates of permissions

The predicate that a permission's row condition adds to every query. A condition that cannot be compiled
denies access.
-/

namespace Dossier

def Permission.rowPredicate (p : Permission) (vars : Variables) (entity : Entity) : Except Fault Predicate :=
  match p.condition with
  | some condition => (condition.compile vars (some entity)).mapError Fault.ofConditionError
  | none => .ok .always

end Dossier
