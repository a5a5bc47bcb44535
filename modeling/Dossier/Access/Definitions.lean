import Dossier.Access.Roster
import Dossier.Fault
import Dossier.Yaml.Resolution

/-!
# Role definitions in YAML

A text of definitions is a sequence of roles in their document form.
-/

namespace Dossier

namespace Roster

/-- The roles that a text defines, held by no one. -/
def ofYaml (text : String) : Except Fault Roster :=
  match Yaml.document? text >>= Json.list? Role.ofJson? with
  | some roles => .ok (ofRoles roles)
  | none => .error Fault.rolesMalformed

end Roster

end Dossier
