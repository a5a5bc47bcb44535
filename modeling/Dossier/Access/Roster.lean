import Dossier.Access.Grant

/-!
# The roster of roles

Roles by name, and who holds which: a list of role names for each tenant and user. Defining a role again
replaces it for everyone who holds it.
-/

namespace Dossier

structure Roster where
  roles : Dict String Role := ∅
  /-- Role names by holder, oldest first. -/
  assignments : Dict String (List String) := ∅

namespace Roster

def holder (tenant user : String) : String := tenant ++ "/" ++ user

def define (r : Roster) (role : Role) : Roster := { r with roles := r.roles.insert role.name role }

def assign (r : Roster) (tenant user role : String) : Roster :=
  let key := holder tenant user
  { r with assignments := r.assignments.insert key ((r.assignments.get? key).getD [] ++ [role]) }

/-- The roles of a user, those that are not defined left out. -/
def rolesOf (r : Roster) (tenant user : String) : List Role :=
  ((r.assignments.get? (holder tenant user)).getD []).filterMap r.roles.get?

/-- The roster of a list of roles held by no one. -/
def ofRoles (roles : List Role) : Roster := roles.foldl define {}

end Roster

end Dossier
