import Dossier.Condition.Basic
import Dossier.Fault

/-!
# Permissions

What a role may do: for each entity and action a permission, which can be restricted to some records by
a row condition, says which fields may be filtered on, and lowers the access to single fields.

The permissions of several roles add up (`Permission.union`): a record, a filter or an access to a field
is granted when one role grants it. A role without a rule for a field grants it fully.
-/

namespace Dossier

inductive FieldAccess where
  | none
  | readOnly
  | readWrite
deriving DecidableEq

namespace FieldAccess

/-- How much an access allows. -/
def rank : FieldAccess → Nat
  | .none => 0
  | .readOnly => 1
  | .readWrite => 2

def max (a b : FieldAccess) : FieldAccess := if a.rank ≤ b.rank then b else a

def min (a b : FieldAccess) : FieldAccess := if a.rank ≤ b.rank then a else b

def canRead (a : FieldAccess) : Bool := 1 ≤ a.rank

def canWrite (a : FieldAccess) : Bool := a == .readWrite

def name : FieldAccess → String
  | .none => "none"
  | .readOnly => "read_only"
  | .readWrite => "read_write"

def ofName? (name : String) : Option FieldAccess :=
  [FieldAccess.none, .readOnly, .readWrite].find? fun a => a.name == name

def ofJson? (document : Json) : Option FieldAccess := document.choice? >>= ofName?

end FieldAccess

/-- What a role, or several together, may do by one action. -/
structure Permission where
  allowed : Bool := false
  /-- The records this holds for; without a condition it holds for all. -/
  condition : Option Condition := Option.none
  /-- The fields that may be filtered on; without a list there are none. -/
  filterable : Option (List String) := Option.none
  /-- Fields with less than full access, or said to have it. -/
  fieldRules : Dict String FieldAccess := ∅

instance : Inhabited Permission := ⟨{}⟩

namespace Permission

/-- Leave for everything. -/
def allow : Permission := { allowed := true }

def access (p : Permission) (field : String) : FieldAccess := (p.fieldRules.get? field).getD .readWrite

def ofJson? (document : Json) : Option Permission := do
  match ← document.parts? ["allowed", "condition", "ui_filters", "field_rules"] with
  | [allowed, condition, filterable, fieldRules] =>
    some {
      allowed := ← Json.given? false Json.bool? allowed
      condition := ← Json.optional? Condition.ofJson? condition
      filterable := ← Json.optional? (Json.list? Json.text?) filterable
      fieldRules := ← Json.given? ∅ (Json.dict? FieldAccess.ofJson?) fieldRules }
  | _ => none

def render (p : Permission) : Json :=
  .ofMembers [("allowed", .bool p.allowed), ("condition", (p.condition.map Condition.render).getD .null),
    ("ui_filters", (p.filterable.map fun fields => Json.array (fields.map .string)).getD .null),
    ("field_rules", .ofDict (p.fieldRules.mapEntries fun _ access => .string access.name))]

/-! ## Several roles together -/

/-- The condition under which one of several permissions applies. -/
def unionCondition (allowing : List Permission) : Option Condition :=
  if allowing.any fun p => p.condition.isNone then none
  else
    match allowing.filterMap (·.condition) with
    | [condition] => some condition
    | conditions => some (.or conditions)

/-- The fields that one of several permissions lets filter on, in ascending order. -/
def unionFilterable (allowing : List Permission) : Option (List String) :=
  if allowing.all fun p => p.filterable.isNone then none
  else
    let fields := allowing.flatMap fun p => p.filterable.getD []
    some (Dict.ofList (fields.map fun f => (f, ()))).keys

/-- The greatest access that one of several permissions gives to a field. -/
def unionAccess (allowing : List Permission) (field : String) : FieldAccess :=
  allowing.foldl (fun best p => best.max (p.access field)) .none

/-- The rules for the fields to which no permission gives full access. -/
def unionRules (allowing : List Permission) : Dict String FieldAccess :=
  let ruled := Dict.ofList (allowing.flatMap fun p => p.fieldRules.entries)
  (ruled.mapEntries fun field _ => unionAccess allowing field).filter fun _ access => access != .readWrite

/-- What several permissions together allow; `none` when none of them allows anything. -/
def union (permissions : List Permission) : Option Permission :=
  match permissions.filter (·.allowed) with
  | [] => none
  | allowing =>
    some {
      allowed := true
      condition := unionCondition allowing
      filterable := unionFilterable allowing
      fieldRules := unionRules allowing }

/-- Whether every filter of a request is on a field that may be filtered on. -/
def checkFilters (p : Permission) : List Filter → Except Fault Unit
  | [] => .ok ()
  | f :: rest =>
    if (p.filterable.getD []).contains f.field then p.checkFilters rest
    else .error (.filterDenied f.field)

end Permission

end Dossier
