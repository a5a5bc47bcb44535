import Dossier.Condition.Variables
import Dossier.Filter.Compile

/-!
# Row conditions as predicates

Each comparison becomes a predicate as a filter does, with its variables replaced. Fields that no entity
declares get a kind from their name if they are system fields, and else from the value. The first
comparison from the left that is wrong decides the error, whatever the rest would say.
-/

namespace Dossier

def kindSuggested : Json → FieldKind
  | .number _ => .number
  | .bool _ => .boolean
  | .array [] => .text
  | .array (first :: _) => kindSuggested first
  | _ => .text

def instantFields : List String := ["created_at", "updated_at", "deleted_at"]

def textFields : List String :=
  ["tenant_id", "entity_name", "created_by", "updated_by", "deleted_by", "approval.status"]

/-- The kind of a field that is not declared. -/
def undeclaredKind (name : String) (value : Json) : FieldKind :=
  if instantFields.contains name then .date
  else if name = "deleted" then .boolean
  else if textFields.contains name then .text
  else kindSuggested value

namespace Comparison

/-- The entity that a comparison is compiled against. -/
def target (entity? : Option Entity) (field : String) (value : Json) : Entity :=
  match entity? with
  | some entity => if (entity.find? field).isSome then entity else undeclared
  | none => undeclared
where
  undeclared : Entity :=
    { Entity.bare "condition" with fields := [Field.plain field (undeclaredKind field value)] }

def compile (vars : Variables) (entity? : Option Entity) (c : Comparison) : Except ConditionError Predicate :=
  vars.resolve c.value >>= fun value =>
    (Filter.compile (target entity? c.field value) ⟨c.field, c.op, value⟩).mapError .filter

end Comparison

namespace Condition

mutual

/-- The predicate of a condition. -/
def compile (vars : Variables) (entity? : Option Entity) : Condition → Except ConditionError Predicate
  | .always => .ok .always
  | .never => .ok .never
  | .and parts => (compileAll vars entity? parts).map Predicate.all
  | .or parts => (compileAll vars entity? parts).map Predicate.any
  | .not inner => (compile vars entity? inner).map Predicate.negate
  | .compare c => c.compile vars entity?

def compileAll (vars : Variables) (entity? : Option Entity) :
    List Condition → Except ConditionError (List Predicate)
  | [] => .ok []
  | part :: rest =>
    match compile vars entity? part with
    | .error e => .error e
    | .ok p => (compileAll vars entity? rest).map (p :: ·)

end

end Condition

end Dossier
