import Dossier.Filter.Basic

/-!
# Row conditions

A permission can be restricted to some records by a condition: comparisons of fields with values or
variables, joined by `and`, `or` and `not`, or a constant. The document form names each kind of node:
`{"and": [...]}`, `{"compare": {"field": ..., "op": ..., "value": ...}}`, `"always"`.
-/

namespace Dossier

/-- A field, an operator, and a value or a reference to a variable. -/
structure Comparison where
  field : String
  op : FilterOp
  value : Json

inductive Condition where
  | always
  | never
  | and (parts : List Condition)
  | or (parts : List Condition)
  | not (inner : Condition)
  | compare (comparison : Comparison)

instance : Inhabited Condition := ⟨.always⟩

namespace Comparison

def ofJson? (document : Json) : Option Comparison := do
  match ← document.parts? ["field", "op", "value"] with
  | [field, op, value] =>
    some {
      field := ← Json.needed? Json.text? field
      op := ← Json.given? .eq FilterOp.ofJson? op
      value := value.getD .null }
  | _ => none

def render (c : Comparison) : Json :=
  .ofMembers [("field", .string c.field), ("op", .string c.op.name), ("value", c.value)]

end Comparison

namespace Condition

def constant? (name : String) : Option Condition :=
  if name = "always" then some .always else if name = "never" then some .never else none

mutual

def ofJson? : Json → Option Condition
  | .string name => constant? name
  | .object [(name, content)] =>
    if name = "and" then (listOfJson? content).map .and
    else if name = "or" then (listOfJson? content).map .or
    else if name = "not" then (ofJson? content).map .not
    else if name = "compare" then (Comparison.ofJson? content).map .compare
    else if content.isNull then constant? name
    else none
  | _ => none

def listOfJson? : Json → Option (List Condition)
  | .array items => itemsOfJson? items
  | _ => none

def itemsOfJson? : List Json → Option (List Condition)
  | [] => some []
  | item :: rest => (ofJson? item).bind fun c => (itemsOfJson? rest).map (c :: ·)

end

mutual

def render : Condition → Json
  | .always => .string "always"
  | .never => .string "never"
  | .and parts => .object [("and", .array (renderAll parts))]
  | .or parts => .object [("or", .array (renderAll parts))]
  | .not inner => .object [("not", inner.render)]
  | .compare c => .object [("compare", c.render)]

def renderAll : List Condition → List Json
  | [] => []
  | part :: rest => part.render :: renderAll rest

end

end Condition

inductive ConditionError where
  | unknownVariable (reference : String)
  | malformed
  | filter (error : FilterError)
deriving DecidableEq

namespace ConditionError

def message : ConditionError → String
  | .unknownVariable reference => s!"Unknown condition variable: {reference}"
  | .malformed => "Invalid condition expression"
  | .filter error => error.message

end ConditionError

end Dossier
