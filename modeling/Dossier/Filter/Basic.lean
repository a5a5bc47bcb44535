import Dossier.Json.Structure
import Dossier.Schema.FieldError

/-!
# Filters

One filter names a field, an operator and a raw value. A list of them is a request; what can be wrong
with a request is a `FilterError`.
-/

namespace Dossier

inductive FilterOp where
  | eq
  | ne
  | gt
  | lt
  | gte
  | lte
  | among
  | notAmong
  | contains
  | startsWith
  | endsWith
  | between
deriving DecidableEq

namespace FilterOp

def all : List FilterOp :=
  [.eq, .ne, .gt, .lt, .gte, .lte, .among, .notAmong, .contains, .startsWith, .endsWith, .between]

def name : FilterOp → String
  | .eq => "eq"
  | .ne => "ne"
  | .gt => "gt"
  | .lt => "lt"
  | .gte => "gte"
  | .lte => "lte"
  | .among => "in"
  | .notAmong => "nin"
  | .contains => "contains"
  | .startsWith => "starts_with"
  | .endsWith => "ends_with"
  | .between => "between"

def ofName? (name : String) : Option FilterOp := all.find? fun op => op.name == name

/-- The operator of a name as users write it: nothing stands for equality, and inequality has a second
spelling. -/
def read? (text : String) : Option FilterOp :=
  if text = "" then some .eq else if text = "neq" then some .ne else ofName? text

def ofJson? (document : Json) : Option FilterOp := document.choice? >>= ofName?

end FilterOp

/-- One constraint of a request. -/
structure Filter where
  field : String
  operator : FilterOp
  value : Json

namespace Filter

def ofJson? (document : Json) : Option Filter := do
  match ← document.parts? ["field", "operator", "value"] with
  | [field, operator, value] =>
    some {
      field := ← Json.needed? Json.text? field
      operator := ← Json.given? .eq FilterOp.ofJson? operator
      value := value.getD .null }
  | _ => none

def render (f : Filter) : Json :=
  .ofMembers [("field", .string f.field), ("operator", .string f.operator.name), ("value", f.value)]

end Filter

/-- What can be wrong with a request for filtered or sorted records. -/
inductive FilterError where
  | unsupportedOperator (field operator : String)
  | invalidValue (error : FieldError)
  | invalidRange (label : String)
  | missingValue (label : String)
  | invalidSort (part : String)
  /-- An item of a sort list that is no sort specification. -/
  | malformedSort
deriving DecidableEq

namespace FilterError

def message : FilterError → String
  | .unsupportedOperator field operator => s!"Unsupported operator '{operator}' for field '{field}'"
  | .invalidValue error => s!"Invalid filter value for {error.label}: {error.message}"
  | .invalidRange label => s!"Invalid range for {label}: expected two dates or two numbers"
  | .missingValue label => s!"A filter value is required for {label}"
  | .invalidSort part => s!"Invalid sort specification: {part}"
  | .malformedSort => "JSON parsing error"

end FilterError

end Dossier
