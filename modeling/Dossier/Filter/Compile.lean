import Dossier.Filter.Basic
import Dossier.Predicate.Basic
import Dossier.Value.Conversion

/-!
# Filters as predicates

Filters are compiled against an entity: the value of each is converted by the field it names, so that
the predicate compares values of one kind. A field the entity does not declare is compared with the
value as it comes. The first filter that is wrong decides the error.
-/

namespace Dossier

namespace Filter

def converted (f : Field) (raw : Json) : Except FilterError (Option Value) :=
  (f.convert raw).mapError .invalidValue

/-- The field by which single values are converted: a multiselect is matched one option at a time. -/
def elementField (f : Field) : Field := if f.kind = .multiselect then { f with kind := .select } else f

/-- The value of a document on one element of a field, null when it is absent. -/
def elementValue (f : Field) (raw : Json) : Except FilterError Value :=
  (converted (elementField f) raw).map fun value => value.getD .null

def presentValue (f : Field) (raw : Json) : Except FilterError Value :=
  converted f raw >>= fun value =>
    match value with
    | some value => .ok value
    | none => .error (.missingValue f.displayLabel)

def elementValues (f : Field) (raw : Json) : Except FilterError (List Value) :=
  (raw.splitValues.mapM fun item => converted (elementField f) item).map fun values =>
    values.filterMap id

def textPattern (f : Field) (raw : Json) : Except FilterError String :=
  match raw with
  | .null => .error (.missingValue f.displayLabel)
  | raw =>
    match raw.asText? with
    | some pattern => .ok pattern
    | none => .error (.invalidValue (.of f (.wrongType .text)))

/-- A search inside a text. Fields that hold no texts are compared for equality instead. -/
def compileText (f : Field) (mode : TextMatch) (raw : Json) : Except FilterError Predicate :=
  if f.kind.isTextLike || f.kind = .multiselect then
    (textPattern f raw).map fun pattern => .text f.name mode pattern
  else (elementValue f raw).map fun value => .eq f.name value

/-- The two ends in a document: an array of two, or a text with one comma. -/
def rangeParts (raw : Json) : List Json :=
  match raw with
  | .array items => items
  | .string s => (commaSeparated s).map fun part => .string (trimmed part)
  | _ => []

def compileBetween (f : Field) (raw : Json) : Except FilterError Predicate :=
  if raw.isNull then .error (.missingValue f.displayLabel)
  else
    match rangeParts raw with
    | [low, high] =>
      match low.asInstant?, high.asInstant? with
      | some low, some high => .ok (.between f.name (.date low) (.date high))
      | _, _ =>
        match low.asNumber?, high.asNumber? with
        | some low, some high => .ok (.between f.name (.number (.finite low)) (.number (.finite high)))
        | _, _ => .error (.invalidRange f.displayLabel)
    | _ => .error (.invalidRange f.displayLabel)

def compileDeclared (f : Field) (operator : FilterOp) (raw : Json) : Except FilterError Predicate :=
  match operator with
  | .eq => (elementValue f raw).map fun value => .compare f.name .eq value
  | .ne => (elementValue f raw).map fun value => .compare f.name .ne value
  | .gt => (presentValue f raw).map fun value => .compare f.name .gt value
  | .gte => (presentValue f raw).map fun value => .compare f.name .gte value
  | .lt => (presentValue f raw).map fun value => .compare f.name .lt value
  | .lte => (presentValue f raw).map fun value => .compare f.name .lte value
  | .among => (elementValues f raw).map fun values => .among f.name values false
  | .notAmong => (elementValues f raw).map fun values => .among f.name values true
  | .contains => compileText f .contains raw
  | .startsWith => compileText f .startsWith raw
  | .endsWith => compileText f .endsWith raw
  | .between => compileBetween f raw

/-- The names under which filters speak of the record identifier. -/
def namesId (field : String) : Bool := field == "id" || field == "_id"

/-- The identifiers in a document, those that are none left out. -/
def idValues (raw : Json) : List Value :=
  (raw.splitValues.filterMap Json.asRecordId?).map fun id => .ref id.text

/-- A filter on the record identifier. What is no identifier equals no record's. -/
def compileId (f : Filter) : Except FilterError Predicate :=
  match f.operator with
  | .eq =>
    match f.value.asRecordId? with
    | some id => .ok (.eq "id" (.ref id.text))
    | none => .ok (.among "id" [] false)
  | .ne =>
    match f.value.asRecordId? with
    | some id => .ok (.ne "id" (.ref id.text))
    | none => .ok .always
  | .among => .ok (.among "id" (idValues f.value) false)
  | .notAmong => .ok (.among "id" (idValues f.value) true)
  | other => .error (.unsupportedOperator f.field other.name)

def compile (entity : Entity) (f : Filter) : Except FilterError Predicate :=
  if namesId f.field then compileId f
  else
    match entity.find? f.field with
    | some field => compileDeclared field f.operator f.value
    | none => .ok (.eq f.field (.ofJson f.value))

/-- The conjunction of a list of filters. -/
def compileAll (entity : Entity) (filters : List Filter) : Except FilterError Predicate :=
  (filters.mapM (compile entity)).map Predicate.all

end Filter

end Dossier
