import Dossier.CommandLine.Command
import Dossier.Condition.Compile
import Dossier.Json.Reader
import Dossier.Predicate.Document
import Dossier.Schema.Definitions
import Dossier.Sql.Clause
import Dossier.Sql.Listing
import Dossier.Sql.Order

/-!
# Running commands

A command works on the text of its file of entity definitions, when there is such a file. It prints an
answer, as a text for people or as a document, and may fail; a failed check of a file also prints.

What is looked at first decides which error is told: the file, the entity, the text of an argument, then
what the argument says.
-/

namespace Dossier

inductive CommandError where
  | schema (error : SchemaError)
  | filter (error : FilterError)
  | condition (error : ConditionError)
  /-- The value of an option is not a document. -/
  | malformedOption (name : String)
  /-- A document is not a list of filters. -/
  | notFilters
deriving DecidableEq

def CommandError.message : CommandError → String
  | .schema error => error.message
  | .filter error => error.message
  | .condition error => error.message
  | .malformedOption name => s!"Invalid JSON for --{name}"
  | .notFilters => "The value of --filters is not a list of filters"

/-- What a command prints, and how it fails. -/
structure Outcome where
  output : String
  error : Option CommandError := none

namespace Outcome

def ofLines (lines : List String) : Outcome := { output := String.join (lines.map (· ++ "\n")) }

/-- The outcome of a command that prints only when it succeeds. -/
def ofResult (result : Except CommandError (List String)) : Outcome :=
  match result with
  | .ok lines => ofLines lines
  | .error error => { output := "", error := some error }

end Outcome

namespace Command

/-- The schema in a file, given its text if it can be opened. -/
def schemaIn (text : Option String) : Except SchemaError Schema :=
  match text with
  | some text => Schema.ofYaml text
  | none => .error .missingFile

def entityIn (text : Option String) (name : String) : Except CommandError Entity :=
  (schemaIn text >>= fun schema => schema.find name).mapError .schema

def option (name value : String) : Except CommandError Json :=
  match Json.read? value with
  | some document => .ok document
  | none => .error (.malformedOption name)

def titled (title : String) (document : Json) : List String := [title ++ ":", document.pretty]

/-! ## Schemas -/

/-- A name, filled up with blanks to the width of a column. -/
def column (width : Nat) (name : String) : String :=
  name ++ String.ofList (List.replicate (width - name.length) ' ')

def checkedSchema (asDocument : Bool) (text : Option String) (file : String) : Outcome :=
  match schemaIn text with
  | .error error =>
    let document := Json.ofMembers [("success", .bool false), ("error", .string error.message),
      ("error_code", .string "SCHEMA_INVALID")]
    { output := if asDocument then document.pretty ++ "\n" else "", error := some (.schema error) }
  | .ok schema =>
    let entities := schema.entities.entries.map fun (entry : String × Entity) => entry.2
    let message := s!"{file} is valid ({entities.length} entities)"
    if asDocument then
      let rows := entities.map fun e =>
        Json.ofMembers [("name", .string e.name), ("fields", .number (.int e.fields.length))]
      .ofLines [(Json.ofMembers [("success", .bool true), ("message", .string message),
        ("entities", .array rows)]).pretty]
    else
      .ofLines (entities.map (fun e => s!"{column 24 e.name} {e.fields.length} fields") ++ ["✓ " ++ message])

def fieldSummary (f : Field) : Json :=
  .ofMembers [("name", .string f.name), ("label", .string f.displayLabel), ("type", .string f.kind.name),
    ("required", .bool f.required)]

def listedFields (asDocument : Bool) (entity : Entity) : List String :=
  let fields := Json.array (entity.fields.map fieldSummary)
  if asDocument then [(Json.ofMembers [("fields", fields)]).pretty] else titled entity.name fields

/-! ## Filters and conditions -/

/-- The list of filters in the value of an option. -/
def filtersIn (value : String) : Except CommandError (List Filter) :=
  option "filters" value >>= fun document =>
    match Json.list? Filter.ofJson? document with
    | some filters => .ok filters
    | none => .error .notFilters

/-- The sort order in the value of an option: a document, or else the text as it stands. -/
def sortIn (value : Option String) : Except CommandError (List SortSpec) :=
  match value with
  | some value => (SortSpec.readAll ((Json.read? value).getD (.string value))).mapError .filter
  | none => .ok []

def compiledFilters (asDocument : Bool) (entity : Entity) (filters : String) (sort : Option String) :
    Except CommandError (List String) := do
  let filters ← filtersIn filters
  let predicate ← (Filter.compileAll entity filters).mapError .filter
  let sort ← sortIn sort
  let statement := Sql.whereClause predicate
  let order := (Sql.orderClause entity sort).text
  let params := statement.params.map Sql.Param.listed
  if asDocument then
    .ok [(Json.ofMembers [("where", predicate.document), ("sql", .string statement.text),
      ("order", .string order), ("params", .array (params.map .string))]).pretty]
  else
    .ok (titled "Where" predicate.document ++ [s!"SQL: {statement.text}"] ++
      (if order.isEmpty then [] else [s!"Order: {order}"]) ++
      params.zipIdx.map fun (param, i) => s!"  ${i + 1} = {param}")

def compiledCondition (asDocument : Bool) (now : Instant) (entity : Entity) (condition tenant user : String)
    (roles : List String) : Except CommandError (List String) := do
  let document ← option "condition" condition
  let some condition := Condition.ofJson? document | .error (.condition .malformed)
  let vars := Variables.ofCaller ⟨tenant, user, ∅⟩ roles now
  let predicate ← (condition.compile vars (some entity)).mapError .condition
  let statement := (Sql.whereClause predicate).text
  if asDocument then
    .ok [(Json.ofMembers [("where", predicate.document), ("sql", .string statement)]).pretty]
  else .ok (titled "Where" predicate.document ++ [s!"SQL: {statement}"])

/-- Runs a command at a time, given the text of its file if it can be opened. -/
def run (command : Command) (asDocument : Bool) (now : Instant) (text : Option String) : Outcome :=
  match command with
  | .checkSchema file => checkedSchema asDocument text file
  | .listFields _ entity => .ofResult ((entityIn text entity).map (listedFields asDocument))
  | .compileFilters _ entity filters sort =>
    .ofResult (entityIn text entity >>= fun entity => compiledFilters asDocument entity filters sort)
  | .compileCondition _ entity condition tenant user roles =>
    .ofResult (entityIn text entity >>= fun entity =>
      compiledCondition asDocument now entity condition tenant user roles)

end Command

def Invocation.run (invocation : Invocation) (now : Instant) (text : Option String) : Outcome :=
  invocation.command.run invocation.asDocument now text

end Dossier
