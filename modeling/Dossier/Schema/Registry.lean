import Dossier.Dict
import Dossier.Record.SystemField
import Dossier.Schema.Field
import Dossier.Text.Shape

/-!
# The schema

The entities of a running engine, by name. An entity is checked before it is taken in: names are
identifiers, no field has the name of a system field or of another field, and every lookup has a target.
An entity once taken in is never replaced.
-/

namespace Dossier

inductive SchemaError where
  | notFound (entity : String)
  | badEntityName (entity : String)
  | badFieldName (field : String)
  | duplicateField (field entity : String)
  | lookupWithoutTarget (field : String)
  | alreadyExists (entity : String)
  | systemFieldCollision (field : String)
  /-- The text of definitions is not well formed. -/
  | unreadable
  /-- The file of definitions cannot be opened. -/
  | missingFile
deriving DecidableEq

namespace SchemaError

def message : SchemaError → String
  | .notFound entity => s!"Entity not found: {entity}"
  | .badEntityName entity => s!"Invalid entity definition: Invalid entity name format: {entity}"
  | .badFieldName field => s!"Invalid entity definition: Invalid field name format: {field}"
  | .duplicateField field entity =>
    s!"Invalid entity definition: Duplicate field '{field}' in entity '{entity}'"
  | .lookupWithoutTarget field =>
    s!"Invalid entity definition: Lookup field '{field}' has no target entity"
  | .alreadyExists entity => s!"Entity already exists: {entity}"
  | .systemFieldCollision field => s!"Field '{field}' collides with a system field"
  | .unreadable => "YAML parsing error"
  | .missingFile => "I/O error: No such file or directory (os error 2)"

end SchemaError

namespace Entity

/-- Checks one field, given the names of the fields before it. -/
def checkField (entity : String) (seen : List String) (f : Field) : Except SchemaError Unit :=
  if !isIdentifier f.name.toList then .error (.badFieldName f.name)
  else if isSystemField f.name then .error (.systemFieldCollision f.name)
  else if seen.contains f.name then .error (.duplicateField f.name entity)
  else if f.kind = .lookup ∧ f.lookup = none then .error (.lookupWithoutTarget f.name)
  else .ok ()

def checkFields (entity : String) (seen : List String) : List Field → Except SchemaError Unit
  | [] => .ok ()
  | f :: rest =>
    match checkField entity seen f with
    | .ok () => checkFields entity (f.name :: seen) rest
    | .error e => .error e

def check (e : Entity) : Except SchemaError Unit :=
  if !isIdentifier e.name.toList then .error (.badEntityName e.name)
  else checkFields e.name [] e.fields

end Entity

/-- Entities by name. -/
structure Schema where
  entities : Dict String Entity := ∅

namespace Schema

def empty : Schema := {}

def register (s : Schema) (e : Entity) : Except SchemaError Schema :=
  match e.check with
  | .error error => .error error
  | .ok () =>
    if s.entities.contains e.name then .error (.alreadyExists e.name)
    else .ok ⟨s.entities.insert e.name e⟩

def registerAll (s : Schema) : List Entity → Except SchemaError Schema
  | [] => .ok s
  | e :: rest => s.register e >>= fun s => s.registerAll rest

def find (s : Schema) (name : String) : Except SchemaError Entity :=
  match s.entities.get? name with
  | some e => .ok e
  | none => .error (.notFound name)

def names (s : Schema) : List String := s.entities.keys

end Schema

end Dossier
