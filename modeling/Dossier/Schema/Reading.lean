import Dossier.Json.Structure
import Dossier.Schema.Field

/-!
# Entity definitions in documents

The document form of definitions, read back. A field may leave out its label, which is then empty, and
its options and target.
-/

namespace Dossier

/-- The field of a target that shows its records when none is named. -/
def LookupTarget.defaultLabelField : String := "name"

namespace LookupTarget

def ofJson? (document : Json) : Option LookupTarget := do
  match ← document.parts? ["entity", "label_field"] with
  | [entity, labelField] =>
    some {
      entity := ← Json.needed? Json.text? entity
      labelField := ← Json.given? defaultLabelField Json.text? labelField }
  | _ => none

end LookupTarget

namespace Field

def ofJson? (document : Json) : Option Field := do
  match ← document.parts? ["name", "label", "type", "required", "options", "lookup"] with
  | [name, label, kind, required, options, lookup] =>
    some {
      name := ← Json.needed? Json.text? name
      label := ← Json.given? "" Json.text? label
      kind := FieldKind.ofName (← Json.needed? Json.choice? kind)
      required := ← Json.given? false Json.bool? required
      options := ← Json.optional? (Json.list? Json.text?) options
      lookup := ← Json.optional? LookupTarget.ofJson? lookup }
  | _ => none

end Field

namespace Entity

def ofJson? (document : Json) : Option Entity := do
  match ← document.parts? ["name", "label", "fields"] with
  | [name, label, fields] =>
    some {
      name := ← Json.needed? Json.text? name
      label := ← Json.optional? Json.text? label
      fields := ← Json.needed? (Json.list? Field.ofJson?) fields }
  | _ => none

end Entity

end Dossier
