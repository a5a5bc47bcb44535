import Dossier.Schema.Registry
import Dossier.Schema.Reading
import Dossier.Yaml.Structure

/-!
# Entity definitions in YAML

A text of definitions is a sequence of entities, taken into an empty schema in order. An empty text
defines none.
-/

namespace Dossier

namespace LookupTarget

def ofYaml? (node : Yaml.Node) : Option LookupTarget := do
  match ← node.parts? ["entity", "label_field"] with
  | [entity, labelField] =>
    some {
      entity := ← entity >>= Yaml.Node.text?
      labelField := ← (labelField.map Yaml.Node.text?).getD (some defaultLabelField) }
  | _ => none

end LookupTarget

namespace Field

def ofYaml? (node : Yaml.Node) : Option Field := do
  match ← node.parts? ["name", "label", "type", "required", "options", "lookup"] with
  | [name, label, kind, required, options, lookup] =>
    some {
      name := ← name >>= Yaml.Node.text?
      label := ← (label.map Yaml.Node.text?).getD (some "")
      kind := FieldKind.ofName (← kind >>= Yaml.Node.choice?)
      required := ← (required.map Yaml.Node.bool?).getD (some false)
      options := ← (options.map (Yaml.Node.nullable? (Yaml.Node.list? Yaml.Node.text?))).getD (some none)
      lookup := ← (lookup.map (Yaml.Node.nullable? LookupTarget.ofYaml?)).getD (some none) }
  | _ => none

end Field

namespace Entity

def ofYaml? (node : Yaml.Node) : Option Entity := do
  match ← node.parts? ["name", "label", "fields"] with
  | [name, label, fields] =>
    some {
      name := ← name >>= Yaml.Node.text?
      label := ← (label.map (Yaml.Node.nullable? Yaml.Node.text?)).getD (some none)
      fields := ← fields >>= Yaml.Node.list? Field.ofYaml? }
  | _ => none

def listOfYaml? (text : String) : Option (List Entity) :=
  (Yaml.Node.read? text).bind fun node => (node.map (Yaml.Node.list? ofYaml?)).getD (some [])

end Entity

namespace Schema

def ofYaml (text : String) : Except SchemaError Schema :=
  match Entity.listOfYaml? text with
  | some entities => Schema.empty.registerAll entities
  | none => .error .unreadable

end Schema

end Dossier
