import Dossier.Yaml.Resolution

/-!
# Structures in YAML

A structure is a mapping with its parts under their names. Names that it does not know are passed over,
but a known one may stand only once. Nothing at all, where a collection is wanted, is an empty one.

What a scalar means depends on what is wanted: where a text is wanted every scalar is one, so that `5` and
`null` are the texts they are written as.
-/

namespace Dossier

namespace Yaml

namespace Node

def isLeftOut : Node → Bool
  | .scalar _ .plain "" => true
  | _ => false

/-- The parts of a structure in the order of their names, where they are given. -/
def parts? (names : List String) (node : Node) : Option (List (Option Node)) :=
  match node with
  | .mapping _ members => do
    let members ← members.mapM fun (member : Node × Node) => member.1.text?.map (·, member.2)
    names.mapM fun name =>
      match members.filter fun (member : String × Node) => member.1 == name with
      | [] => some none
      | [(_, value)] => some (some value)
      | _ => none
  | node => if node.isLeftOut then some (names.map fun _ => none) else none

def list? {α : Type} (read : Node → Option α) (node : Node) : Option (List α) :=
  match node with
  | .sequence _ items => items.mapM read
  | node => if node.isLeftOut then some [] else none

def bool? : Node → Option Bool
  | .scalar tag style text =>
    if style = .plain || (style = .literal && tag = some (.core "bool")) then truth? text else none
  | _ => none

/-- The name of a choice without content, as a text or as a tag over nothing. -/
def choice? : Node → Option String
  | .scalar (some (.own name)) style text =>
    if style = .plain && (text.isEmpty || isNull text) then some name else none
  | node => node.text?

/-- Null for nothing, else what `read` makes of a node. -/
def nullable? {α : Type} (read : Node → Option α) (node : Node) : Option (Option α) :=
  match node with
  | .scalar (some (.core "null")) .plain text => if isNull text then some none else none
  | .scalar none .plain text => if text.isEmpty || isNull text then some none else (read node).map some
  | _ => (read node).map some

end Node

end Yaml

end Dossier
