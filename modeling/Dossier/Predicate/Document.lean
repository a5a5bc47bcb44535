import Dossier.Predicate.Basic

/-!
# Predicates as documents

A predicate is written as a document of fields and operators: `{"age": {"$gte": 18}}`, with
`$and`, `$or` and `$not` for connectives. `never` is an empty `$or`, `always` the empty document.

Patterns are written for `ILIKE`, where a percent sign stands for any text and an underscore for any
character; both, and the backslash, are escaped by a backslash.
-/

namespace Dossier

def Relation.documentKey (r : Relation) : String := "$" ++ r.name

/-- A text as a pattern that matches it alone. -/
def escapeLike : List Char → List Char
  | [] => []
  | c :: rest =>
    if c = '\\' || c = '%' || c = '_' then '\\' :: c :: escapeLike rest else c :: escapeLike rest

/-- The pattern that matches where a mode looks for a text. -/
def likePattern (mode : TextMatch) (pattern : String) : String :=
  let escaped := escapeLike pattern.toList
  String.ofList <|
    match mode with
    | .contains => '%' :: escaped ++ ['%']
    | .startsWith => escaped ++ ['%']
    | .endsWith => '%' :: escaped

namespace Predicate

def fieldDocument (field key : String) (operand : Json) : Json := .object [(field, .object [(key, operand)])]

mutual

def document : Predicate → Json
  | .always => .object []
  | .never => .object [("$or", .array [])]
  | .compare field relation value => fieldDocument field relation.documentKey value.render
  | .among field values negated =>
    fieldDocument field (if negated then "$nin" else "$in") (.array (values.map Value.render))
  | .text field mode pattern => fieldDocument field "$ilike" (.string (likePattern mode pattern))
  | .between field low high => fieldDocument field "$between" (.array [low.render, high.render])
  | .and parts => .object [("$and", .array (documents parts))]
  | .or parts => .object [("$or", .array (documents parts))]
  | .not inner => .object [("$not", inner.document)]

def documents : List Predicate → List Json
  | [] => []
  | part :: rest => part.document :: documents rest

end

end Predicate

end Dossier
