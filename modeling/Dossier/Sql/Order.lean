import Dossier.Filter.Sort
import Dossier.Sql.Operand

/-!
# Sort orders in SQL

System fields sort by their columns, declared fields by their text in the document, cast where the field
holds numbers, amounts or dates.
-/

namespace Dossier

namespace Sql

def directionWord : SortDirection → String
  | .asc => "ASC"
  | .desc => "DESC"

/-- The type a field of a kind sorts as, where that is not text. -/
def sortType? : FieldKind → Option SqlType
  | .number => some .float8
  | .currency => some .numeric
  | .date => some .timestamptz
  | _ => none

def sortOperand (entity : Entity) (field : String) : Operand :=
  match SystemColumn.ofField? field with
  | some column => .column column
  | none => .dataText field ((entity.find? field).bind fun f => sortType? f.kind)

def sortTerm (entity : Entity) (spec : SortSpec) : Statement :=
  (sortOperand entity spec.field).statement ++ [.fixed s!" {directionWord spec.direction}"]

/-- The clause for a sort order; nothing when there is nothing to sort by. -/
def orderClause (entity : Entity) (sort : List SortSpec) : Statement :=
  match sort with
  | [] => []
  | specs => .fixed "ORDER BY " :: Statement.separated ", " (specs.map (sortTerm entity))

end Sql

end Dossier
