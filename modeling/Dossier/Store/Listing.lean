import Dossier.Store.Query

/-!
# The order of a listing

Records are listed by a sort order, and where that leaves two of them equal, by identifier. A record
without a value for a field comes after all that have one, or before them when the direction is
descending. Values of kinds that do not compare count as equal.
-/

namespace Dossier

/-- An ordering as a direction sees it. -/
def SortDirection.orient : SortDirection → Ordering → Ordering
  | .asc, ordering => ordering
  | .desc, ordering => ordering.swap

namespace Record

def compareField (field : String) (a b : Record) : Ordering :=
  match a.field field, b.field field with
  | some x, some y => (x.compare? y).getD .eq
  | some _, none => .lt
  | none, some _ => .gt
  | none, none => .eq

/-- The order of two records by a list of fields, then by identifier. -/
def compareBy (a b : Record) : List SortSpec → Ordering
  | [] => compare a.id b.id
  | spec :: rest => (spec.direction.orient (compareField spec.field a b)).then (a.compareBy b rest)

end Record

def sorted (sort : List SortSpec) (records : List Record) : List Record :=
  records.mergeSort fun a b => (a.compareBy b sort).isLE

/-- The page of a list of records that a query asks for. -/
def ListQuery.page (q : ListQuery) (records : List Record) : List Record :=
  ((sorted q.sort records).drop q.offset).take q.limit

end Dossier
