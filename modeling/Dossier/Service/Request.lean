import Dossier.Filter.Sort

/-!
# List requests

Which records to list: filters, a page and its size, and a sort order in any of its forms.
-/

namespace Dossier

structure ListRequest where
  filters : List Filter := []
  page : Option Int := none
  limit : Option Int := none
  sort : Option Json := none

namespace ListRequest

/-- An integer of 64 bits. -/
def integer? : Json → Option Int := Json.int? (-0x8000000000000000) 0x7FFFFFFFFFFFFFFF

def ofJson? (document : Json) : Option ListRequest := do
  match ← document.parts? ["filters", "page", "limit", "sort"] with
  | [filters, page, limit, sort] =>
    some {
      filters := ← Json.given? [] (Json.list? Filter.ofJson?) filters
      page := ← Json.optional? integer? page
      limit := ← Json.optional? integer? limit
      sort := ← Json.optional? some sort }
  | _ => none

def render (r : ListRequest) : Json :=
  let integer (i : Option Int) : Json := (i.map fun i => Json.number (.int i)).getD .null
  .ofMembers [("filters", .array (r.filters.map Filter.render)), ("page", integer r.page),
    ("limit", integer r.limit), ("sort", r.sort.getD .null)]

end ListRequest

end Dossier
