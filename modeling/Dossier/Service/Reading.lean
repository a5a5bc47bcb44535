import Dossier.Filter.Compile
import Dossier.Service.Populate
import Dossier.Service.Request

/-!
# Reading records

`get` answers one record, `list` a page of them. Both show only records that the caller's row condition
admits and only fields that the caller may read. Filters are let through only on fields that the caller
may filter on.
-/

namespace Dossier

structure Page where
  rows : List Json
  /-- How many records there are on all pages. -/
  total : Nat
  /-- The number of this page, from one. -/
  number : Nat
  limit : Nat

namespace Page

def count (p : Page) : Nat := (p.total + p.limit - 1) / p.limit

def render (p : Page) : Json :=
  let nat (n : Nat) : Json := .number (.int n)
  .ofMembers [("data", .array p.rows),
    ("meta", .ofMembers [("total", nat p.total), ("page", nat p.number), ("limit", nat p.limit),
      ("pages", nat p.count)])]

end Page

namespace ListRequest

/-- Pages, their sizes and offsets are below this bound. -/
def bound : Nat := 0x100000000

/-- The number of the page: the first, unless a later one is asked for. -/
def pageNumber (r : ListRequest) : Nat :=
  match r.page with
  | some page => if 1 ≤ page then min page.toNat (bound - 1) else 1
  | none => 1

/-- The size of the page: the default unless one is asked for, and never above the maximum. -/
def pageSize (pages : PageSettings) (r : ListRequest) : Nat :=
  let wanted :=
    match r.limit with
    | some limit => if 1 ≤ limit then limit.toNat else pages.defaultLimit
    | none => pages.defaultLimit
  max (min wanted pages.maxLimit) 1

def offset (pages : PageSettings) (r : ListRequest) : Nat :=
  min ((r.pageNumber - 1) * r.pageSize pages) (bound - 1)

/-- The order asked for; the latest records first when there is none. -/
def order (r : ListRequest) : Except FilterError (List SortSpec) :=
  match r.sort with
  | none => .ok [⟨"created_at", .desc⟩]
  | some sort =>
    (SortSpec.readAll sort).map fun
      | [] => [⟨"created_at", .desc⟩]
      | specs => specs

end ListRequest

namespace Service

/-- Shows one record of a live entity. -/
def get (s : Service) (ctx : Context) (entity id : String) : Call Json := do
  let (entity, access) ← s.enter ctx entity
  let forced ← .done (forced ctx access entity .read)
  let mask ← .done (access.readMask entity)
  let id ← .done (recordId entity id)
  let r ← fetchOne entity id (reachable ctx entity false id forced)
  let views ← s.populate ctx entity [r]
  return shown mask (views.flatMap Shown.members)

def listQuery (s : Service) (ctx : Context) (access : Access) (entity : Entity) (request : ListRequest) :
    Except Fault (FieldMask × ListQuery) := do
  let permission ← access.authorize entity.name .read
  permission.checkFilters request.filters
  let filters ← (Filter.compileAll entity request.filters).mapError Fault.ofFilterError
  let forced ← permission.rowPredicate (ctx.variables access) entity
  let mask ← access.readMask entity
  let sort ← request.order.mapError Fault.ofFilterError
  return (mask, {
    wanted := (scope ctx.tenant entity.name).both filters
    forced
    limit := request.pageSize s.pages
    offset := request.offset s.pages
    sort })

def list (s : Service) (ctx : Context) (entity : String) (request : ListRequest) : Call Page := do
  let (entity, access) ← s.enter ctx entity
  let (mask, query) ← .done (s.listQuery ctx access entity request)
  let total ← Call.count entity query.predicate
  let records ← Call.list entity query
  let views ← s.populate ctx entity records
  return {
    rows := views.map fun v => shown mask v.members
    total
    number := request.pageNumber
    limit := query.limit }

end Service

end Dossier
