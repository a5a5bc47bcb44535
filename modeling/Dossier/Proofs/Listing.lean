import Dossier.Proofs.Order
import Dossier.Proofs.Pages

/-!
# Listing is exact

A list request shows a slice of one list: the records that it is about (`ListRequest.Wants`) in the
order that it asks for. This list is the same for all pages and does not hang on the order in which
the store walks its records, so page after page gives each record once.

**What is listed.** The predicates of the query, those of the filters and that of the permission,
together say no more and no less than `Wants` (`mem_matching_iff`).

**How it is shown.** Every row stands for its record (`Record.ShownAs`): under each name that may
be read it has what the record has, but for references, which may be resolved.

Main results: `list_serves_slice` and `list_exact`.
-/

namespace Dossier

/-- The records that a list request is about: live ones of the tenant and the entity, within the row
condition of the permission, that pass every filter. -/
structure ListRequest.Wants (request : ListRequest) (ctx : Context) (entity : Entity)
    (condition : Predicate) (r : Record) : Prop where
  tenant : r.tenant = ctx.tenant
  belongs : r.entity = entity.name
  live : r.deleted = false
  permitted : r.meets condition = true
  filtered : ∀ f ∈ request.filters, ∃ p, f.compile entity = .ok p ∧ r.meets p = true

structure Record.ShownAs (entity : Entity) (mask : FieldMask) (r : Record) (row : Json) : Prop where
  /-- The row is an object with the identifier of the record, and under every other name what the
  record has there if that may be read; only references can be replaced by what they refer to. -/
  object : ∃ members, row = .object members ∧ Entries.get? "id" members = some (.string r.id.text) ∧
    ∀ name, (∀ f ∈ entity.fields, f.kind.isReference = true → f.name ≠ name) →
      Entries.get? name members =
        if isSystemField name || mask.canRead name then Entries.get? name r.members else none

/-! ## What is listed -/

/-- A conjunction of filters holds of a record when each filter does. -/
theorem Filter.meets_compileAll {entity : Entity} {filters : List Filter} {p : Predicate}
    (h : Filter.compileAll entity filters = .ok p) (r : Record) :
    r.meets p = true ↔ ∀ f ∈ filters, ∃ p, f.compile entity = .ok p ∧ r.meets p = true := by
  obtain ⟨ps, hps, rfl⟩ := map_ok h
  rw [r.meets_all, List.all_eq_true]
  constructor
  · intro hmeets f hf
    obtain ⟨p, hp, hcompile⟩ := exists_mem_of_mapM hps hf
    exact ⟨p, hcompile, hmeets p hp⟩
  · intro hfilters p hp
    obtain ⟨f, hf, hcompile⟩ := exists_of_mem_mapM hps hp
    obtain ⟨p', hcompile', hmeets⟩ := hfilters f hf
    cases hcompile.symm.trans hcompile'
    exact hmeets

/-- The order of a request: what it asks for, or the latest records first. -/
theorem ListRequest.order_eq {request : ListRequest} {specs : List SortSpec}
    (h : SortSpec.readAll (request.sort.getD .null) = .ok specs) :
    request.order = .ok (if specs = [] then [⟨"created_at", .desc⟩] else specs) := by
  unfold ListRequest.order
  cases hsort : request.sort with
  | none =>
    rw [hsort] at h
    cases h
    rfl
  | some sort =>
    rw [hsort] at h
    show (SortSpec.readAll sort).map _ = _
    rw [show SortSpec.readAll sort = .ok specs from h]
    cases specs <;> rfl

namespace Service

variable {s : Service} {ctx : Context} {entity : Entity} {access : Access} {permission : Permission}
  {request : ListRequest} {filters condition : Predicate} {sort : List SortSpec}

theorem listQuery_eq (hauth : access.authorize entity.name .read = .ok permission)
    (hallowed : permission.checkFilters request.filters = .ok ())
    (hfilters : Filter.compileAll entity request.filters = .ok filters)
    (hcondition : permission.rowPredicate (ctx.variables access) entity = .ok condition)
    (hsort : request.order = .ok sort) :
    s.listQuery ctx access entity request = .ok (.ofPermission entity permission, {
      wanted := (scope ctx.tenant entity.name).both filters
      forced := condition
      limit := request.pageSize s.pages
      offset := request.offset s.pages
      sort }) := by
  unfold listQuery Access.readMask
  rw [hauth, hfilters, hsort]
  show (permission.checkFilters request.filters >>= fun _ => _) = _
  rw [hallowed]
  show (permission.rowPredicate (ctx.variables access) entity >>= fun _ => _) = _
  rw [hcondition]
  rfl

theorem listQuery_ok {mask : FieldMask} {query : ListQuery}
    (h : s.listQuery ctx access entity request = .ok (mask, query)) :
    ∃ permission filters condition sort, access.authorize entity.name .read = .ok permission ∧
      permission.checkFilters request.filters = .ok () ∧
      Filter.compileAll entity request.filters = .ok filters ∧
      permission.rowPredicate (ctx.variables access) entity = .ok condition ∧
      request.order = .ok sort ∧ mask = .ofPermission entity permission ∧
      query = {
        wanted := (scope ctx.tenant entity.name).both filters
        forced := condition
        limit := request.pageSize s.pages
        offset := request.offset s.pages
        sort } := by
  obtain ⟨permission, hauth, h⟩ := bind_ok h
  obtain ⟨_, hallowed, h⟩ := bind_ok h
  obtain ⟨filters, hfilters, h⟩ := bind_ok h
  obtain ⟨condition, hcondition, h⟩ := bind_ok h
  obtain ⟨mask', hmask, h⟩ := bind_ok h
  obtain ⟨sort, hsort, h⟩ := bind_ok h
  cases h
  rw [Access.readMask, hauth] at hmask
  cases hmask
  refine ⟨permission, filters, condition, sort, hauth, hallowed, ?_, hcondition, ?_, rfl, rfl⟩
  · cases hcompile : Filter.compileAll entity request.filters <;> rw [hcompile] at hfilters <;>
      cases hfilters
    rfl
  · cases horder : request.order <;> rw [horder] at hsort <;> cases hsort
    rfl

/-- **The query singles out the records that the request is about.** -/
theorem mem_matching_iff (hfilters : Filter.compileAll entity request.filters = .ok filters)
    (store : Store) (r : Record) :
    r ∈ store.matching entity (((scope ctx.tenant entity.name).both filters).both condition) ↔
      (∃ id, store.find? id = some r) ∧ request.Wants ctx entity condition r := by
  unfold Store.matching
  rw [List.mem_filter, Store.mem_values]
  refine and_congr_right fun _ => ?_
  unfold scope
  rw [Store.concerns_iff, r.meets_both, r.meets_both, r.meets_scopeWhere]
  simp only [Bool.and_eq_true, beq_iff_eq]
  rw [Filter.meets_compileAll hfilters]
  constructor
  · rintro ⟨-, ⟨⟨htenant, hentity, hlive⟩, hfiltered⟩, hpermitted⟩
    exact ⟨htenant, hentity, hlive, hpermitted, hfiltered⟩
  · rintro ⟨htenant, hentity, hlive, hpermitted, hfiltered⟩
    exact ⟨hentity, ⟨⟨htenant, hentity, hlive⟩, hfiltered⟩, hpermitted⟩

end Service

/-! ## How it is shown -/

/-- Under a key of the data, an object shows the data, and else what the system keeps. -/
theorem Record.get?_members (r : Record) (key : String) :
    Entries.get? key r.members =
      ((r.data.get? key).map Value.render <|> Entries.get? key r.systemMembers.reverse) := by
  unfold members
  rw [Entries.get?_ofList, List.reverse_append, Entries.get?_append,
    r.dataMembers.sorted.get?_reverse]
  exact congrArg (· <|> _) (Dict.get?_mapEntries ..)

/-- Under a key that is not the system's an object shows the data. -/
theorem Record.get?_members_data (r : Record) {key : String} (h : isSystemField key = false) :
    Entries.get? key r.members = (r.data.get? key).map Value.render := by
  have hsystem : ∀ m ∈ r.systemMembers, isSystemField m.1 = true := by
    unfold systemMembers
    cases r.deletedAt <;> cases r.deletedBy <;> cases r.approval <;>
      simp [isSystemField, systemFields]
  have hnone : Entries.get? key r.systemMembers.reverse = none := by
    refine Entries.get?_eq_none.2 fun m hm hkey => ?_
    have hm := hsystem m (List.mem_reverse.1 hm)
    rw [hkey, h] at hm
    cases hm
  rw [r.get?_members, hnone]
  cases r.data.get? key <;> rfl

theorem Record.get?_members_id {r : Record} (h : r.data.get? "id" = none) :
    Entries.get? "id" r.members = some (.string r.id.text) := by
  rw [r.get?_members, h]
  unfold Record.systemMembers
  cases r.deletedAt <;> cases r.deletedBy <;> cases r.approval <;> simp [Entries.get?]

theorem Entity.Fits.get?_id {e : Entity} (he : e.Sound) {data : Dict String Value}
    (h : e.Fits data) :
    data.get? "id" = none := by
  cases hget : data.get? "id" with
  | none => rfl
  | some v =>
    obtain ⟨f, hf, hname⟩ := h.declared "id" v hget
    have hsystem := he.notSystem f hf
    rw [hname] at hsystem
    cases hsystem

/-- What a mask lets through of the members of an object. -/
theorem FieldMask.get?_apply (mask : FieldMask) (key : String) (members : List (String × Json)) :
    Entries.get? key (mask.apply members) =
      if isSystemField key || mask.canRead key then Entries.get? key members else none :=
  Entries.get?_filter_key (fun key => isSystemField key || mask.canRead key) key members

/-- **A view that a mask lets through stands for its record.** -/
theorem Shown.Of.shownAs {e : Entity} (he : e.Sound) {r : Record} (hr : e.Fits r.data) {v : Shown}
    (hv : v.Of e r) (mask : FieldMask) : r.ShownAs e mask (Service.shown mask v.members) where
  object := by
    have hid : ∀ f ∈ e.fields, f.kind.isReference = true → f.name ≠ "id" := by
      intro f hf _ hname
      have hsystem := he.notSystem f hf
      rw [hname] at hsystem
      cases hsystem
    refine ⟨mask.apply v.members, rfl, ?_, fun name hname => ?_⟩
    · rw [mask.get?_apply, hv.members "id" hid, Record.get?_members_id (hr.get?_id he)]
      rfl
    · rw [mask.get?_apply, hv.members name hname]

namespace Service

variable {s : Service} {ctx : Context} {name : String} {entity : Entity} {access : Access}
  {permission : Permission} {request : ListRequest} {filters condition : Predicate}
    {sort : List SortSpec}

theorem serve_enter {e : Surroundings} {store : Store} (hfind : s.schema.find name = .ok entity)
    (haccess : e.access ctx.toCaller = .ok access) :
    (s.enter ctx name).serve e store = (.ok (entity, access), store) := by
  unfold enter
  rw [hfind]
  show ((Call.access ctx.toCaller).bind _).serve e store = _
  show ((Call.done (e.access ctx.toCaller)).bind _).serve e store = _
  rw [haccess]
  rfl

theorem serve_enter_refused {e : Surroundings} {store : Store} {fault : Fault}
    (hfind : s.schema.find name = .ok entity) (haccess : e.access ctx.toCaller = .error fault) :
    (s.enter ctx name).serve e store = (.error fault, store) := by
  unfold enter
  rw [hfind]
  show ((Call.access ctx.toCaller).bind _).serve e store = _
  show ((Call.done (e.access ctx.toCaller)).bind _).serve e store = _
  rw [haccess]
  rfl

theorem serve_count (e : Surroundings) (store : Store) (entity : Entity) (p : Predicate) :
    (Call.count entity p).serve e store = (.ok (store.matching entity p).length, store) := by
  show (Call.ofStore (e.answer store (.count entity p)).1).serve e _ = _
  rw [e.answer_count]
  rfl

/-- The page that a query gets does not hang on the order in which the store walks its records. -/
theorem page_eq_of_typed (hs : s.schema.Registered) {store : Store} (hstore : store.Typed s.schema)
    (hfind : s.schema.find name = .ok entity) (e : Surroundings) (query : ListQuery) :
    query.page ((e.order store.records.values).filter (Store.concerns entity query.predicate)) =
      query.page (store.matching entity query.predicate) := by
  obtain ⟨hfits, hids⟩ := hstore.fits_of_matching (p := query.predicate) (hs.find_name hfind)
  have hperm : ((e.order store.records.values).filter (Store.concerns entity query.predicate)).Perm
      (store.matching entity query.predicate) := (e.order_perm _).filter _
  unfold ListQuery.page
  rw [sorted_eq_of_perm query.sort (hs.sound hfind).2 hfits hids hperm]

theorem serve_page (hs : s.schema.Registered) {store : Store} (hstore : store.Typed s.schema)
    (hfind : s.schema.find name = .ok entity) (e : Surroundings) (query : ListQuery) :
    (Call.list entity query).serve e store =
      (.ok (query.page (store.matching entity query.predicate)), store) := by
  rw [← page_eq_of_typed hs hstore hfind e query]
  rfl

/-- Resolving references succeeds and leaves the store as it is. -/
theorem serve_populate (s : Service) (ctx : Context) (entity : Entity) (records : List Record)
    (e : Surroundings) (store : Store) : ∃ views, List.Forall₂ (Shown.Of entity) records views ∧
      (s.populate ctx entity records).serve e store = (.ok views, store) := by
  have hreads : ReadsReferences s ctx Demand.ReadOnly := ⟨fun _ _ _ _ => trivial, fun _ => trivial⟩
  obtain ⟨hstore, hviews⟩ := (populate_obeys hreads entity records).serve_readOnly e store
  cases hresult : ((s.populate ctx entity records).serve e store).1 with
  | ok views =>
    rw [hresult] at hviews
    exact ⟨views, hviews, Prod.ext hresult hstore⟩
  | error fault =>
    rw [hresult] at hviews
    exact hviews.elim

/-- What comes of a list request that is let through, given what it lists and how this is shown. -/
theorem serve_list {mask : FieldMask} {query : ListQuery} {records : List Record}
    {views : List Shown} {e : Surroundings} {store : Store}
    (haccess : e.access ctx.toCaller = .ok access) (hfind : s.schema.find name = .ok entity)
    (hquery : s.listQuery ctx access entity request = .ok (mask, query))
    (hpage : (Call.list entity query).serve e store = (.ok records, store))
    (hviews : (s.populate ctx entity records).serve e store = (.ok views, store)) :
    (s.list ctx name request).serve e store =
      (.ok ⟨views.map fun v => shown mask v.members, (store.matching entity query.predicate).length,
        request.pageNumber, query.limit⟩, store) := by
  unfold list
  rw [Call.serve_bind_ok (serve_enter hfind haccess)]
  show ((Call.done (s.listQuery ctx access entity request)).bind _).serve e store = _
  rw [hquery]
  show ((Call.count entity query.predicate) >>= _).serve e store = _
  rw [Call.serve_bind_ok (serve_count e store entity query.predicate), Call.serve_bind_ok hpage,
    Call.serve_bind_ok hviews]
  rfl

/-- **A list request is served a slice of the sorted records that match**, whatever the order in
which the store walks its records. -/
theorem list_serves_slice (request : ListRequest) (hs : s.schema.Registered) {store : Store}
    (hstore : store.Typed s.schema) {e : Surroundings}
    (haccess : e.access ctx.toCaller = .ok access) (hfind : s.schema.find name = .ok entity)
    (hauth : access.authorize entity.name .read = .ok permission)
    (hallowed : permission.checkFilters request.filters = .ok ())
    (hfilters : Filter.compileAll entity request.filters = .ok filters)
    (hcondition : permission.rowPredicate (ctx.variables access) entity = .ok condition)
    (hsort : request.order = .ok sort) {records : List Record}
    (hrecords : records = sorted sort
      (store.matching entity (((scope ctx.tenant entity.name).both filters).both condition)))
    (hlength : records.length < ListRequest.bound) :
    ∃ rows, List.Forall₂ (Record.ShownAs entity (.ofPermission entity permission))
        (ListRequest.slice request.pageNumber (request.pageSize s.pages) records) rows ∧
      (s.list ctx name request).serve e store =
        (.ok ⟨rows, records.length, request.pageNumber, request.pageSize s.pages⟩, store) := by
  have hsound := (hs.sound hfind).2
  have hquery := listQuery_eq (s := s) hauth hallowed hfilters hcondition hsort
  generalize hq : (ListQuery.mk _ _ _ _ _) = query at hquery
  have hpage := serve_page hs hstore hfind e query
  have hlist : query.page (store.matching entity query.predicate) =
      ListRequest.slice request.pageNumber (request.pageSize s.pages) records := by
    rw [← request.slice_offset s.pages hlength, hrecords, ← hq]
    rfl
  have hcount : (store.matching entity query.predicate).length = records.length := by
    rw [hrecords, (sorted_perm ..).length_eq, ← hq]
    rfl
  rw [hlist] at hpage
  obtain ⟨views, hviews, hpopulate⟩ := serve_populate s ctx entity
    (ListRequest.slice request.pageNumber (request.pageSize s.pages) records) e store
  have hfits : ∀ r ∈ ListRequest.slice request.pageNumber (request.pageSize s.pages) records,
      entity.Fits r.data := by
    intro r hr
    have hsorted := (List.drop_sublist ..).subset ((List.take_sublist ..).subset hr)
    rw [hrecords] at hsorted
    exact (hstore.fits_of_matching (hs.find_name hfind)).1 r ((sorted_perm ..).mem_iff.1 hsorted)
  refine ⟨views.map fun v => shown (.ofPermission entity permission) v.members, ?_, ?_⟩
  · rw [List.forall₂_map_right_iff]
    have hboth := (List.forall₂_and_left _ _).2 ⟨hfits, hviews⟩
    exact hboth.imp fun r v h => h.2.shownAs hsound h.1 _
  · rw [serve_list haccess hfind hquery hpage hpopulate, hcount, ← hq]

end Service

/-! ## Page after page -/

/-- A page that shows its slice of a list of records, with the numbers that go with it. -/
structure Page.Shows (p : Page) (entity : Entity) (mask : FieldMask) (maxLimit : Nat)
    (records : List Record) :
    Prop where
  limit_pos : 1 ≤ p.limit
  limit_le : p.limit ≤ maxLimit
  number_pos : 1 ≤ p.number
  total : p.total = records.length
  /-- The number of pages is the total divided by the size of a page, rounded up. -/
  count : ∀ n, p.count ≤ n ↔ records.length ≤ n * p.limit
  rows : List.Forall₂ (Record.ShownAs entity mask)
    ((records.drop ((p.number - 1) * p.limit)).take p.limit) p.rows

def ListRequest.after (request : ListRequest) (n : Nat) : ListRequest :=
  { request with page := some (n + 1 : Int) }

namespace Service

variable {s : Service} {ctx : Context} {name : String} {entity : Entity} {access : Access}
  {permission : Permission} {request : ListRequest} {filters condition : Predicate}
    {specs : List SortSpec}

/-- **Reading page after page goes through the list of records**, also when the store walks its
records in another order each time. -/
theorem list_reads_through {mask : FieldMask} {records : List Record} {store : Store}
    (e : Nat → Surroundings) (hlength : records.length < ListRequest.bound)
    (hserve : ∀ n, ∃ rows, List.Forall₂ (Record.ShownAs entity mask)
        (ListRequest.slice (request.after n).pageNumber (request.pageSize s.pages) records) rows ∧
      (s.list ctx name (request.after n)).serve (e n) store =
        (.ok ⟨rows, records.length, (request.after n).pageNumber, request.pageSize s.pages⟩, store))
    (count : Nat) (hcount : count ≤ records.length) : ∃ pages : List Page, pages.length = count ∧
      (∀ n p, pages[n]? = some p → p.number = n + 1 ∧ p.total = records.length ∧
        p.limit = request.pageSize s.pages ∧
        (s.list ctx name (request.after n)).serve (e n) store = (.ok p, store)) ∧
      List.Forall₂ (Record.ShownAs entity mask) (records.take (count * request.pageSize s.pages))
        (pages.flatMap (·.rows)) := by
  induction count with
  | zero =>
    refine ⟨[], rfl, fun n p h => ?_, by simp⟩
    cases h
  | succ n ih =>
    obtain ⟨pages, hpages, hserved, hrows⟩ := ih (by omega)
    obtain ⟨rows, hshown, hresult⟩ := hserve n
    have hnumber : (request.after n).pageNumber = n + 1 :=
      ListRequest.pageNumber_of_lt rfl (by omega)
    rw [hnumber] at hshown hresult
    refine ⟨pages ++ [⟨rows, records.length, n + 1, request.pageSize s.pages⟩],
      by simp [hpages], ?_, ?_⟩
    · intro m p hp
      by_cases hm : m < pages.length
      · rw [List.getElem?_append_left hm] at hp
        exact hserved m p hp
      · rw [List.getElem?_append_right (by omega)] at hp
        have hlast : m = n := by
          have hsome := List.getElem?_eq_some_iff.1 hp
          obtain ⟨hlt, -⟩ := hsome
          simp only [List.length_singleton] at hlt
          omega
        subst hlast
        rw [hpages, Nat.sub_self] at hp
        cases hp
        exact ⟨rfl, rfl, rfl, hresult⟩
    · rw [take_succ_pages, List.flatMap_append]
      exact List.rel_append hrows (by simpa using hshown)

/-- **Listing is exact.** In every store that comes about through the service, the records that a
request is about make up one list, ascending in the order asked for; whatever page is asked for,
and in whatever order the store walks its records, the request is served the slice of this list
that the page number and the size in the answer say. The pages from the first to the last show each
of the records once. -/
theorem list_exact (hs : s.schema.Registered) (base : Settings) (given : Dict String String)
    (hpages : s.pages = (base.override given).pages) (events : List Event)
    (hfind : s.schema.find name = .ok entity)
    (hauth : access.authorize entity.name .read = .ok permission)
    (hallowed : permission.checkFilters request.filters = .ok ())
    (hfilters : Filter.compileAll entity request.filters = .ok filters)
    (hcondition : permission.rowPredicate (ctx.variables access) entity = .ok condition)
    (hsort : SortSpec.readAll (request.sort.getD .null) = .ok specs) :
    ∃ records : List Record,
      (∀ r, r ∈ records ↔ (∃ id, ((World.quiet .empty).run s events).store.find? id = some r) ∧
        request.Wants ctx entity condition r) ∧
      (records.map (·.id)).Nodup ∧
      records.Pairwise
        (fun a b => a.compareBy b (if specs = [] then [⟨"created_at", .desc⟩] else specs) = .lt) ∧
      (records.length < ListRequest.bound →
        (∀ (e : Surroundings) (page : Option Int), e.access ctx.toCaller = .ok access → ∃ p : Page,
          (s.list ctx name { request with page }).serve e
              ((World.quiet .empty).run s events).store =
            (.ok p, ((World.quiet .empty).run s events).store) ∧
          p.Shows entity (.ofPermission entity permission)
            (base.override given).pages.maxLimit records) ∧
        ∀ e : Nat → Surroundings, (∀ n, (e n).access ctx.toCaller = .ok access) →
          ∃ pages : List Page,
          (∀ n p, pages[n]? = some p → p.number = n + 1 ∧ p.count = pages.length ∧
            (s.list ctx name (request.after n)).serve (e n)
                ((World.quiet .empty).run s events).store =
              (.ok p, ((World.quiet .empty).run s events).store)) ∧
          List.Forall₂ (Record.ShownAs entity (.ofPermission entity permission)) records
            (pages.flatMap (·.rows))) := by
  have horder := ListRequest.order_eq hsort
  generalize (if specs = [] then [(⟨"created_at", .desc⟩ : SortSpec)] else specs) = sort at horder
  have hstore := World.typed_of_run hs events
  generalize ((World.quiet .empty).run s events).store = store at hstore
  obtain ⟨hfits, hids⟩ := hstore.fits_of_matching
    (p := ((scope ctx.tenant entity.name).both filters).both condition) (hs.find_name hfind)
  obtain ⟨records, hrecords⟩ : ∃ records, records =
    sorted sort (store.matching entity
      (((scope ctx.tenant entity.name).both filters).both condition)) := ⟨_, rfl⟩
  have hpos := request.one_le_pageSize s.pages
  have hserve (e : Surroundings) (haccess : e.access ctx.toCaller = .ok access) (page : Option Int)
      (hlength : records.length < ListRequest.bound) :=
    list_serves_slice { request with page } hs hstore haccess hfind hauth hallowed hfilters
      hcondition horder hrecords hlength
  refine ⟨records, fun r => ?_, ?_, ?_,
    fun hlength => ⟨fun e page haccess => ?_, fun e haccess => ?_⟩⟩
  · rw [hrecords, (sorted_perm ..).mem_iff]
    exact mem_matching_iff hfilters store r
  · rw [hrecords]
    exact ((sorted_perm ..).map _).nodup_iff.2 hids
  · rw [hrecords]
    exact pairwise_sorted (hs.sound hfind).2 hfits hids
  · obtain ⟨rows, hrows, hresult⟩ := hserve e haccess page hlength
    refine ⟨_, hresult, hpos, ?_, ListRequest.one_le_pageNumber _, rfl,
      fun n => Page.count_le_iff hpos n, hrows⟩
    rw [← hpages]
    exact ListRequest.pageSize_le _ (hpages ▸ Settings.one_le_maxLimit base given)
  · generalize hcount :
      (records.length + request.pageSize s.pages - 1) / request.pageSize s.pages = count
    have hroom (n : Nat) : count ≤ n ↔ records.length ≤ n * request.pageSize s.pages := by
      rw [← hcount]
      exact Page.count_le_iff (p := ⟨[], records.length, 1, request.pageSize s.pages⟩) hpos n
    have hle : count ≤ records.length := (hroom _).2 (Nat.le_mul_of_pos_right _ hpos)
    obtain ⟨pages, hlengths, hserved, hrows⟩ := list_reads_through e hlength
      (fun n => hserve (e n) (haccess n) (some (n + 1 : Int)) hlength) count hle
    rw [List.take_of_length_le ((hroom count).1 (Nat.le_refl _))] at hrows
    refine ⟨pages, fun n p hp => ?_, hrows⟩
    obtain ⟨hnumber, htotal, hlimit, hresult⟩ := hserved n p hp
    refine ⟨hnumber, ?_, hresult⟩
    rw [hlengths, ← hcount, Page.count, htotal, hlimit]

end Service

/-! ## A plan -/

namespace Sample

/-- Everyone's own tasks, which may be filtered by their titles. -/
def seeing : Permission where
  allowed := true
  condition := some (.compare ⟨"created_by", .eq, .string "$user.id"⟩)
  filterable := some ["title"]

def planner : Access :=
  ⟨[⟨"planner", (∅ : Dict String EntityGrant).insert task.name
    { create := some .allow, read := some seeing }⟩]⟩

def single : Dict String String := (∅ : Dict String String).insert "FILTER_MAX_LIMIT" "1"

/-- The service of tasks, with a single task to a page. -/
def board : Service := { service with pages := (Settings.development.override single).pages }

/-- Surroundings of a planner, in which the store walks its records in one order or the other. -/
def planning (id : Uuid) (forwards : Bool) : Surroundings :=
  { surroundings id with
    access := fun _ => .ok planner
    order := fun records => if forwards then records else records.reverse
    order_perm := by cases forwards <;> simp [List.reverse_perm] }

def filing (call : Nat) (id : Uuid) (user title : String) (effort : Int) : List Event :=
  .arrive ⟨⟨⟨"acme", user, ∅⟩, .epoch⟩, task.name,
      .create (.object [("effort", .number (.int effort)), ("title", .string title)])⟩ ::
    List.replicate 3 (.proceed call (planning id true))

def plan : Uuid := ⟨11, by decide⟩

def paint : Uuid := ⟨12, by decide⟩

def prune : Uuid := ⟨15, by decide⟩

/-- Five tasks: one is not the planner's own, and one does not begin with a P. -/
def filings : List Event :=
  filing 0 plan "ann" "Plan" 3 ++ filing 1 paint "ann" "Paint" 5 ++
    filing 2 ⟨13, by decide⟩ "ann" "Rest" 5 ++ filing 3 ⟨14, by decide⟩ "bob" "Pack" 9 ++
    filing 4 prune "ann" "Prune" 5

def scheduled : Store := ((World.quiet .empty).run board filings).store

def wanted : ListRequest where
  filters := [⟨"title", .startsWith, .string "P"⟩]
  limit := some 20
  sort := some (.string "effort desc, title")

/-- Whether a task comes before another in the order asked for. -/
def before (i j : Uuid) : Bool :=
  (scheduled.find? i).any fun a => (scheduled.find? j).any fun b =>
    a.compareBy b [⟨"effort", .desc⟩, ⟨"title", .asc⟩] == .lt

/-- The three tasks have only one ascending order. -/
theorem scheduled_ids {records : List Record}
    (hstored : ∀ r ∈ records, ∃ id, scheduled.find? id = some r)
    (hperm : (records.map (·.id)).Perm [paint, prune, plan])
    (hascending : records.Pairwise fun a b =>
      a.compareBy b [⟨"effort", .desc⟩, ⟨"title", .asc⟩] = .lt) :
    records.map (·.id) = [paint, prune, plan] := by
  have hkeyed : scheduled.Keyed := (World.typed_of_run (s := board) registered filings).keyed
  have hbefore : (records.map (·.id)).Pairwise fun i j => before i j = true := by
    refine List.pairwise_map.2 (hascending.imp_of_mem fun {a b} ha hb hab => ?_)
    obtain ⟨i, hi⟩ := hstored a ha
    obtain ⟨j, hj⟩ := hstored b hb
    obtain rfl := hkeyed i a hi
    obtain rfl := hkeyed j b hj
    simp only [before, hi, hj, Option.any_some]
    exact beq_iff_eq.2 hab
  have hasymm : ∀ i ∈ [paint, prune, plan], ∀ j ∈ [paint, prune, plan],
      before i j = true → before j i = true → i = j := by decide +kernel
  exact hperm.eq_of_pairwise (fun i j hi hj => hasymm i (hperm.mem_iff.1 hi) j hj) hbefore
    (by decide +kernel)

end Sample

open Sample in
/-- Page after page, with a single task to a page, a planner sees her own tasks that begin with a P: the
most effort first, and by title where the effort is the same. -/
theorem Service.scheduled_tasks_listed : board.schema.Registered ∧
    board.pages = (Settings.development.override single).pages ∧
    ∃ (records : List Record) (pages : List Page),
      records.map (·.id) = [paint, prune, plan] ∧ pages.length = 3 ∧
      (∀ n q, pages[n]? = some q → q.number = n + 1 ∧ q.limit = 1 ∧
        q.Shows task (.ofPermission task seeing) 1 records ∧
        (board.list Sample.ctx task.name (wanted.after n)).serve (planning .nil (n % 2 == 0)) scheduled =
          (.ok q, scheduled)) ∧
      List.Forall₂ (Record.ShownAs task (.ofPermission task seeing)) records
        (pages.flatMap (·.rows)) := by
  obtain ⟨records, hmem, hids, hascending, hlist⟩ :=
    @list_exact board Sample.ctx task.name task planner seeing wanted _ _
      [⟨"effort", .desc⟩, ⟨"title", .asc⟩] registered Settings.development single rfl filings
      rfl rfl rfl rfl rfl rfl
  have htyped : scheduled.Typed board.schema := World.typed_of_run registered filings
  have hmatching : records.Perm (scheduled.matching task _) :=
    (List.perm_ext_iff_of_nodup hids.of_map (htyped.fits_of_matching rfl).2.of_map).2 fun r =>
      (hmem r).trans (mem_matching_iff rfl scheduled r).symm
  have hrecords := scheduled_ids (fun r hr => ((hmem r).1 hr).1)
    ((hmatching.map _).trans (by decide +kernel)) hascending
  have hlength : records.length = 3 := by simpa using congrArg List.length hrecords
  obtain ⟨hshow, hread⟩ := hlist (by rw [hlength]; decide)
  obtain ⟨pages, hpages, hrows⟩ := hread (fun n => planning .nil (n % 2 == 0)) fun _ => rfl
  have hshows (n : Nat) (q : Page) (hq : pages[n]? = some q) :
      q.Shows task (.ofPermission task seeing) 1 records := by
    obtain ⟨-, -, hserve⟩ := hpages n q hq
    obtain ⟨p, hserve', hp⟩ := hshow (planning .nil (n % 2 == 0)) (some (n + 1 : Int)) rfl
    cases hserve.symm.trans hserve'
    exact hp
  have hlimit (n : Nat) (q : Page) (hq : pages[n]? = some q) : q.limit = 1 :=
    Nat.le_antisymm (hshows n q hq).limit_le (hshows n q hq).limit_pos
  have hcount : pages.length = 3 := by
    cases pages with
    | nil =>
      rw [hrows.length_eq] at hlength
      cases hlength
    | cons q rest =>
      obtain ⟨-, hcount, -⟩ := hpages 0 q rfl
      have hrange := (hshows 0 q rfl).count
      rw [hcount, hlength, hlimit 0 q rfl] at hrange
      have htwo := hrange 2
      have hthree := hrange 3
      omega
  exact ⟨registered, rfl, records, pages, hrecords, hcount, fun n q hq =>
    ⟨(hpages n q hq).1, hlimit n q hq, hshows n q hq, (hpages n q hq).2.2⟩, hrows⟩

end Dossier
