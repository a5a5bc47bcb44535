import Dossier.Proofs.Alike
import Dossier.Proofs.Isolation
import Dossier.Proofs.Masking
import Dossier.Proofs.Resolution

/-!
# A list tells nothing of hidden fields

Two stores that differ only in fields that the caller may not read serve a list request of the caller
alike, unless the request or the schema puts such a field to another use than showing it.

**Other uses.** Filters and the row condition of the caller read fields of the records listed; so does
the sort order, and the label of a lookup reads a field of its target. A request of which none speaks
of a hidden field is discreet (`Service.Discreet`). Filters and conditions alone are not enough
(`Service.Leaks`): nothing asks whether a field may be read before it is sorted by, or shown as the
label of something else.

**Records that are alike** (`Record.AlikeBut`). What is listed from the two stores is alike, record for
record (`pages_alike`).

**Views that look alike** (`Shown.Alike`). Under the keys that are let through at the end their objects
have the same. Resolving references keeps this: a field that is let through refers to the same in both
records, and this is resolved alike (`resolution_eq`); what becomes of the others is not seen.

Main result: `list_discreet`.
-/

namespace Dossier

/-! ## Discreet requests -/

namespace Service

/-- A data field that the caller may not read: no role lets it be read, where it is declared at all. -/
structure Hides (s : Service) (access : Access) (entity field : String) : Prop where
  notSystem : isSystemField field = false
  unread : ∀ found, s.schema.find entity = .ok found → ∀ f ∈ found.fields, f.name = field →
    ¬ access.Reads found.name f.name

/-- A request for a list of which neither the filters nor the row condition of the caller speak of
certain fields, none of which the caller may read. -/
structure Reticent (s : Service) (access : Access) (name : String) (request : ListRequest)
    (hidden : String → String → Prop) : Prop where
  hides : ∀ entity field, hidden entity field → s.Hides access entity field
  filters : ∀ f ∈ request.filters, ¬ hidden name f.field
  condition : ∀ permission c, access.authorize name .read = .ok permission →
    permission.condition = some c → ∀ leaf ∈ c.leaves, ¬ hidden name leaf.field

/-- A request that does not speak of the fields in any other way either: it does not sort by them,
and no lookup that it shows is labelled by one. -/
structure Discreet (s : Service) (access : Access) (name : String) (request : ListRequest)
    (hidden : String → String → Prop) : Prop extends s.Reticent access name request hidden where
  order : ∀ sort, request.order = .ok sort → ∀ spec ∈ sort, ¬ hidden name spec.field
  labels : ∀ entity, s.schema.find name = .ok entity → ∀ f ∈ entity.fields, f.kind = .lookup →
    access.Reads entity.name f.name → ∀ target, f.lookup = some target →
      ¬ hidden target.entity target.labelField

end Service

/-! ## Views that look alike -/

theorem map_eq_of_forall₂ {α β γ : Type} {R : α → β → Prop} {f : α → γ} {g : β → γ} {xs : List α}
    {ys : List β} (h : List.Forall₂ R xs ys) (hfg : ∀ x y, R x y → f x = g y) :
    xs.map f = ys.map g := by
  rw [← List.forall₂_eq_eq_eq, List.forall₂_map_left_iff, List.forall₂_map_right_iff]
  exact h.imp hfg

namespace Shown

/-- Views of records that are alike, whose objects have the same under each key that is let
through. -/
structure Alike (lets : String → Bool) (hidden : String → Prop) (v v' : Shown) : Prop where
  record : v.record.AlikeBut hidden v'.record
  sorted : Entries.Sorted v.members
  sorted' : Entries.Sorted v'.members
  members : ∀ key, lets key = true → Entries.get? key v.members = Entries.get? key v'.members

variable {lets : String → Bool} {hidden : String → Prop} {v v' : Shown} {field : String}

theorem Alike.ofRecord {r r' : Record} (h : r.AlikeBut hidden r')
    (hlets : ∀ key, lets key = true → ¬ hidden key) :
    (Shown.ofRecord r).Alike lets hidden (Shown.ofRecord r') where
  record := h
  sorted := Entries.Sorted.ofList _
  sorted' := Entries.Sorted.ofList _
  members key hkey := by
    cases h with
    | mk data h =>
      show Entries.get? key r.members = Entries.get? key (Record.members { r with data })
      rw [Record.get?_members, Record.get?_members, h key (hlets key hkey)]
      rfl

theorem Alike.reference?_eq (h : v.Alike lets hidden v') (hfield : ¬ hidden field) :
    v.reference? field = v'.reference? field := by
  obtain ⟨halike, -, -, -⟩ := h
  unfold reference?
  generalize v.record = r at halike
  generalize v'.record = r' at halike
  cases halike with
  | mk data h => rw [h field hfield]

/-- **A field that is let through shows the same in both views, if it is resolved in the same way.** -/
theorem Alike.resolve (h : v.Alike lets hidden v') (hlets : ∀ key, lets key = true → ¬ hidden key)
    {content content' : String → Option Json} (hcontent : lets field = true → content = content') :
    (v.resolve field content).Alike lets hidden (v'.resolve field content') where
  record := by
    rw [resolve_record, resolve_record]
    exact h.record
  sorted := sorted_resolve h.sorted content
  sorted' := sorted_resolve h.sorted' content'
  members key hkey := by
    rw [get?_resolve, get?_resolve, h.members key hkey]
    split
    · rename_i hfield
      subst hfield
      rw [hcontent hkey, h.reference?_eq (hlets key hkey)]
    · rfl

/-- What a mask shows of two such views is the same. -/
theorem Alike.apply_eq {mask : FieldMask}
    (h : v.Alike (fun key => isSystemField key || mask.canRead key) hidden v') :
    mask.apply v.members = mask.apply v'.members := by
  refine Entries.Sorted.ext (h.sorted.sublist List.filter_sublist)
    (h.sorted'.sublist List.filter_sublist) fun key => ?_
  rw [mask.get?_apply, mask.get?_apply]
  split
  · exact h.members key ‹_›
  · rfl

end Shown

namespace Service

/-! ## Both stores -/

theorem references_eq {lets : String → Bool} {hidden : String → Prop} {views views' : List Shown}
    (h : List.Forall₂ (Shown.Alike lets hidden) views views') {field : String}
    (hfield : ¬ hidden field) : references field views = references field views' := by
  have hrefs : views.map (·.reference? field) = views'.map (·.reference? field) :=
    map_eq_of_forall₂ h fun _ _ hv => hv.reference?_eq hfield
  have hids (views : List Shown) : references field views =
      (Dict.ofList ((views.map (·.reference? field)).filterMap (Option.map (·, ())))).keys := by
    rw [List.filterMap_map]
    rfl
  rw [hids, hids, hrefs]

section

variable {s : Service} {ctx : Context} {hidden : String → String → Prop} {e e' : Surroundings}
  {store store' : Store}
  (hs : s.schema.Registered) (hstores : store.AlikeBut hidden store') (hkeyed : store.Keyed)
  (hlisted : Store.ListedAlike s.schema e store e' store')
  (hsystem : ∀ entity field, hidden entity field → isSystemField field = false)

include hs hstores hkeyed hlisted hsystem

theorem labels_eq {target : LookupTarget} (hlabel : ¬ hidden target.entity target.labelField)
    (ids : List String) :
    labels target.labelField (s.targets ctx e store target.entity ids) =
      labels target.labelField (s.targets ctx e' store' target.entity ids) := by
  unfold targets
  cases hfind : s.schema.find target.entity with
  | error error => rfl
  | ok entity =>
    rw [← hs.name_eq hfind] at hlabel
    have hquery : (targetQuery ctx entity ids).predicate.Ignores (hidden entity.name) :=
      (Predicate.ignores_scopeWhere (hsystem entity.name) _ _ _).both
        ((Predicate.Tests.among ..).ignores fun h => Bool.noConfusion (hsystem _ _ h))
    have hpages := pages_alike hs hstores hkeyed hlisted hfind hquery nofun
    refine congrArg Dict.ofList (map_eq_of_forall₂ hpages fun t t' ht => ?_)
    cases ht with
    | mk data h => rw [h _ hlabel]

/-- **What a field refers to is resolved alike**, unless it is shown by a label that is hidden. -/
theorem resolution_eq (hfile : ∀ id, e.file ctx.tenant id = e'.file ctx.tenant id) {f : Field}
    (hlabel : f.kind = .lookup → ∀ target, f.lookup = some target →
      ¬ hidden target.entity target.labelField) (ids : List String) :
    s.resolution ctx e store f ids = s.resolution ctx e' store' f ids := by
  unfold resolution
  split
  · rename_i hkind
    cases hlookup : f.lookup with
    | none => rfl
    | some target =>
      dsimp only
      rw [labels_eq hs hstores hkeyed hlisted hsystem (hlabel hkind target hlookup)]
  · simp only [hfile]

/-- **Resolving references keeps views looking alike**, where each lookup that is let through is
labelled by a field that is not hidden. -/
theorem populateFields_alike (hfile : ∀ id, e.file ctx.tenant id = e'.file ctx.tenant id)
    {entity : String} {lets : String → Bool} (hlets : ∀ key, lets key = true → ¬ hidden entity key)
    {fields : List Field}
    (hlabels : ∀ f ∈ fields, lets f.name = true → f.kind = .lookup → ∀ target,
      f.lookup = some target → ¬ hidden target.entity target.labelField)
    {views views' : List Shown} (h : List.Forall₂ (Shown.Alike lets (hidden entity)) views views') :
    ∃ out out', List.Forall₂ (Shown.Alike lets (hidden entity)) out out' ∧
      (s.populateFields ctx fields views).serve e store = (.ok out, store) ∧
      (s.populateFields ctx fields views').serve e' store' = (.ok out', store') := by
  induction fields generalizing views views' with
  | nil => exact ⟨views, views', h, rfl, rfl⟩
  | cons f rest ih =>
    obtain ⟨hlabel, hlabels⟩ := List.forall_mem_cons.1 hlabels
    have hsame (hf : lets f.name = true) : s.resolution ctx e store f (references f.name views) =
        s.resolution ctx e' store' f (references f.name views') := by
      rw [references_eq h (hlets f.name hf)]
      exact resolution_eq hs hstores hkeyed hlisted hsystem hfile (hlabel hf) _
    unfold populateFields
    rw [Call.serve_bind_ok (serve_populateField f views),
      Call.serve_bind_ok (serve_populateField f views')]
    refine ih hlabels ?_
    rw [List.forall₂_map_left_iff, List.forall₂_map_right_iff]
    exact h.imp fun v v' hv => hv.resolve hlets hsame

end

/-! ## The whole list -/

section

variable {s : Service} {ctx : Context} {name : String} {request : ListRequest} {access : Access}
  {entity : Entity} {mask : FieldMask} {hidden : String → String → Prop} {query : ListQuery}

theorem Reticent.notSystem (h : s.Reticent access name request hidden) (entity field : String)
    (hfield : hidden entity field) : isSystemField field = false :=
  (h.hides entity field hfield).notSystem

/-- What a mask lets through is not hidden. -/
theorem Reticent.not_hidden (h : s.Reticent access name request hidden)
    (hfind : s.schema.find entity.name = .ok entity) (hmask : access.readMask entity = .ok mask)
    (key : String) (hkey : (isSystemField key || mask.canRead key) = true) :
    ¬ hidden entity.name key := by
  intro hhidden
  obtain ⟨hsystem, hunread⟩ := h.hides entity.name key hhidden
  rw [hsystem, Bool.false_or] at hkey
  obtain ⟨f, hf, hname, hreads⟩ := Access.reads_of_canRead hmask hkey
  exact hunread entity hfind f hf hname hreads

/-- The query of a reticent request ignores what is hidden. -/
theorem Reticent.ignores_query (h : s.Reticent access entity.name request hidden)
    (hquery : s.listQuery ctx access entity request = .ok (mask, query)) :
    query.predicate.Ignores (hidden entity.name) := by
  obtain ⟨permission, filters, condition, sort, hauth, -, hfilters, hcondition, -, -, rfl⟩ :=
    listQuery_ok hquery
  have hid : ¬ hidden entity.name "id" := fun hid => Bool.noConfusion (h.notSystem _ _ hid)
  have hscope := Predicate.ignores_scopeWhere (h.notSystem entity.name) ctx.tenant entity.name false
  have hwanted := hscope.both (Filter.ignores_compileAll hfilters h.filters hid)
  exact hwanted.both
    (Permission.ignores_rowPredicate hcondition (fun c hc => h.condition permission c hauth hc) hid)

/-- The pages of the two stores, with references resolved, look alike to the caller. -/
theorem populate_page_alike {e e' : Surroundings} {store store' : Store} (hs : s.schema.Registered)
    (halike : e.Alike e' ctx.toCaller) (hkeyed : store.Keyed)
    (hstores : store.AlikeBut hidden store')
    (hlisted : Store.ListedAlike s.schema e store e' store')
    (hfind : s.schema.find entity.name = .ok entity)
    (hdiscreet : s.Discreet access entity.name request hidden)
    (hquery : s.listQuery ctx access entity request = .ok (mask, query)) :
    ∃ views views',
      List.Forall₂ (Shown.Alike (fun key => isSystemField key || mask.canRead key)
        (hidden entity.name)) views views' ∧
      (s.populate ctx entity (query.page
        ((e.order store.records.values).filter (Store.concerns entity query.predicate)))).serve
          e store = (.ok views, store) ∧
      (s.populate ctx entity (query.page
        ((e'.order store'.records.values).filter (Store.concerns entity query.predicate)))).serve
          e' store' = (.ok views', store') := by
  have hreticent := hdiscreet.toReticent
  obtain ⟨permission, _, _, sort, hauth, -, -, -, horder, hmask, hsort⟩ := listQuery_ok hquery
  have hread : access.readMask entity = .ok mask := by
    rw [Access.readMask, hauth, hmask]
    rfl
  have hlets := hreticent.not_hidden hfind hread
  have hpages := pages_alike hs hstores hkeyed hlisted hfind (hreticent.ignores_query hquery)
    (by rw [hsort]; exact hdiscreet.order sort horder)
  refine populateFields_alike hs hstores hkeyed hlisted hreticent.notSystem halike.file hlets ?_ ?_
  · intro f hf hlet hkind target hlookup
    rw [(hs.sound hfind).2.notSystem f hf, Bool.false_or] at hlet
    obtain ⟨g, hg, hname, hreads⟩ := Access.reads_of_canRead hread hlet
    rw [hname] at hreads
    exact hdiscreet.labels entity hfind f hf hkind hreads target hlookup
  · rw [List.forall₂_map_left_iff, List.forall₂_map_right_iff]
    exact hpages.imp fun r r' hr => .ofRecord hr hlets

/-- **A list tells nothing of hidden fields.** Two stores that differ at most in fields that the
caller may not read serve a discreet request alike: the same records stand on the page in the same
order and show the same, and the numbers that go with the page are the same. -/
theorem list_discreet {e e' : Surroundings} {store store' : Store} (hs : s.schema.Registered)
    (halike : e.Alike e' ctx.toCaller) (hkeyed : store.Keyed)
    (hstores : store.AlikeBut hidden store')
    (hlisted : Store.ListedAlike s.schema e store e' store')
    (hdiscreet : ∀ access, e.access ctx.toCaller = .ok access →
      s.Discreet access name request hidden) :
    ((s.list ctx name request).serve e store).1 = ((s.list ctx name request).serve e' store').1 := by
  cases hfind : s.schema.find name with
  | error error =>
    unfold list enter
    rw [hfind]
    rfl
  | ok entity =>
    obtain rfl := hs.name_eq hfind
    have hrefused := halike.access
    cases haccess : e.access ctx.toCaller with
    | error fault =>
      rw [haccess] at hrefused
      unfold list
      rw [Call.serve_bind_error (serve_enter_refused hfind haccess),
        Call.serve_bind_error (serve_enter_refused hfind hrefused.symm)]
    | ok access =>
      rw [haccess] at hrefused
      have hquiet := hdiscreet access haccess
      cases hquery : s.listQuery ctx access entity request with
      | error fault =>
        unfold list
        rw [Call.serve_bind_ok (serve_enter hfind haccess),
          Call.serve_bind_ok (serve_enter hfind hrefused.symm)]
        show ((Call.done (s.listQuery ctx access entity request) >>= _).serve e store).1 =
          ((Call.done (s.listQuery ctx access entity request) >>= _).serve e' store').1
        rw [hquery]
        rfl
      | ok result =>
        obtain ⟨mask, query⟩ := result
        have hignores := hquiet.toReticent.ignores_query hquery
        obtain ⟨views, views', hviews, hpopulate, hpopulate'⟩ :=
          populate_page_alike hs halike hkeyed hstores hlisted hfind hquiet hquery
        have hrows : views.map (fun v => shown mask v.members) =
            views'.map fun v => shown mask v.members :=
          map_eq_of_forall₂ hviews fun v v' hv => congrArg Json.object hv.apply_eq
        rw [serve_list haccess hfind hquery rfl hpopulate,
          serve_list hrefused.symm hfind hquery rfl hpopulate', hrows,
          matching_length_eq hstores hkeyed hignores]

end

end Service

/-! ## What gives hidden fields away -/

/-- A list request that gives hidden fields away, although neither the filters nor the row condition
of the caller speak of them: it is served differently by two stores that differ in nothing but such
fields. -/
structure Service.Leaks (s : Service) (ctx : Context) (name : String) (request : ListRequest)
    (e : Surroundings) (access : Access) (store store' : Store) : Prop where
  registered : s.schema.Registered
  granted : e.access ctx.toCaller = .ok access
  reticent : s.Reticent access name request (s.Hides access)
  keyed : store.Keyed
  stores : store.AlikeBut (s.Hides access) store'
  listed : Store.ListedAlike s.schema e store e store'
  told : ((s.list ctx name request).serve e store).1 ≠ ((s.list ctx name request).serve e store').1

theorem Store.AlikeBut.put {hidden : String → String → Prop} {store store' : Store}
    (h : store.AlikeBut hidden store') {r r' : Record} (hr : r.AlikeBut (hidden r.entity) r') :
    (store.put r).AlikeBut hidden (store'.put r') := by
  intro id
  have hid : r'.id = r.id := by
    cases hr
    rfl
  rw [Store.find?_put, Store.find?_put, hid]
  split
  · exact .some hr
  · exact h id

theorem sorted_pair (sort : List SortSpec) (a b : Record) :
    sorted sort [a, b] = if (a.compareBy b sort).isLE then [a, b] else [b, a] := by
  simp [sorted, List.mergeSort, List.merge, List.MergeSort.Internal.splitInTwo]

/-! ### Two payrolls -/

namespace Sample

/-- Another identifier than `Uuid.nil`. -/
def other : Uuid := ⟨2, by decide⟩

/-- A lead called Ann with a salary, who is a mentor to herself. -/
def paid (id : Uuid) (salary : Int) : Record :=
  .create id "acme" lead.name ⟨"ann", .epoch⟩
    (((∅ : Dict String Value).insert "mentor" (.ref id.text)).insert "name" (.text "Ann")
      |>.insert "salary" (.ofJson (.number (.int salary))))

def payroll (first second : Int) : Store := (Store.empty.put (paid .nil first)).put (paid other second)

/-- A reference to another lead that is shown by their salary. -/
def mentor : Field := { Field.plain "mentor" .lookup with lookup := some ⟨lead.name, "salary"⟩ }

def follower : Entity := { lead with fields := lead.fields ++ [mentor] }

def followers : Service := { schema := ⟨(∅ : Dict String Entity).insert lead.name follower⟩ }

theorem followers_registered : followers.schema.Registered := .register (e := follower) .empty rfl

/-- Surroundings in which everyone is in sales. -/
def selling : Surroundings := { surroundings .nil with access := fun _ => .ok ⟨[sales]⟩ }

def sortedBy (field : String) : ListRequest := { sort := some (.string field) }

theorem payroll_keyed (first second : Int) : (payroll first second).Keyed :=
  Store.Keyed.put (.put .empty _) _

theorem payroll_values (first second : Int) :
    (payroll first second).records.values = [paid .nil first, paid other second] := rfl

theorem hides_salary {s : Service} (hs : s.schema.Registered) :
    s.Hides ⟨[sales]⟩ lead.name "salary" where
  notSystem := rfl
  unread found hfind f _ hname := by
    rw [hs.name_eq hfind, hname]
    exact unread_salary

theorem payroll_alike {s : Service} (hs : s.schema.Registered) (first second first' second' : Int) :
    (payroll first second).AlikeBut (s.Hides ⟨[sales]⟩) (payroll first' second') := by
  have hpaid (id : Uuid) (salary salary' : Int) :
      (paid id salary).AlikeBut (s.Hides ⟨[sales]⟩ lead.name) (paid id salary') := by
    refine .mk _ fun key hkey => ?_
    have hne : key ≠ "salary" := fun heq => hkey (heq ▸ hides_salary hs)
    show Dict.get? (Dict.insert _ "salary" _) key = Dict.get? (Dict.insert _ "salary" _) key
    simp only [Dict.get?_insert, if_neg hne]
  exact .put (.put (fun _ => .none) (hpaid ..)) (hpaid ..)

/-- A walk through a payroll goes by the same identifiers, whatever the salaries are. -/
theorem payroll_walk (first second : Int) :
    (selling.order (payroll first second).records.values).map (·.id) = [other, .nil] := rfl

section

variable {s : Service} {found : Entity} (hs : s.schema.Registered)
  (hfind : s.schema.find lead.name = .ok found) (hname : .plain "name" .text ∈ found.fields)

include hs hfind hname

theorem not_hides_name : ¬ s.Hides ⟨[sales]⟩ lead.name "name" := by
  intro h
  refine h.unread found hfind _ hname rfl ?_
  rw [hs.name_eq hfind]
  obtain ⟨p, hp⟩ : ∃ p, p ∈ (Access.permissions ⟨[sales]⟩ lead.name .read).filter (·.allowed) :=
    ⟨_, List.mem_cons_self⟩
  refine ⟨p, Access.mem_allowing.1 hp, ?_⟩
  obtain rfl := List.mem_singleton.1 hp
  decide +kernel

/-- The condition on sales speaks of names only. -/
theorem reticent (sort : Option Json) :
    s.Reticent ⟨[sales]⟩ lead.name { sort } (s.Hides ⟨[sales]⟩) where
  hides _ _ h := h
  filters := nofun
  condition permission c hauth hc leaf hleaf := by
    cases hauth
    cases hc
    obtain rfl := List.mem_singleton.1 hleaf
    exact not_hides_name hs hfind hname

/-- Any request without filters that is served differently for two payrolls gives salaries away. -/
theorem leaks_of_told (sort : Option Json) {first second first' second' : Int}
    (htold : ((s.list Sample.ctx lead.name { sort }).serve selling (payroll first second)).1 ≠
      ((s.list Sample.ctx lead.name { sort }).serve selling (payroll first' second')).1) :
    s.Leaks Sample.ctx lead.name { sort } selling ⟨[sales]⟩ (payroll first second)
      (payroll first' second') where
  registered := hs
  granted := rfl
  reticent := reticent hs hfind hname sort
  keyed := payroll_keyed first second
  stores := payroll_alike hs first second first' second'
  listed := .inl ((payroll_walk first second).trans (payroll_walk first' second').symm)
  told := htold

end

def salesQuery (sort : List SortSpec) : ListQuery where
  wanted := (scope Sample.ctx.tenant lead.name).both .always
  forced := .eq "name" (.text "Ann")
  limit := 50
  offset := 0
  sort

def salesMask (entity : Entity) : FieldMask := .ofPermission entity
  { allowed := true
    condition := some (.compare ⟨"name", .eq, .string "Ann"⟩)
    filterable := some ["name"]
    fieldRules := (∅ : Dict String FieldAccess).insert "salary" .none }

/-- Whether a query lets both leads through. -/
def admits (first second : Int) (query : ListQuery) : Bool :=
  [paid other second, paid .nil first].all (Store.concerns lead query.predicate)

variable {first second : Int}

/-- The page of a payroll for a query that lets both leads through. -/
theorem page_payroll {query : ListQuery} (h : admits first second query) :
    query.page ((selling.order (payroll first second).records.values).filter
        (Store.concerns lead query.predicate)) =
      query.page [paid other second, paid .nil first] := by
  rw [payroll_values]
  show query.page ([paid other second, paid .nil first].filter _) = _
  rw [List.filter_eq_self.2 (List.all_eq_true.1 h)]

section

variable {s : Service} {found : Entity} {request : ListRequest} {mask : FieldMask}
  {query : ListQuery} {records : List Record} {views : List Shown}

/-- A payroll as sales get to see it. -/
theorem serve_payroll (hfind : s.schema.find lead.name = .ok found) (hname : found.name = lead.name)
    (hquery : s.listQuery Sample.ctx ⟨[sales]⟩ found request = .ok (mask, query))
    (h : admits first second query)
    (hpage : query.page [paid other second, paid .nil first] = records)
    (hviews : (s.populate Sample.ctx found records).serve selling (payroll first second) =
      (.ok views, payroll first second)) :
    ((s.list Sample.ctx lead.name request).serve selling (payroll first second)).1.map Page.rows =
      .ok (views.map fun v => Service.shown mask v.members) := by
  have hconcerns : Store.concerns found query.predicate = Store.concerns lead query.predicate := by
    funext r
    unfold Store.concerns
    rw [hname]
  have hlist : (Call.list found query).serve selling (payroll first second) =
      (.ok records, payroll first second) := by
    rw [← hpage, ← page_payroll h, ← hconcerns]
    rfl
  rw [Service.serve_list rfl hfind hquery hlist hviews]
  rfl

end

theorem told_of_rows {result result' : Except Fault Page} {rows rows' : List Json}
    (h : result.map Page.rows = .ok rows) (h' : result'.map Page.rows = .ok rows')
    (read : Json → Option String) (hread : rows.map read ≠ rows'.map read) : result ≠ result' := by
  rintro rfl
  rw [h] at h'
  cases h'
  exact hread rfl

/-- Sorted by salary, the leads come in another order when their salaries are swapped. -/
theorem leads_told_apart :
    ((leads.list Sample.ctx lead.name (sortedBy "salary")).serve selling (payroll 1 2)).1 ≠
      ((leads.list Sample.ctx lead.name (sortedBy "salary")).serve selling (payroll 2 1)).1 := by
  have hquery : leads.listQuery Sample.ctx ⟨[sales]⟩ lead (sortedBy "salary") =
      .ok (salesMask lead, salesQuery [⟨"salary", .asc⟩]) := rfl
  have hrising : (salesQuery [⟨"salary", .asc⟩]).page [paid other 2, paid .nil 1] =
      [paid .nil 1, paid other 2] := by
    rw [ListQuery.page, sorted_pair, if_neg (by decide +kernel)]
    rfl
  have hfalling : (salesQuery [⟨"salary", .asc⟩]).page [paid other 1, paid .nil 2] =
      [paid other 1, paid .nil 2] := by
    rw [ListQuery.page, sorted_pair, if_pos (by decide +kernel)]
    rfl
  exact told_of_rows (serve_payroll rfl rfl hquery (by decide +kernel) hrising rfl)
    (serve_payroll rfl rfl hquery (by decide +kernel) hfalling rfl)
    (fun row => (row.member? "id").bind Json.text?) (by decide +kernel)

/-- Both leads come in the order of their identifiers where nothing else tells them apart. -/
theorem page_by_id {query : ListQuery} (hsort : query.sort = [⟨"created_at", .desc⟩] ∨ query.sort = [])
    (hoffset : query.offset = 0) (hlimit : 2 ≤ query.limit) :
    query.page [paid other second, paid .nil first] = [paid .nil first, paid other second] := by
  have hsorted : sorted query.sort [paid other second, paid .nil first] =
      [paid .nil first, paid other second] := by
    rw [sorted_pair, if_neg]
    rcases hsort with h | h <;> rw [h] <;> exact Bool.noConfusion
  rw [ListQuery.page, hsorted, hoffset]
  exact List.take_of_length_le hlimit

/-- The labels of two mentors, who are shown by their salaries. -/
theorem populate_followers
    (h : admits first second
      (Service.targetQuery Sample.ctx follower [Uuid.nil.text, other.text])) :
    (followers.populate Sample.ctx follower [paid .nil first, paid other second]).serve selling
        (payroll first second) =
      (.ok ([paid .nil first, paid other second].map fun r => (Shown.ofRecord r).putLabel
        (Service.labels "salary" [paid .nil first, paid other second]) "mentor"),
      payroll first second) := by
  have htargets : followers.targets Sample.ctx selling (payroll first second) lead.name
      [Uuid.nil.text, other.text] = [paid .nil first, paid other second] :=
    (page_payroll h).trans (page_by_id (.inr rfl) rfl (Nat.le_refl 2))
  show (followers.populateField Sample.ctx mentor
    ([paid .nil first, paid other second].map Shown.ofRecord) >>= pure).serve _ _ = _
  rw [Call.serve_bind_ok (Service.serve_populateField mentor _)]
  show (Except.ok (List.map (Shown.resolve "mentor" (Shown.labelled (Service.labels "salary"
    (followers.targets Sample.ctx selling (payroll first second) lead.name
      [Uuid.nil.text, other.text])))) _), _) = _
  rw [htargets, ← Shown.putLabel_eq]
  rfl

/-- Whoever sees a mentor sees their salary. -/
theorem followers_told_apart :
    ((followers.list Sample.ctx lead.name {}).serve selling (payroll 1 2)).1 ≠
      ((followers.list Sample.ctx lead.name {}).serve selling (payroll 2 1)).1 := by
  have hquery : followers.listQuery Sample.ctx ⟨[sales]⟩ follower {} =
      .ok (salesMask follower, salesQuery [⟨"created_at", .desc⟩]) := rfl
  have hpage (first second : Int) : (salesQuery [⟨"created_at", .desc⟩]).page
      [paid other second, paid .nil first] = [paid .nil first, paid other second] :=
    page_by_id (.inl rfl) rfl (by decide)
  exact told_of_rows
    (serve_payroll rfl rfl hquery (by decide +kernel) (hpage 1 2)
      (populate_followers (by decide +kernel)))
    (serve_payroll rfl rfl hquery (by decide +kernel) (hpage 2 1)
      (populate_followers (by decide +kernel)))
    (fun row => ((row.member? "mentor").bind (Json.member? "display_label")).map Json.compact)
    (by decide +kernel)

end Sample

open Sample in
/-- A sort order gives hidden fields away, and so does a lookup that is labelled by one. -/
theorem Service.hidden_fields_leak :
    leads.Leaks Sample.ctx lead.name (sortedBy "salary") selling ⟨[sales]⟩ (payroll 1 2)
        (payroll 2 1) ∧
      followers.Leaks Sample.ctx lead.name {} selling ⟨[sales]⟩ (payroll 1 2) (payroll 2 1) :=
  ⟨leaks_of_told leads_registered rfl (by decide) (some (.string "salary")) leads_told_apart,
    leaks_of_told followers_registered rfl (by decide) none followers_told_apart⟩

open Sample in
/-- Sorted by name, the leads are shown alike whatever their salaries are. -/
theorem Service.salaries_untold : ∃ p : Page, p.total = 2 ∧
    ((leads.list Sample.ctx lead.name (sortedBy "name")).serve selling (payroll 1 2)).1 = .ok p ∧
      ((leads.list Sample.ctx lead.name (sortedBy "name")).serve selling (payroll 2 1)).1 = .ok p := by
  have hname : Field.plain "name" .text ∈ lead.fields := by decide
  have hdiscreet : leads.Discreet ⟨[sales]⟩ lead.name (sortedBy "name") (leads.Hides ⟨[sales]⟩) := by
    refine ⟨reticent leads_registered rfl hname _, fun sort hsort spec hspec => ?_,
      fun entity hfind f hf hkind => ?_⟩
    · have horder : (sortedBy "name").order = .ok [⟨"name", .asc⟩] := rfl
      rw [horder] at hsort
      cases hsort
      obtain rfl := List.mem_singleton.1 hspec
      exact not_hides_name leads_registered rfl hname
    · cases hfind
      have hplain : ∀ f ∈ lead.fields, f.kind ≠ .lookup := by decide
      exact absurd hkind (hplain f hf)
  have hsame :
      ((leads.list Sample.ctx lead.name (sortedBy "name")).serve selling (payroll 1 2)).1 =
        ((leads.list Sample.ctx lead.name (sortedBy "name")).serve selling (payroll 2 1)).1 :=
    Service.list_discreet leads_registered (.refl selling _) (payroll_keyed 1 2)
      (payroll_alike leads_registered 1 2 2 1)
      (.inl ((payroll_walk 1 2).trans (payroll_walk 2 1).symm)) fun access haccess => by
        cases haccess
        exact hdiscreet
  have htotal : ((leads.list Sample.ctx lead.name (sortedBy "name")).serve selling
      (payroll 1 2)).1.toOption.map Page.total = some 2 := by decide +kernel
  obtain ⟨p, hp, htotal⟩ := Option.map_eq_some_iff.1 htotal
  have hserved :
      ((leads.list Sample.ctx lead.name (sortedBy "name")).serve selling (payroll 1 2)).1 =
        .ok p := by
    revert hp
    cases ((leads.list Sample.ctx lead.name (sortedBy "name")).serve selling (payroll 1 2)).1 with
    | error fault => exact nofun
    | ok _ => exact fun hp => congrArg Except.ok (Option.some.inj hp)
  exact ⟨p, htotal, hserved, hsame.symm.trans hserved⟩

end Dossier
