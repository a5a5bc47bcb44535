import Dossier.Proofs.Listing

/-!
# Tenants are isolated

A request is served as if its tenant were alone in the store (`serve_alone`): the answers are those
of the store with no records but the tenant's, and what it changes are records of the tenant. So
two stores that hold the same records of a tenant serve it alike.

**Scope** (`Demand.Confined`). Every single demand that a request can make names its tenant, also
where a lookup is checked, references are resolved, or a missed write is explained
(`Makes.confined`). This is where a forgotten guard would show.

**One demand** (`Demand.Confined.answer_alone`). The records of other tenants have no part in the
answer to a scoped demand. Among the tenant's own the order in which the store walks them has none:
a record is read by its identifier, records are counted, or they are sorted.

Main result: `tenants_isolated`.
-/

namespace Dossier

/-! ## Scope -/

/-- Demands that concern one tenant only. -/
inductive Demand.Confined (schema : Schema) (tenant : String) : Demand → Prop
  | fetch {entity : Entity} {p : Predicate} (id : Uuid)
      (within : ∀ r : Record, r.meets p = true → r.tenant = tenant ∧ r.id = id) :
        Confined schema tenant (.fetch entity p)
  | list {name : String} {entity : Entity} {query : ListQuery}
      (find : schema.find name = .ok entity)
      (within : ∀ r : Record, r.meets query.predicate = true → r.tenant = tenant) :
      Confined schema tenant (.list entity query)
  | count {entity : Entity} {p : Predicate}
      (within : ∀ r : Record, r.meets p = true → r.tenant = tenant) :
      Confined schema tenant (.count entity p)
  | approval {workflows : Workflows} {caller : Caller} {entity : Entity} {draft : Draft}
      (own : caller.tenant = tenant) (within : draft.tenant = tenant) :
      Confined schema tenant (.approval workflows caller entity draft)
  | create {entity : Entity} {draft : Draft} (within : draft.tenant = tenant) :
      Confined schema tenant (.create entity draft)
  | write {entity : Entity} {id : Uuid} {guard : Predicate} {w : Write} {actor : String}
      (within : ∀ r : Record, r.meets guard = true → r.tenant = tenant) :
      Confined schema tenant (.write entity id guard w actor)
  | file (id : String) : Confined schema tenant (.file tenant id)
  | audit (entry : AuditEntry) : Confined schema tenant (.audit entry)
  | notify (n : Notification) : Confined schema tenant (.notify n)

theorem Record.tenant_of_scope {r : Record} {tenant entity : String} {deleted : Bool}
    {p : Predicate}
    (h : r.meets ((scopeWhere tenant entity deleted).both p) = true) : r.tenant = tenant := by
  rw [r.meets_both, Bool.and_eq_true, r.meets_scopeWhere, Bool.and_eq_true] at h
  simpa using h.1.1

namespace Service

variable {s : Service} {ctx : Context} {access : Access} {entity : Entity} {request : ListRequest}

theorem listQuery_scope {mask : FieldMask} {query : ListQuery}
    (h : s.listQuery ctx access entity request = .ok (mask, query)) :
    ∃ filters, query.wanted = (scope ctx.tenant entity.name).both filters := by
  obtain ⟨_, filters, _, _, -, -, -, -, -, -, rfl⟩ := listQuery_ok h
  exact ⟨filters, rfl⟩

end Service

/-- **Every demand of a request is scoped to the caller's tenant.** -/
theorem ServiceRequest.Makes.confined {s : Service} {q : ServiceRequest} {entity : Entity}
    {access : Access}
    {d : Demand} (hfind : s.schema.find q.entity = .ok entity) (h : q.Makes s entity access d) :
    d.Confined s.schema q.ctx.tenant := by
  have hquery {request : ListRequest} {mask : FieldMask} {query : ListQuery}
      (hasks : s.listQuery q.ctx access entity request = .ok (mask, query)) (r : Record)
      (hr : r.meets query.predicate = true) : r.tenant = q.ctx.tenant := by
    obtain ⟨filters, hwanted⟩ := Service.listQuery_scope hasks
    unfold ListQuery.predicate at hr
    rw [hwanted, r.meets_both, Bool.and_eq_true] at hr
    exact Record.tenant_of_scope hr.1
  cases h with
  | @fetch id forced aims =>
    refine .fetch id fun r hr => ?_
    obtain ⟨htenant, -, -, hid, -⟩ := (r.meets_reachable ..).1 hr
    exact ⟨htenant, hid⟩
  | explain id =>
    refine .fetch id fun r hr => ⟨Record.tenant_of_scope hr, ?_⟩
    rw [r.meets_both, Bool.and_eq_true, r.meets_byId] at hr
    simpa using hr.2
  | @write id forced w aims writes =>
    refine .write fun r hr => ?_
    rw [r.meets_both, Bool.and_eq_true] at hr
    exact ((r.meets_reachable ..).1 hr.1).1
  | approval data => exact .approval rfl rfl
  | create operation submits required => exact .create rfl
  | target id find => exact .count fun r hr => Record.tenant_of_scope hr
  | total operation asks => exact .count (hquery asks)
  | page operation asks => exact .list hfind (hquery asks)
  | targets ids find =>
    refine .list find fun r hr => ?_
    unfold ListQuery.predicate at hr
    exact Record.tenant_of_scope hr
  | file id => exact .file id
  | audit entry => exact .audit entry
  | notify n => exact .notify n

/-! ## A tenant alone -/

namespace Store

def ofTenant (store : Store) (tenant : String) : Store :=
  ⟨store.records.filter fun _ r => r.tenant == tenant⟩

variable {store : Store} {tenant : String}

theorem find?_ofTenant {id : Uuid} {r : Record} :
    (store.ofTenant tenant).find? id = some r ↔ store.find? id = some r ∧ r.tenant = tenant := by
  unfold find? ofTenant
  rw [Dict.get?_filter, Option.filter_eq_some_iff, beq_iff_eq]

theorem ext {a b : Store} (h : ∀ id, a.find? id = b.find? id) : a = b := by
  cases a
  cases b
  exact congrArg Store.mk (Dict.ext h)

@[simp] theorem ofTenant_ofTenant :
    (store.ofTenant tenant).ofTenant tenant = store.ofTenant tenant := by
  apply ext
  intro id
  apply Option.ext
  intro r
  rw [find?_ofTenant, find?_ofTenant]
  tauto

/-- A record of the tenant that is put in place of another of the tenant, or in an empty place. -/
theorem ofTenant_insert {id : Uuid} {r : Record} (hr : r.tenant = tenant) :
    (⟨store.records.insert id r⟩ : Store).ofTenant tenant =
      ⟨(store.ofTenant tenant).records.insert id r⟩ := by
  apply ext
  intro id'
  apply Option.ext
  intro r'
  rw [find?_ofTenant, find?_insert, find?_insert]
  split
  · constructor
    · exact fun h => h.1
    · intro h
      cases h
      exact ⟨rfl, hr⟩
  · exact find?_ofTenant.symm

/-- Where a predicate only admits records of the tenant, the others have no part in what matches. -/
theorem matching_ofTenant {entity : Entity} {p : Predicate}
    (hp : ∀ r : Record, r.meets p = true → r.tenant = tenant) :
    (store.ofTenant tenant).matching entity p = store.matching entity p := by
  have hvalues : (store.ofTenant tenant).records.values =
      store.records.values.filter fun r => r.tenant == tenant := by
    unfold ofTenant Dict.values Dict.filter
    rw [List.filter_map]
    rfl
  unfold matching
  rw [hvalues, List.filter_filter]
  apply List.filter_congr
  intro r _
  unfold concerns
  by_cases hmeets : r.meets p = true
  · simp [hp r hmeets]
  · simp [hmeets]

end Store

/-! ## One demand -/

/-- Surroundings that are the same to a caller, but may walk the records of a store in another
order. -/
structure Surroundings.Alike (e e' : Surroundings) (caller : Caller) : Prop where
  access : e.access caller = e'.access caller
  file : ∀ id, e.file caller.tenant id = e'.file caller.tenant id
  newId : e.newId = e'.newId
  time : e.time = e'.time

theorem Surroundings.Alike.refl (e : Surroundings) (caller : Caller) : e.Alike e caller :=
  ⟨rfl, fun _ => rfl, rfl, rfl⟩

namespace Demand.Confined

variable {schema : Schema} {caller : Caller} {e e' : Surroundings} {store : Store}

/-- The records that match in whatever order, and those that match among the tenant's own. -/
theorem perm_matching {tenant : String} (entity : Entity) {p : Predicate}
    (hp : ∀ r : Record, r.meets p = true → r.tenant = tenant) (e : Surroundings) (store : Store) :
    ((e.order store.records.values).filter (Store.concerns entity p)).Perm
      ((store.ofTenant tenant).matching entity p) := by
  rw [Store.matching_ofTenant hp]
  exact (e.order_perm _).filter _

theorem find?_eq {tenant : String} (entity : Entity) {p : Predicate} {id : Uuid}
    (hp : ∀ r : Record, r.meets p = true → r.tenant = tenant ∧ r.id = id)
    (htyped : (store.ofTenant tenant).Typed schema) (e : Surroundings) :
    (e.order store.records.values).find? (Store.concerns entity p) =
      ((store.ofTenant tenant).matching entity p).head? := by
  have hperm := perm_matching entity (fun r hr => (hp r hr).1) e store
  rw [← List.head?_filter]
  -- At most one record matches, and a list with at most one item has only one order.
  cases hmatching : (store.ofTenant tenant).matching entity p with
  | nil =>
    rw [hmatching] at hperm
    rw [hperm.eq_nil]
  | cons r rest =>
    have hids : (((store.ofTenant tenant).matching entity p).map (·.id)).Nodup :=
      (List.filter_sublist.map _).nodup htyped.nodup_ids
    have hid {r' : Record} (hr' : r' ∈ (store.ofTenant tenant).matching entity p) : r'.id = id := by
      have hconcerns := (List.mem_filter.1 hr').2
      exact (hp r' (Store.concerns_iff.1 hconcerns).2).2
    cases rest with
    | nil =>
      rw [hmatching] at hperm
      rw [hperm.eq_singleton]
    | cons r' rest =>
      rw [hmatching] at hids hid
      have hne := (List.pairwise_cons.1 (List.pairwise_map.1 hids)).1 r' List.mem_cons_self
      exact absurd ((hid List.mem_cons_self).trans (hid (by simp)).symm) hne

theorem page_eq (hs : schema.Registered) {tenant name : String} {entity : Entity}
    {query : ListQuery} (hfind : schema.find name = .ok entity)
    (hp : ∀ r : Record, r.meets query.predicate = true → r.tenant = tenant)
    (htyped : (store.ofTenant tenant).Typed schema) (e : Surroundings) :
    query.page ((e.order store.records.values).filter (Store.concerns entity query.predicate)) =
      query.page ((store.ofTenant tenant).matching entity query.predicate) := by
  obtain ⟨hfits, hids⟩ := htyped.fits_of_matching (p := query.predicate) (hs.find_name hfind)
  unfold ListQuery.page
  rw [sorted_eq_of_perm query.sort (hs.sound hfind).2 hfits hids (perm_matching entity hp e store)]

theorem countP_eq {tenant : String} (entity : Entity) {p : Predicate}
    (hp : ∀ r : Record, r.meets p = true → r.tenant = tenant) (e : Surroundings) (store : Store) :
    (e.order store.records.values).countP (Store.concerns entity p) =
      ((store.ofTenant tenant).matching entity p).length := by
  rw [List.countP_eq_length_filter]
  exact (perm_matching entity hp e store).length_eq

/-- A new record takes a free identifier, or is refused where the tenant itself has taken it. -/
theorem create_alone {draft : Draft} (htenant : draft.tenant = caller.tenant)
    (halike : e.Alike e' caller)
    (hnew : ∀ r, store.find? e.newId = some r → r.tenant = caller.tenant) :
    (e.create store draft).1 = (e'.create (store.ofTenant caller.tenant) draft).1 ∧
      (e.create store draft).2.ofTenant caller.tenant =
        (e'.create (store.ofTenant caller.tenant) draft).2 := by
  have hr : (draft.record e.newId e.time).tenant = caller.tenant := htenant
  rcases e.create_cases store draft with ⟨hfree, hcreate⟩ | ⟨htaken, hcreate⟩
  · rcases e'.create_cases (store.ofTenant caller.tenant) draft with ⟨-, hcreate'⟩ | ⟨htaken', -⟩
    · rw [hcreate, hcreate', ← halike.newId, ← halike.time]
      exact ⟨rfl, Store.ofTenant_insert hr⟩
    · rw [← halike.newId] at htaken'
      obtain ⟨r, hr'⟩ := Option.isSome_iff_exists.1 htaken'
      rw [(Store.find?_ofTenant.1 hr').1] at hfree
      cases hfree
  · obtain ⟨r, hr'⟩ := Option.isSome_iff_exists.1 htaken
    have hown := Store.find?_ofTenant.2 ⟨hr', hnew r hr'⟩
    rcases e'.create_cases (store.ofTenant caller.tenant) draft with ⟨hfree', -⟩ | ⟨-, hcreate'⟩
    · rw [← halike.newId, hown] at hfree'
      cases hfree'
    · rw [hcreate, hcreate', ← halike.newId]
      exact ⟨rfl, rfl⟩

theorem write_alone {tenant : String} (entity : Entity) (id : Uuid) {guard : Predicate}
    (hp : ∀ r : Record, r.meets guard = true → r.tenant = tenant) (w : Write) (stamp : Stamp)
    (store : Store) :
    (store.write entity id guard w stamp).1 =
      ((store.ofTenant tenant).write entity id guard w stamp).1 ∧
      (store.write entity id guard w stamp).2.ofTenant tenant =
        ((store.ofTenant tenant).write entity id guard w stamp).2 := by
  unfold Store.write
  rcases store.change_cases entity id guard (w.apply stamp) with
    ⟨before, hfound, hguard, hchange⟩ | ⟨hmiss, hchange⟩
  · have htenant : before.tenant = tenant := hp before (Store.concerns_iff.1 hguard).2
    have hown := Store.find?_ofTenant.2 ⟨hfound, htenant⟩
    rcases (store.ofTenant tenant).change_cases entity id guard (w.apply stamp) with
      ⟨before', hfound', -, hchange'⟩ | ⟨hmiss', -⟩
    · rw [hown] at hfound'
      cases hfound'
      rw [hchange, hchange']
      exact ⟨rfl, Store.ofTenant_insert ((w.apply_tenant stamp before).trans htenant)⟩
    · rw [hmiss' before hown] at hguard
      cases hguard
  · rcases (store.ofTenant tenant).change_cases entity id guard (w.apply stamp) with
      ⟨before', hfound', hguard', -⟩ | ⟨-, hchange'⟩
    · rw [hmiss before' (Store.find?_ofTenant.1 hfound').1] at hguard'
      cases hguard'
    · rw [hchange, hchange']
      exact ⟨rfl, rfl⟩

/-- **The answer to a confined demand is that of the tenant alone**, and so is what it does to the
records of the tenant. -/
theorem answer_alone (hs : schema.Registered) {d : Demand} (h : d.Confined schema caller.tenant)
    (halike : e.Alike e' caller) (htyped : (store.ofTenant caller.tenant).Typed schema)
    (hnew : ∀ r, store.find? e.newId = some r → r.tenant = caller.tenant) :
    (e.answer store d).1 = (e'.answer (store.ofTenant caller.tenant) d).1 ∧
      (e.answer store d).2.ofTenant caller.tenant =
        (e'.answer (store.ofTenant caller.tenant) d).2 := by
  have htyped' : ((store.ofTenant caller.tenant).ofTenant caller.tenant).Typed schema := by
    rw [Store.ofTenant_ofTenant]
    exact htyped
  cases h with
  | @fetch entity p id hp =>
    have h := find?_eq entity hp htyped e
    have h' := find?_eq entity hp htyped' e'
    rw [Store.ofTenant_ofTenant] at h'
    exact ⟨congrArg Except.ok (h.trans h'.symm), rfl⟩
  | @list name entity query hfind hp =>
    have h := page_eq hs hfind hp htyped e
    have h' := page_eq hs hfind hp htyped' e'
    rw [Store.ofTenant_ofTenant] at h'
    exact ⟨congrArg Except.ok (h.trans h'.symm), rfl⟩
  | @count entity p hp =>
    have h := countP_eq entity hp e store
    have h' := countP_eq entity hp e' (store.ofTenant caller.tenant)
    rw [Store.ofTenant_ofTenant] at h'
    exact ⟨congrArg Except.ok (h.trans h'.symm), rfl⟩
  | @approval workflows asking entity draft =>
    refine ⟨?_, rfl⟩
    show workflows.approval asking entity (draft.record e.newId e.time) =
      workflows.approval asking entity (draft.record e'.newId e'.time)
    rw [halike.newId, halike.time]
  | create htenant => exact create_alone htenant halike hnew
  | @write entity id guard w actor hp =>
    have h := write_alone entity id hp w ⟨actor, e.time⟩ store
    constructor
    · show _ = Except.ok
        ((store.ofTenant caller.tenant).write entity id guard w ⟨actor, e'.time⟩).1
      rw [← halike.time]
      exact congrArg Except.ok h.1
    · show _ = ((store.ofTenant caller.tenant).write entity id guard w ⟨actor, e'.time⟩).2
      rw [← halike.time]
      exact h.2
  | file id => exact ⟨halike.file id, rfl⟩
  | audit entry => exact ⟨rfl, rfl⟩
  | notify n => exact ⟨rfl, rfl⟩

/-- A confined demand leaves the records of other tenants as they are. -/
theorem answer_foreign {tenant : String} {d : Demand} (h : d.Confined schema tenant)
    (e : Surroundings) (store : Store) {id : Uuid} {r : Record} (hr : r.tenant ≠ tenant) :
    (e.answer store d).2.find? id = some r ↔ store.find? id = some r := by
  rcases e.answer_store store d with hsame | ⟨entity, draft, rfl, hfree, hput⟩ |
    ⟨entity, target, guard, w, actor, before, rfl, hfound, hguard, hwritten⟩
  · rw [hsame]
  · rw [hput, Store.find?_put]
    split
    · rename_i hid
      subst hid
      constructor
      · intro heq
        cases heq
        cases h with
        | create htenant => exact absurd htenant hr
      · intro heq
        rw [show (draft.record e.newId e.time).id = e.newId from rfl, hfree] at heq
        cases heq
    · rfl
  · rw [hwritten, Store.find?_insert]
    have htenant : before.tenant = tenant := by
      cases h with
      | write hp => exact hp before (Store.concerns_iff.1 hguard).2
    split
    · rename_i hid
      subst hid
      constructor
      · intro heq
        cases heq
        exact absurd ((w.apply_tenant _ before).trans htenant) hr
      · intro heq
        rw [hfound] at heq
        cases heq
        exact absurd htenant hr
    · rfl

/-- Nor does it let another tenant take the identifier that new records of the tenant get. -/
theorem answer_newId {tenant : String} {d : Demand} (h : d.Confined schema tenant)
    {e : Surroundings}
    {store : Store} {id : Uuid} (hown : ∀ r, store.find? id = some r → r.tenant = tenant) :
    ∀ r, (e.answer store d).2.find? id = some r → r.tenant = tenant := by
  intro r hr
  by_contra hforeign
  exact hforeign (hown r ((h.answer_foreign e store hforeign).1 hr))

end Demand.Confined

/-! ## A whole request -/

namespace ServiceRequest

variable {s : Service} {q : ServiceRequest} {entity : Entity} {access : Access}
    {e e' : Surroundings}

theorem Makes.answer_typed {d : Demand} (h : q.Makes s entity access d) (hs : s.schema.Registered)
    (hfind : s.schema.find q.entity = .ok entity) (e : Surroundings) {store : Store}
    (htyped : store.Typed s.schema) : (e.answer store d).2.Typed s.schema := by
  rcases h.answer_store hfind e store with hsame | hchanges
  · rw [hsame]
    exact htyped
  · exact hchanges.typed hs htyped

/-- What a tenant gets and keeps is what it gets and keeps alone in the store; the others keep
theirs. -/
structure ServedAlone {α : Type} (tenant : String) (e e' : Surroundings) (c : Call α)
    (store : Store) : Prop where
  result : (c.serve e store).1 = (c.serve e' (store.ofTenant tenant)).1
  own : (c.serve e store).2.ofTenant tenant = (c.serve e' (store.ofTenant tenant)).2
  foreign : ∀ id r, r.tenant ≠ tenant →
    ((c.serve e store).2.find? id = some r ↔ store.find? id = some r)

/-- **Calls that make only demands of a request are served as if the tenant were alone.** The
induction is along the call; the records of the tenant stay typed on the way, and no other tenant
comes to hold the identifier of the next new record. -/
theorem serve_alone {α : Type} {Q : Except Fault α → Prop} {c : Call α} (hs : s.schema.Registered)
    (hfind : s.schema.find q.entity = .ok entity) (h : c.Obeys (q.Makes s entity access) Q)
    (halike : e.Alike e' q.ctx.toCaller) (store : Store)
    (htyped : (store.ofTenant q.ctx.tenant).Typed s.schema)
    (hnew : ∀ r, store.find? e.newId = some r → r.tenant = q.ctx.tenant) :
    ServedAlone q.ctx.tenant e e' c store := by
  induction h generalizing store with
  | done h => exact ⟨rfl, rfl, fun _ _ _ => Iff.rfl⟩
  | @ask d next hmakes _ ih =>
    have hconfined := hmakes.confined hfind
    obtain ⟨hanswer, hown⟩ := hconfined.answer_alone hs halike htyped hnew
    have hrest := ih (e.answer store d).1 (e.answer store d).2
      (by rw [hown]; exact hmakes.answer_typed hs hfind e' htyped) (hconfined.answer_newId hnew)
    refine ⟨?_, ?_, fun id r hr => ?_⟩
    · rw [Call.serve, Call.serve, ← hanswer, ← hown]
      exact hrest.result
    · rw [Call.serve, Call.serve, ← hanswer, ← hown]
      exact hrest.own
    · rw [Call.serve, hrest.foreign id r hr]
      exact hconfined.answer_foreign e store hr

theorem call_served_alone (hs : s.schema.Registered) (q : ServiceRequest)
    (halike : e.Alike e' q.ctx.toCaller) (store : Store)
    (htyped : (store.ofTenant q.ctx.tenant).Typed s.schema)
    (hnew : ∀ r, store.find? e.newId = some r → r.tenant = q.ctx.tenant) :
    ServedAlone q.ctx.tenant e e' (q.call s) store := by
  have henters := q.call_enters s
  generalize q.call s = c at henters
  cases henters with
  | refused fault => exact ⟨rfl, rfl, fun _ _ _ => Iff.rfl⟩
  | @asks next ok error =>
    have hleft := Call.serve_access e q.ctx.toCaller next store
    have hright := Call.serve_access e' q.ctx.toCaller next (store.ofTenant q.ctx.tenant)
    rw [← halike.access] at hright
    have hserved : ServedAlone q.ctx.tenant e e' (next (e.access q.ctx.toCaller)) store := by
      cases e.access q.ctx.toCaller with
      | error fault =>
        rw [error]
        exact ⟨rfl, rfl, fun _ _ _ => Iff.rfl⟩
      | ok access =>
        obtain ⟨entity, hfind, hobeys⟩ := ok access
        exact serve_alone hs hfind hobeys halike store htyped hnew
    refine ⟨?_, ?_, fun id r hr => ?_⟩
    · rw [hleft, hright]
      exact hserved.result
    · rw [hleft, hright]
      exact hserved.own
    · rw [hleft]
      exact hserved.foreign id r hr

/-- **Tenants are isolated.** Two stores that hold the same typed records of a tenant, whatever
else they hold and in whatever order they walk it, serve each request of the tenant alike: the
results are the same, the records of the tenant are the same afterwards, and every other record is
left as it was. -/
theorem tenants_isolated (hs : s.schema.Registered) (q : ServiceRequest)
    (halike : e.Alike e' q.ctx.toCaller) (store store' : Store)
    (hsame : ∀ id r, r.tenant = q.ctx.tenant → (store.find? id = some r ↔ store'.find? id = some r))
    (htyped : ∀ id r, store.find? id = some r → r.tenant = q.ctx.tenant →
      r.id = id ∧ r.Typed s.schema)
    (hfresh : store.find? e.newId = none) (hfresh' : store'.find? e.newId = none) :
    ((q.call s).serve e store).1 = ((q.call s).serve e' store').1 ∧
      (∀ id r, r.tenant = q.ctx.tenant →
        (((q.call s).serve e store).2.find? id = some r ↔
          ((q.call s).serve e' store').2.find? id = some r)) ∧
      (∀ id r, r.tenant ≠ q.ctx.tenant →
        (((q.call s).serve e store).2.find? id = some r ↔ store.find? id = some r)) ∧
      ∀ id r, r.tenant ≠ q.ctx.tenant →
        (((q.call s).serve e' store').2.find? id = some r ↔ store'.find? id = some r) := by
  have halone : store'.ofTenant q.ctx.tenant = store.ofTenant q.ctx.tenant := by
    apply Store.ext
    intro id
    apply Option.ext
    intro r
    rw [Store.find?_ofTenant, Store.find?_ofTenant]
    exact and_congr_left fun hr => (hsame id r hr).symm
  have htyped_alone : (store.ofTenant q.ctx.tenant).Typed s.schema := by
    constructor
    · intro id r hr
      obtain ⟨hfound, htenant⟩ := Store.find?_ofTenant.1 hr
      exact (htyped id r hfound htenant).1
    · intro id r hr
      obtain ⟨hfound, htenant⟩ := Store.find?_ofTenant.1 hr
      exact (htyped id r hfound htenant).2
  have hserved := call_served_alone hs q halike store htyped_alone fun r hr => by
    rw [hfresh] at hr
    cases hr
  have hserved' := call_served_alone hs q (.refl e' _) store' (halone.symm ▸ htyped_alone)
    fun r hr => by
      rw [← halike.newId, hfresh'] at hr
      cases hr
  refine ⟨?_, ?_, hserved.foreign, hserved'.foreign⟩
  · rw [hserved.result, hserved'.result, halone]
  · have hown : ((q.call s).serve e store).2.ofTenant q.ctx.tenant =
        ((q.call s).serve e' store').2.ofTenant q.ctx.tenant := by
      rw [hserved.own, hserved'.own, halone]
    intro id r hr
    have hfind := congrArg (fun alone : Store => alone.find? id = some r) hown
    simp only [Store.find?_ofTenant, hr, and_true, eq_iff_iff] at hfind
    exact hfind

open Sample in
/-- A record that another tenant has put beside a task makes no difference to a list of tasks. -/
theorem foreign_record_unseen : ∃ store store' : Store, ∃ e : Surroundings,
    (∃ id r, r.tenant ≠ "acme" ∧ store'.find? id = some r ∧ store.find? id = none) ∧
      (∃ id r, r.tenant = "acme" ∧ store.find? id = some r) ∧
      store.find? e.newId = none ∧ store'.find? e.newId = none ∧
      ((ServiceRequest.call service ⟨Sample.ctx, task.name, .list {}⟩).serve e store).1 =
        ((ServiceRequest.call service ⟨Sample.ctx, task.name, .list {}⟩).serve e store').1 := by
  let foreign : Record := .create ⟨1, by decide⟩ "globex" task.name ⟨"bob", .epoch⟩ ∅
  have hfree : (((World.quiet .empty).run service creation).store.find? foreign.id).isNone := by
    decide +kernel
  have hfresh :
      (((World.quiet .empty).run service creation).store.find? ⟨2, by decide⟩).isNone := by
    decide +kernel
  have hown :
      (((World.quiet .empty).run service creation).store.find? .nil).any (·.tenant == "acme") := by
    decide +kernel
  have htyped := World.typed_of_run (s := service) registered creation
  generalize ((World.quiet .empty).run service creation).store = store at hfree hfresh hown htyped
  rw [Option.isNone_iff_eq_none] at hfree hfresh
  obtain ⟨r, hr, htenant⟩ := (Option.any_eq_true ..).1 hown
  have hfresh' : (store.put foreign).find? ⟨2, by decide⟩ = none := by
    rw [Store.find?_put, if_neg (by decide), hfresh]
  refine ⟨store, store.put foreign, surroundings ⟨2, by decide⟩,
    ⟨foreign.id, foreign, by decide, ?_, hfree⟩,
    ⟨.nil, r, by simpa using htenant, hr⟩, hfresh, hfresh', ?_⟩
  · rw [Store.find?_put, if_pos rfl]
  refine (tenants_isolated registered ⟨Sample.ctx, task.name, .list {}⟩
    (.refl (surroundings ⟨2, by decide⟩) _) store (store.put foreign) (fun id r' hr' => ?_)
    (fun id r' hr' _ => ⟨htyped.keyed id r' hr', htyped.typed id r' hr'⟩)
    hfresh hfresh').1
  rw [Store.find?_put]
  split
  · rename_i hid
    subst hid
    rw [hfree]
    constructor
    · intro h
      cases h
    · intro h
      cases h
      exact absurd hr' (by decide)
  · rfl

end ServiceRequest

end Dossier
