import Dossier.Proofs.GuardedWrites
import Dossier.Proofs.Report
import Dossier.Proofs.WriteFrame

/-!
# Which row conditions bind

A permission can be restricted to the records that meet a row condition. Reading, changing, deleting
and restoring ask for the condition of their action and keep to it (`ServiceRequest.ActsOn`). Two
conditions are never asked for.

**Creations** do not look at the condition of the permission to create: they are served as if it had
none (`create_unconditioned`).

**Replies to writes** are masked field by field, by what the caller may read of the entity. The
condition of the permission to read has no part in it (`change_unconditioned`), so a caller who may
delete a record but may not read it is shown its fields.

The condition is taken out of a permission by `Permission.unconditioned`, and of one action out of
everything that a caller is granted by `Surroundings.unconditioned`; what is served the same after that
has not looked at it.

Main results: `row_conditions_bind_but_creations` and `replies_ignore_row_conditions`.
-/

namespace Dossier

/-! ## Without conditions -/

/-- The same leave, for all records. -/
def Permission.unconditioned (p : Permission) : Permission := { p with condition := none }

/-- A grant in which the permission for an action has no condition. -/
def EntityGrant.unconditioned (action : Action) (g : EntityGrant) : EntityGrant :=
  match action with
  | .create => { g with create := g.create.map Permission.unconditioned }
  | .read => { g with read := g.read.map Permission.unconditioned }
  | .update => { g with update := g.update.map Permission.unconditioned }
  | .delete => { g with delete := g.delete.map Permission.unconditioned }

def Role.unconditioned (action : Action) (r : Role) : Role :=
  { r with entities := r.entities.mapEntries fun _ g => g.unconditioned action }

def Access.unconditioned (action : Action) (a : Access) : Access :=
  ⟨a.roles.map (·.unconditioned action)⟩

/-- Surroundings that grant the same, but an action without conditions. -/
def Surroundings.unconditioned (action : Action) (e : Surroundings) : Surroundings :=
  { e with access := fun caller => (e.access caller).map (·.unconditioned action) }

theorem EntityGrant.action_unconditioned (g : EntityGrant) (action other : Action) :
    (g.unconditioned action).action other =
      if other = action then (g.action other).map Permission.unconditioned else g.action other := by
  cases action <;> cases other <;> rfl

theorem Role.grantFor_unconditioned (r : Role) (action : Action) (entity : String) :
    (r.unconditioned action).grantFor entity =
      (r.grantFor entity).map (·.unconditioned action) := by
  unfold grantFor unconditioned
  rw [Dict.get?_mapEntries, Dict.get?_mapEntries]
  cases r.entities.get? entity <;> rfl

namespace Permission

/-- Leave is put together from the same permissions, so only the condition goes. -/
theorem union_unconditioned (permissions : List Permission) :
    union (permissions.map unconditioned) = (union permissions).map unconditioned := by
  have hallowing : (permissions.map unconditioned).filter (·.allowed) =
      (permissions.filter (·.allowed)).map unconditioned := by
    rw [List.filter_map]
    rfl
  unfold union
  rw [hallowing]
  cases permissions.filter (·.allowed) with
  | nil => rfl
  | cons p rest =>
    have haccess (ps : List Permission) (field : String) :
        unionAccess (ps.map unconditioned) field = unionAccess ps field := by
      rw [unionAccess, List.foldl_map]
      rfl
    have hrules (ps : List Permission) : unionRules (ps.map unconditioned) = unionRules ps := by
      unfold unionRules
      simp only [List.flatMap_map, haccess]
      rfl
    have hfilterable (ps : List Permission) :
        unionFilterable (ps.map unconditioned) = unionFilterable ps := by
      simp [unionFilterable, List.all_map, List.flatMap_map, unconditioned, Function.comp_def]
    show some _ = some _
    rw [show unionCondition ((p :: rest).map unconditioned) = none from rfl, hfilterable, hrules]
    rfl

end Permission

namespace Access

variable {access : Access} {entity : String} {action other : Action}

theorem roleNames_unconditioned (access : Access) (action : Action) :
    (access.unconditioned action).roleNames = access.roleNames := by
  simp [roleNames, unconditioned, Role.unconditioned]

theorem permissions_unconditioned (access : Access) (entity : String) (action other : Action) :
    (access.unconditioned action).permissions entity other =
      if other = action then (access.permissions entity other).map Permission.unconditioned
      else access.permissions entity other := by
  unfold permissions unconditioned
  rw [List.filterMap_map]
  have hrole (r : Role) : ((r.unconditioned action).grantFor entity).bind (·.action other) =
      if other = action then
        ((r.grantFor entity).bind (·.action other)).map Permission.unconditioned
      else (r.grantFor entity).bind (·.action other) := by
    rw [r.grantFor_unconditioned]
    cases r.grantFor entity with
    | none => simp
    | some g => exact g.action_unconditioned action other
  split
  · rename_i heq
    simp only [Function.comp_def, hrole, if_pos heq, List.map_filterMap]
  · rename_i hne
    simp only [Function.comp_def, hrole, if_neg hne]

/-- Without its condition a permission is granted all the same. -/
theorem authorize_unconditioned (access : Access) (entity : String) (action : Action) :
    (access.unconditioned action).authorize entity action =
      (access.authorize entity action).map Permission.unconditioned := by
  unfold authorize
  rw [permissions_unconditioned, if_pos rfl, Permission.union_unconditioned]
  cases Permission.union (access.permissions entity action) <;> rfl

theorem authorize_unconditioned_of_ne (h : other ≠ action) :
    (access.unconditioned action).authorize entity other = access.authorize entity other := by
  unfold authorize
  rw [permissions_unconditioned, if_neg h]

theorem readMask_unconditioned (access : Access) (entity : Entity) (action : Action) :
    (access.unconditioned action).readMask entity = access.readMask entity := by
  unfold readMask
  cases action with
  | read =>
    rw [authorize_unconditioned]
    cases access.authorize entity.name .read <;> rfl
  | _ => rw [authorize_unconditioned_of_ne (by decide)]

end Access

/-! ## Calls without conditions -/

/-- Demands that do not ask who the caller is. -/
def Demand.Inside : Demand → Prop
  | .access _ => False
  | _ => True

theorem ServiceRequest.Makes.inside {s : Service} {q : ServiceRequest} {entity : Entity}
    {access : Access} {d : Demand} (h : q.Makes s entity access d) : d.Inside := by
  cases h <;> trivial

/-- What a caller is granted plays no part any more. -/
theorem Call.Obeys.serve_unconditioned {α : Type} {Q : Except Fault α → Prop} {c : Call α}
    (h : c.Obeys Demand.Inside Q) (action : Action) (e : Surroundings) (store : Store) :
    c.serve (e.unconditioned action) store = c.serve e store := by
  induction h generalizing store with
  | done _ => rfl
  | @ask d next inside _ ih =>
    have hanswer : (e.unconditioned action).answer store d = e.answer store d := by
      cases d with
      | access caller => exact inside.elim
      | _ => rfl
    rw [Call.serve, Call.serve, hanswer]
    exact ih _ _

namespace Service

variable {s : Service} {q : ServiceRequest} {action : Action}

/-- An operation that goes on in the same way without a condition has not looked at it. -/
theorem serve_enter_unconditioned {α : Type} {f : Entity × Access → Call α}
    (henters : (s.enter q.ctx q.entity >>= f).Enters q.ctx.toCaller (q.Proceeds s))
    (hsame : ∀ entity access, f (entity, access.unconditioned action) = f (entity, access))
    (e : Surroundings) (store : Store) :
    (s.enter q.ctx q.entity >>= f).serve (e.unconditioned action) store =
      (s.enter q.ctx q.entity >>= f).serve e store := by
  cases hfind : s.schema.find q.entity with
  | error error =>
    have hunknown : s.enter q.ctx q.entity >>= f = .done (.error (Fault.ofSchemaError error)) := by
      show ((Call.done _).bind _).bind f = _
      rw [hfind]
      rfl
    rw [hunknown]
    rfl
  | ok entity =>
    have henter : s.enter q.ctx q.entity >>= f = .ask (.access q.ctx.toCaller) fun answer =>
        (Call.done answer).bind fun access => f (entity, access) := by
      show ((Call.done _).bind _).bind f = _
      rw [hfind]
      exact congrArg (Call.ask _) (funext fun answer => by cases answer <;> rfl)
    rw [henter] at henters ⊢
    rw [Call.serve_access, Call.serve_access]
    show ((Call.done ((e.access _).map _)).bind _).serve _ store = _
    cases haccess : e.access q.ctx.toCaller with
    | error fault => rfl
    | ok access =>
      show (f (entity, access.unconditioned action)).serve _ store = (f (entity, access)).serve e store
      rw [hsame]
      cases henters with
      | asks hproceeds _ =>
        obtain ⟨_, -, hobeys⟩ := hproceeds access
        have hinside : (f (entity, access)).Obeys Demand.Inside fun _ => True :=
          Call.Obeys.mono hobeys (fun _ h => h.inside) fun _ _ => trivial
        exact hinside.serve_unconditioned action e store

/-- A creation does not look at the condition of the permission to create. -/
theorem create_unconditioned {payload : Json} (hop : q.operation = .create payload)
    (e : Surroundings) (store : Store) :
    (s.create q.ctx q.entity payload).serve (e.unconditioned .create) store =
      (s.create q.ctx q.entity payload).serve e store := by
  refine serve_enter_unconditioned (ServiceRequest.create_enters hop) (fun entity access => ?_) e store
  dsimp only
  rw [access.authorize_unconditioned, access.readMask_unconditioned]
  cases access.authorize entity.name .create <;> rfl

theorem forced_unconditioned (ctx : Context) (access : Access) (entity : Entity) {other : Action}
    (h : other ≠ action) :
    forced ctx (access.unconditioned action) entity other = forced ctx access entity other := by
  rw [forced, access.authorize_unconditioned_of_ne h, Context.variables, access.roleNames_unconditioned]
  rfl

theorem shownAfterWrite_unconditioned (access : Access) (entity : Entity) (r : Record) :
    shownAfterWrite (access.unconditioned action) entity r = shownAfterWrite access entity r := by
  rw [shownAfterWrite, access.readMask_unconditioned]
  rfl

/-- A change does not look at the condition of the permission to read. -/
theorem update_unconditioned {text : String} {payload : Json}
    (hop : q.operation = .update text payload) (e : Surroundings) (store : Store) :
    (s.update q.ctx q.entity text payload).serve (e.unconditioned .read) store =
      (s.update q.ctx q.entity text payload).serve e store := by
  refine serve_enter_unconditioned (ServiceRequest.update_enters hop) (fun entity access => ?_) e store
  dsimp only
  rw [access.authorize_unconditioned_of_ne (by decide), access.readMask_unconditioned,
    forced_unconditioned _ _ _ (by decide)]

theorem mark_unconditioned {text : String} {deleted : Bool} {w : Write} {logged : Action}
    (henters : (s.mark q.ctx q.entity text deleted w logged).Enters q.ctx.toCaller (q.Proceeds s))
    (e : Surroundings) (store : Store) :
    (s.mark q.ctx q.entity text deleted w logged).serve (e.unconditioned .read) store =
      (s.mark q.ctx q.entity text deleted w logged).serve e store := by
  refine serve_enter_unconditioned henters (fun entity access => ?_) e store
  dsimp only
  simp only [shownAfterWrite_unconditioned]
  rw [forced_unconditioned _ _ _ (by decide)]

end Service

namespace ServiceRequest

variable {s : Service} {q : ServiceRequest}

theorem serve_map_congr {α β : Type} {c : Call α} {e e' : Surroundings} {store : Store} (g : α → β)
    (h : c.serve e' store = c.serve e store) :
    (c >>= fun a => pure (g a)).serve e' store = (c >>= fun a => pure (g a)).serve e store := by
  cases hc : c.serve e store with
  | mk result after =>
    cases result with
    | ok a =>
      rw [Call.serve_bind_ok hc, Call.serve_bind_ok (h.trans hc)]
      rfl
    | error fault => rw [Call.serve_bind_error hc, Call.serve_bind_error (h.trans hc)]

/-- **A creation is served as if no permission to create had a condition.** -/
theorem creation_unconditioned (hop : q.operation.effect = .creates) (e : Surroundings)
    (store : Store) :
    (q.call s).serve (e.unconditioned .create) store = (q.call s).serve e store := by
  unfold call
  split <;> rename_i hcase <;> rw [hcase] at hop <;> try cases hop
  exact serve_map_congr _ (Service.create_unconditioned hcase e store)

/-- **A change is served as if no permission to read had a condition.** -/
theorem change_unconditioned (hop : q.operation.effect = .changes) (e : Surroundings)
    (store : Store) :
    (q.call s).serve (e.unconditioned .read) store = (q.call s).serve e store := by
  unfold call
  split <;> rename_i hcase <;> rw [hcase] at hop <;> try cases hop
  · exact serve_map_congr _ (Service.update_unconditioned hcase e store)
  · have henters := mark_enters (s := s) (w := .delete) .delete
      (by rw [hcase]; rfl) (by rw [hcase]; rfl) fun _ _ => ⟨_, hcase⟩
    rw [hcase] at henters
    exact serve_map_congr _ (Service.mark_unconditioned henters e store)
  · have henters := mark_enters (s := s) (w := .restore) .update
      (by rw [hcase]; rfl) (by rw [hcase]; rfl) fun _ _ => ⟨_, hcase⟩
    rw [hcase] at henters
    exact serve_map_congr _ (Service.mark_unconditioned henters e store)

end ServiceRequest

/-! ## A clerk -/

namespace Sample

/-- Leave for the tasks of one title. -/
def titled (title : String) : Permission :=
  { Permission.allow with condition := some (.compare ⟨"title", .eq, .string title⟩) }

def clerk (grant : EntityGrant) : Access :=
  ⟨[⟨"clerk", (∅ : Dict String EntityGrant).insert task.name grant⟩]⟩

/-- Surroundings in which everyone is a clerk. -/
def office (grant : EntityGrant) : Surroundings :=
  { surroundings .nil with access := fun _ => .ok (clerk grant) }

def showing : ServiceRequest := ⟨ctx, task.name, .get Uuid.nil.text⟩

def deleting : ServiceRequest := ⟨ctx, task.name, .delete Uuid.nil.text⟩

/-- The condition of a clerk's leave for an action, as it is compiled for the sample caller. -/
def rowCondition (grant : EntityGrant) (action : Action) : Option Predicate :=
  ((clerk grant).authorize task.name action).toOption.bind fun permission =>
    (permission.rowPredicate (ctx.variables (clerk grant)) task).toOption

def titleOf : ServiceReply → Option String
  | .object (.object members) => (Entries.get? "title" members).bind Json.text?
  | _ => none

/-- A clerk who may see only what is titled otherwise, but delete everything. -/
def eraser : EntityGrant := { read := some (titled "Act"), delete := some .allow }

/-- A clerk who may see everything, but create only what is titled otherwise. -/
def founder : EntityGrant := { read := some .allow, create := some (titled "Act") }

end Sample

/-! ## Records that are acted on -/

/-- The record that is read is stored and within reach. -/
theorem Service.fetchOne_ok {entity : Entity} {id : Uuid} {p : Predicate} {e : Surroundings}
    {store after : Store} {r : Record}
    (h : (fetchOne entity id p).serve e store = (.ok r, after)) :
    store = after ∧ r ∈ store.records.values ∧ Store.concerns entity p r = true := by
  obtain ⟨found, _, hfetch, h⟩ := Call.exists_serve_of_bind h
  obtain ⟨hfound, rfl⟩ := Prod.mk.inj hfetch
  have hfound := Except.ok.inj hfound
  cases found with
  | none => cases h
  | some r' =>
    cases h
    exact ⟨rfl, e.mem_of_found hfound⟩

/-- The records of a page are stored and meet what was asked for. -/
theorem Surroundings.mem_of_page (e : Surroundings) {store : Store} {entity : Entity}
    {query : ListQuery} {r : Record}
    (h : r ∈ query.page
      ((e.order store.records.values).filter (Store.concerns entity query.predicate))) :
    r ∈ store.records.values ∧ Store.concerns entity query.predicate r = true := by
  have hsorted := (List.drop_sublist ..).subset ((List.take_sublist ..).subset h)
  obtain ⟨hvalue, hconcerns⟩ := List.mem_filter.1 ((sorted_perm ..).mem_iff.1 hsorted)
  exact ⟨(e.order_perm _).mem_iff.1 hvalue, hconcerns⟩

theorem Shown.of_singleton {entity : Entity} {r : Record} {views : List Shown}
    (h : List.Forall₂ (Shown.Of entity) [r] views) : ∃ v : Shown, v.Of entity r ∧ views = [v] := by
  obtain ⟨v, others, hv, hothers, rfl⟩ := List.forall₂_cons_left_iff.1 h
  cases hothers
  exact ⟨v, hv, rfl⟩

namespace ServiceRequest

/-- A change that a request has made, and what it has shown of it. -/
structure Changed (s : Service) (q : ServiceRequest) (e : Surroundings) (store after : Store)
    (entity : Entity) (access : Access) (id : Uuid) (condition : Predicate) (before written : Record)
    (shown : Json) : Prop where
  find : s.schema.find q.entity = .ok entity
  granted : e.access q.ctx.toCaller = .ok access
  aims : q.Aims entity access id condition
  found : store.find? id = some before
  guarded : Store.concerns entity (q.guard entity id condition) before = true
  store : after = ⟨store.records.insert id written⟩
  shown : shown = Service.shownAfterWrite access entity written

variable {s : Service} {q : ServiceRequest} {e : Surroundings} {store after : Store} {entity : Entity}
  {access : Access} {shown : Json}

/-- The condition of the action holds for a record that is changed. -/
theorem Changed.meets {id : Uuid} {condition : Predicate} {before written : Record}
    (h : q.Changed s e store after entity access id condition before written shown) :
    before.meets condition = true := by
  have hguard := (Store.concerns_iff.1 h.guarded).2
  rw [guard, before.meets_both, Bool.and_eq_true, before.meets_reachable] at hguard
  exact hguard.1.2.2.2.2

theorem mark_changed {text : String} {w : Write} {logged : Action}
    (htarget : q.operation.target? = some text) (haction : q.operation.action = .delete)
    (h : (s.mark q.ctx q.entity text q.operation.onDeleted w logged).serve e store =
      (.ok shown, after)) :
    ∃ entity access id condition before written,
      q.Changed s e store after entity access id condition before written shown := by
  obtain ⟨⟨entity, access⟩, _, henter, h⟩ := Call.exists_serve_of_bind h
  obtain ⟨hfind, hgranted, rfl⟩ := Service.enter_ok henter
  dsimp only at h
  obtain ⟨condition, hcondition, h⟩ := Call.exists_ok_of_bind h
  obtain ⟨id, hid, h⟩ := Call.exists_ok_of_bind h
  obtain ⟨copy, _, hfetch, h⟩ := Call.exists_serve_of_bind h
  rw [Service.serve_fetchUnlocked] at hfetch
  obtain ⟨-, rfl⟩ := Prod.mk.inj hfetch
  obtain ⟨written, _, hcommit, h⟩ := Call.exists_serve_of_bind h
  obtain ⟨before, hfound, hguarded, -, rfl⟩ := Service.commit_ok hcommit
  cases h
  exact ⟨entity, access, id, condition, before, written, hfind, hgranted,
    ⟨⟨text, htarget, Service.recordId_ok hid⟩, by rw [haction]; exact hcondition⟩, hfound, hguarded,
    rfl, rfl⟩

theorem update_changed {text : String} {payload : Json} (hop : q.operation = .update text payload)
    (h : (s.update q.ctx q.entity text payload).serve e store = (.ok shown, after)) :
    ∃ entity access id condition before written mask, access.readMask entity = .ok mask ∧
      q.Changed s e store after entity access id condition before written shown := by
  rw [Service.update_eq] at h
  obtain ⟨c, _, hclear, h⟩ := Call.exists_serve_of_bind h
  obtain ⟨rfl, hc⟩ := Service.updateClearance_ok hclear
  obtain ⟨members, -, h⟩ := Call.exists_ok_of_bind h
  obtain ⟨changes, _, hgather, h⟩ := Call.exists_serve_of_bind h
  obtain ⟨rfl, -⟩ := Service.gather_ok hgather
  obtain ⟨written, _, hcommit, h⟩ := Call.exists_serve_of_bind h
  obtain ⟨before, hfound, hguarded, -, rfl⟩ := Service.commit_ok hcommit
  cases h
  refine ⟨c.entity, c.access, c.id, c.condition, before, written, c.mask, hc.mask, hc.find,
    hc.granted, ⟨⟨text, by rw [hop]; rfl, Service.recordId_ok hc.id⟩, by rw [hop]; exact hc.condition⟩,
    hfound, ?_, rfl, ?_⟩
  · rw [guard, hop]
    exact hguarded
  · rw [Service.shownAfterWrite, hc.mask]

/-- What a change that ends well has done. -/
theorem call_changed {reply : ServiceReply} (hop : q.operation.effect = .changes)
    (h : (q.call s).serve e store = (.ok reply, after)) :
    ∃ entity access id condition before written shown, reply = .object shown ∧
      q.Changed s e store after entity access id condition before written shown ∧
      ∀ text payload, q.operation = .update text payload →
        ∃ mask, access.readMask entity = .ok mask := by
  unfold call at h
  split at h <;> rename_i hcase <;> rw [hcase] at hop <;> try cases hop
  all_goals
    obtain ⟨shown, _, hserved, h⟩ := Call.exists_serve_of_bind h
    cases h
  · obtain ⟨entity, access, id, condition, before, written, mask, hmask, hchanged⟩ :=
      update_changed hcase hserved
    exact ⟨entity, access, id, condition, before, written, shown, rfl, hchanged,
      fun _ _ _ => ⟨mask, hmask⟩⟩
  all_goals
    obtain ⟨entity, access, id, condition, before, written, hchanged⟩ :=
      mark_changed (by rw [hcase]; rfl) (by rw [hcase]; rfl) (by rw [hcase]; exact hserved)
    exact ⟨entity, access, id, condition, before, written, shown, rfl, hchanged,
      fun _ _ hupdate => by rw [hcase] at hupdate; cases hupdate⟩

/-- The request is about the record under an identifier. -/
def Names (q : ServiceRequest) (id : Uuid) : Prop :=
  ∃ text, q.operation.target? = some text ∧ Uuid.read? (trimmed text) = some id

/-- The records that a request has acted on when it has ended well: those that the reply shows, or the
one that was changed, as it was just before. -/
inductive ActsOn (q : ServiceRequest) (entity : Entity) (store : Store) :
    ServiceReply → Store → List Record → Prop
  | got {text : String} {r : Record} {v : Shown} {mask : FieldMask} (op : q.operation = .get text)
      (named : q.Names r.id) (stored : r ∈ store.records.values) (shows : v.Of entity r) :
      ActsOn q entity store (.object (Service.shown mask v.members)) store [r]
  | listed {request : ListRequest} {records : List Record} {views : List Shown} {mask : FieldMask}
      {page : Page} (op : q.operation = .list request)
      (stored : ∀ r ∈ records, r ∈ store.records.values)
      (shows : List.Forall₂ (Shown.Of entity) records views)
      (rows : page.rows = views.map fun v => Service.shown mask v.members) :
      ActsOn q entity store (.page page) store records
  | changed {reply : ServiceReply} {id : Uuid} {before written : Record}
      (op : q.operation.effect = .changes) (named : q.Names id)
      (found : store.find? id = some before) :
      ActsOn q entity store reply ⟨store.records.insert id written⟩ [before]

theorem get_actsOn {text : String} (hop : q.operation = .get text)
    (h : (s.get q.ctx q.entity text).serve e store = (.ok shown, after)) :
    ∃ entity access condition records, s.schema.find q.entity = .ok entity ∧
      e.access q.ctx.toCaller = .ok access ∧
      Service.forced q.ctx access entity .read = .ok condition ∧
      q.ActsOn entity store (.object shown) after records ∧
      ∀ r ∈ records, r.meets condition = true := by
  obtain ⟨⟨entity, access⟩, _, henter, h⟩ := Call.exists_serve_of_bind h
  obtain ⟨hfind, hgranted, rfl⟩ := Service.enter_ok henter
  dsimp only at h
  obtain ⟨condition, hcondition, h⟩ := Call.exists_ok_of_bind h
  obtain ⟨mask, hmask, h⟩ := Call.exists_ok_of_bind h
  obtain ⟨id, hid, h⟩ := Call.exists_ok_of_bind h
  obtain ⟨r, _, hfetch, h⟩ := Call.exists_serve_of_bind h
  obtain ⟨rfl, hvalue, hreach⟩ := Service.fetchOne_ok hfetch
  obtain ⟨views, hviews, hpopulate⟩ := Service.serve_populate s q.ctx entity [r] e store
  rw [Call.serve_bind_ok hpopulate] at h
  obtain ⟨v, hv, rfl⟩ := Shown.of_singleton hviews
  cases h
  obtain ⟨-, -, -, rfl, hmeets⟩ := (r.meets_reachable ..).1 (Store.concerns_iff.1 hreach).2
  refine ⟨entity, access, condition, [r], hfind, hgranted, hcondition, ?_,
    List.forall_mem_singleton.2 hmeets⟩
  rw [List.flatMap_singleton]
  exact .got hop ⟨text, by rw [hop]; rfl, Service.recordId_ok hid⟩ hvalue hv

theorem list_actsOn {request : ListRequest} {page : Page} (hop : q.operation = .list request)
    (h : (s.list q.ctx q.entity request).serve e store = (.ok page, after)) :
    ∃ entity access condition records, s.schema.find q.entity = .ok entity ∧
      e.access q.ctx.toCaller = .ok access ∧
      Service.forced q.ctx access entity .read = .ok condition ∧
      q.ActsOn entity store (.page page) after records ∧
      ∀ r ∈ records, r.meets condition = true := by
  obtain ⟨⟨entity, access⟩, _, henter, h⟩ := Call.exists_serve_of_bind h
  obtain ⟨hfind, hgranted, rfl⟩ := Service.enter_ok henter
  dsimp only at h
  obtain ⟨⟨mask, query⟩, hquery, h⟩ := Call.exists_ok_of_bind h
  obtain ⟨permission, filters, condition, sort, hauth, -, -, hcondition, -, rfl, rfl⟩ :=
    Service.listQuery_ok hquery
  dsimp only at h
  rw [Call.serve_bind_ok (Service.serve_count ..)] at h
  obtain ⟨records, mid, hpage, h⟩ := Call.exists_serve_of_bind h
  obtain ⟨hrecords, hmid⟩ := Prod.mk.inj hpage
  obtain rfl : store = mid := hmid
  have hrecords := Except.ok.inj hrecords
  obtain ⟨views, hviews, hpopulate⟩ := Service.serve_populate s q.ctx entity records e store
  rw [Call.serve_bind_ok hpopulate] at h
  cases h
  have hmatches : ∀ r ∈ records, r ∈ store.records.values ∧ r.meets condition = true := by
    rintro r hr
    rw [← hrecords] at hr
    obtain ⟨hvalue, hconcerns⟩ := e.mem_of_page hr
    have hmeets := (Store.concerns_iff.1 hconcerns).2
    rw [ListQuery.predicate, r.meets_both, Bool.and_eq_true] at hmeets
    exact ⟨hvalue, hmeets.2⟩
  refine ⟨entity, access, condition, records, hfind, hgranted, ?_,
    .listed hop (fun r hr => (hmatches r hr).1) hviews rfl, fun r hr => (hmatches r hr).2⟩
  rw [Service.forced, hauth]
  exact hcondition

/-- **Row conditions bind every action but creation.**

A request that reads, changes, deletes or restores and ends well has acted only on records that meet the
row condition of the caller's permission for its action, compiled for this request. A creation is served
as if the permissions to create had no row conditions at all. -/
theorem row_conditions_bind_but_creations (s : Service) (q : ServiceRequest) (e : Surroundings)
    (store : Store) :
    (q.operation.effect ≠ .creates → ∀ reply after,
      (q.call s).serve e store = (.ok reply, after) →
      ∃ entity access permission condition records, s.schema.find q.entity = .ok entity ∧
        e.access q.ctx.toCaller = .ok access ∧
        access.authorize entity.name q.operation.action = .ok permission ∧
        permission.rowPredicate (q.ctx.variables access) entity = .ok condition ∧
        q.ActsOn entity store reply after records ∧ ∀ r ∈ records, r.meets condition = true) ∧
    (q.operation.effect = .creates →
      (q.call s).serve (e.unconditioned .create) store = (q.call s).serve e store) := by
  refine ⟨fun hop reply after h => ?_, fun hop => creation_unconditioned hop e store⟩
  cases heffect : q.operation.effect with
  | creates => exact absurd heffect hop
  | changes =>
    obtain ⟨entity, access, id, condition, before, written, shown, rfl, hchanged, -⟩ :=
      call_changed heffect h
    obtain ⟨permission, hauth, hcondition⟩ := hchanged.aims.permission
    obtain rfl := hchanged.store
    exact ⟨entity, access, permission, condition, [before], hchanged.find, hchanged.granted, hauth,
      hcondition, .changed heffect hchanged.aims.named hchanged.found,
      List.forall_mem_singleton.2 hchanged.meets⟩
  | reads =>
    have hread : ∃ entity access condition records, s.schema.find q.entity = .ok entity ∧
        e.access q.ctx.toCaller = .ok access ∧
        Service.forced q.ctx access entity q.operation.action = .ok condition ∧
        q.ActsOn entity store reply after records ∧ ∀ r ∈ records, r.meets condition = true := by
      unfold call at h
      split at h <;> rename_i hcase <;> rw [hcase] at heffect <;> try cases heffect
      all_goals
        obtain ⟨shown, _, hserved, h⟩ := Call.exists_serve_of_bind h
        cases h
      · rw [hcase]
        exact get_actsOn hcase hserved
      · rw [hcase]
        exact list_actsOn hcase hserved
    obtain ⟨entity, access, condition, records, hfind, hgranted, hforced, hacts, hmeets⟩ := hread
    obtain ⟨permission, hauth, hcondition⟩ := Service.forced_ok hforced
    exact ⟨entity, access, permission, condition, records, hfind, hgranted, hauth, hcondition, hacts,
      hmeets⟩

open Sample in
/-- A clerk who may see the tasks that are titled "Plan" is shown one that is, and a clerk who may create
nothing but "Act" is served like one who may create everything. -/
theorem plan_shown_and_created :
    showing.operation.effect ≠ .creates ∧ creating.operation.effect = .creates ∧
    (∃ reply after condition r, (showing.call service).serve
        (office { read := some (titled "Plan") }) planned = (.ok reply, after) ∧
      rowCondition { read := some (titled "Plan") } .read = some condition ∧
      r ∈ planned.records.values ∧ r.meets condition = true) ∧
    (creating.call service).serve ((office founder).unconditioned .create) .empty =
      (creating.call service).serve (office founder) .empty := by
  have hreads := (row_conditions_bind_but_creations service showing
    (office { read := some (titled "Plan") }) planned).1 (by decide)
  have hcreates := (row_conditions_bind_but_creations service creating (office founder) .empty).2 rfl
  refine ⟨by decide, rfl, ?_, hcreates⟩
  obtain ⟨reply, after, hserved⟩ := Call.exists_ok_of_isSome (r := (showing.call service).serve
    (office { read := some (titled "Plan") }) planned) (by decide +kernel)
  obtain ⟨entity, access, permission, condition, records, hfind, hgranted, hauth, hcondition, hacts,
    hmeets⟩ := hreads reply after hserved
  cases hfind
  cases hgranted
  have hrow : rowCondition { read := some (titled "Plan") } .read = some condition := by
    have hauth : (clerk { read := some (titled "Plan") }).authorize task.name .read =
      .ok permission := hauth
    rw [rowCondition, hauth]
    exact congrArg Except.toOption hcondition
  cases hacts with
  | got op named stored shows =>
    exact ⟨_, _, condition, _, hserved, hrow, stored, hmeets _ (List.mem_singleton_self _)⟩
  | listed op => cases op
  | changed op => cases op

open Sample in
/-- A clerk who may create only tasks titled "Act" creates one titled "Plan". -/
theorem created_outside_condition : ∃ reply after condition r,
    (creating.call service).serve (office founder) .empty = (.ok reply, after) ∧
      rowCondition founder .create = some condition ∧
      after.find? .nil = some r ∧ r.meets condition = false := by
  have hany : (((creating.call service).serve (office founder) .empty).2.find? .nil).any (fun r =>
      (rowCondition founder .create).any fun condition => r.meets condition == false) = true := by
    decide +kernel
  obtain ⟨r, hr, hunmet⟩ := (Option.any_eq_true ..).1 hany
  obtain ⟨condition, hcondition, hmeets⟩ := (Option.any_eq_true ..).1 hunmet
  obtain ⟨reply, after, hserved⟩ := Call.exists_ok_of_isSome
    (r := (creating.call service).serve (office founder) .empty) (by decide +kernel)
  rw [hserved] at hr
  exact ⟨reply, after, condition, r, hserved, hcondition, hr, eq_of_beq hmeets⟩

end ServiceRequest

/-! ## Replies to writes -/

namespace ServiceRequest

/-- What the reply to a write shows of the record that was written. -/
structure RepliesWith (q : ServiceRequest) (entity : Entity) (access : Access) (written : Record)
    (reply : ServiceReply) : Prop where
  /-- Without leave to read only the identifier and the mark of deletion, and an update never ends well. -/
  unread : (∀ p, ¬ access.Allows entity.name .read p) →
    (∀ text payload, q.operation ≠ .update text payload) ∧
      reply = .object (.ofMembers [("id", .string written.id.text), ("deleted", .bool written.deleted)])
  /-- With leave to read some records, those data fields that the leave lets be read, whichever records it
  is for. -/
  read : ∀ permission, access.authorize entity.name .read = .ok permission →
    ∃ members, reply = .object (.object members) ∧ ∀ key, isSystemField key = false →
      Entries.get? key members =
        if (FieldMask.ofPermission entity permission).canRead key then
          (written.data.get? key).map Value.render
        else none

theorem Changed.repliesWith {s : Service} {q : ServiceRequest} {e : Surroundings} {store after : Store}
    {entity : Entity} {access : Access} {id : Uuid} {condition : Predicate} {before written : Record}
    {shown : Json} (h : q.Changed s e store after entity access id condition before written shown)
    (hupdate : ∀ text payload, q.operation = .update text payload →
      ∃ mask, access.readMask entity = .ok mask) :
    q.RepliesWith entity access written (.object shown) where
  unread hnone := by
    have hdenied : access.readMask entity = .error (.actionDenied .read entity.name) := by
      rw [Access.readMask, Access.authorize_eq_error.2 ⟨rfl, hnone⟩]
      rfl
    refine ⟨fun text payload hop => ?_, ?_⟩
    · obtain ⟨mask, hmask⟩ := hupdate text payload hop
      rw [hdenied] at hmask
      cases hmask
    · rw [h.shown, Service.shownAfterWrite, hdenied]
  read permission hauth := by
    have hmask : access.readMask entity = .ok (.ofPermission entity permission) := by
      rw [Access.readMask, hauth]
      rfl
    refine ⟨(FieldMask.ofPermission entity permission).apply written.members, ?_, fun key hkey => ?_⟩
    · rw [h.shown, Service.shownAfterWrite, hmask]
      rfl
    · rw [FieldMask.get?_apply, hkey, Bool.false_or, written.get?_members_data hkey]

/-- **Replies to writes do not look at the row condition for reading.**

The reply to a change, a deletion or a restoration that ends well shows nothing of the data when the
caller may not read the entity at all, and updates do not end well then. When the caller may read some of
its records, the reply shows each data field that may be read of these, also of other records: everything
is served as if the permissions to read had no row conditions. -/
theorem replies_ignore_row_conditions (s : Service) (q : ServiceRequest) (e : Surroundings)
    (store : Store) (hop : q.operation.effect = .changes) :
    (q.call s).serve (e.unconditioned .read) store = (q.call s).serve e store ∧
    ∀ reply after, (q.call s).serve e store = (.ok reply, after) →
      ∃ entity access id before written, s.schema.find q.entity = .ok entity ∧
        e.access q.ctx.toCaller = .ok access ∧ q.Names id ∧ store.find? id = some before ∧
        after = ⟨store.records.insert id written⟩ ∧ q.RepliesWith entity access written reply := by
  refine ⟨change_unconditioned hop e store, fun reply after h => ?_⟩
  obtain ⟨entity, access, id, condition, before, written, shown, rfl, hchanged, hupdate⟩ :=
    call_changed hop h
  exact ⟨entity, access, id, before, written, hchanged.find, hchanged.granted, hchanged.aims.named,
    hchanged.found, hchanged.store, hchanged.repliesWith hupdate⟩

open Sample in
/-- A clerk who may see only tasks titled "Act" deletes a task and is shown its title. -/
theorem title_shown_on_deletion : deleting.operation.effect = .changes ∧
    ∃ members after id written,
      (deleting.call service).serve (office eraser) planned = (.ok (.object (.object members)), after) ∧
        deleting.Names id ∧ after.find? id = some written ∧
        Entries.get? "title" members = (written.data.get? "title").map Value.render := by
  obtain ⟨-, hreplies⟩ := replies_ignore_row_conditions service deleting (office eraser) planned rfl
  refine ⟨rfl, ?_⟩
  obtain ⟨reply, after, hserved⟩ := Call.exists_ok_of_isSome
    (r := (deleting.call service).serve (office eraser) planned) (by decide +kernel)
  obtain ⟨entity, access, id, before, written, hfind, hgranted, hnamed, -, rfl, hreply⟩ :=
    hreplies reply after hserved
  cases hfind
  cases hgranted
  obtain ⟨members, rfl, hmembers⟩ := hreply.read _ rfl
  refine ⟨members, _, id, written, hserved, hnamed, ?_, ?_⟩
  · rw [Store.find?, Dict.get?_insert, if_pos rfl]
  · rw [hmembers "title" (by decide)]
    rfl

open Sample in
/-- The deleted task is titled "Plan", so it is not one of those that this clerk may see. -/
theorem unseen_task_shown : ∃ before condition reply after,
    planned.find? .nil = some before ∧ before.tenant = deleting.ctx.tenant ∧
      rowCondition eraser .read = some condition ∧ before.meets condition = false ∧
      (deleting.call service).serve (office eraser) planned = (.ok reply, after) ∧
      titleOf reply = some "Plan" := by
  have hany : (planned.find? .nil).any (fun before => before.tenant == deleting.ctx.tenant &&
      (rowCondition eraser .read).any fun condition => before.meets condition == false) = true := by
    decide +kernel
  obtain ⟨before, hfound, hunmet⟩ := (Option.any_eq_true ..).1 hany
  obtain ⟨htenant, hunmet⟩ := Bool.and_eq_true_iff.1 hunmet
  obtain ⟨condition, hcondition, hmeets⟩ := (Option.any_eq_true ..).1 hunmet
  have htitle : ((deleting.call service).serve (office eraser) planned).1.toOption.bind titleOf =
      some "Plan" := by decide +kernel
  obtain ⟨reply, after, hserved⟩ := Call.exists_ok_of_isSome
    (r := (deleting.call service).serve (office eraser) planned) (by decide +kernel)
  rw [hserved] at htitle
  exact ⟨before, condition, reply, after, hfound, eq_of_beq htenant, hcondition, eq_of_beq hmeets,
    hserved, htitle⟩

end ServiceRequest

end Dossier
