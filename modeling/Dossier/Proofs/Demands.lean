import Dossier.Proofs.Payload
import Dossier.Proofs.Populate
import Dossier.Service.Reading
import Dossier.Service.Writing

/-!
# What each request may ask for

A request names one of the six operations of the service. Here it is said once, for all of them,
which demands its call can make: everything that is proved later about stores, tenants or stored
data only looks at this list.

**Entry.** A call first asks for the access of its caller. If this fails, nothing more is asked for
(`Call.Enters`).

**After entry** (`ServiceRequest.Makes`). Each demand carries the guard on tenant, entity and
deletion that its operation needs, the row condition of the permission that the operation uses,
and, for writes, that the record is not locked. What is written is what the payload asks for.

Main result: `call_enters`.
-/

namespace Dossier

/-! ## Requests -/

inductive ServiceOperation where
  | create (payload : Json)
  | get (id : String)
  | list (request : ListRequest)
  | update (id : String) (payload : Json)
  | delete (id : String)
  | restore (id : String)

namespace ServiceOperation

def target? : ServiceOperation → Option String
  | .create _ => none
  | .list _ => none
  | .get id => some id
  | .update id _ => some id
  | .delete id => some id
  | .restore id => some id

def action : ServiceOperation → Action
  | .create _ => .create
  | .get _ => .read
  | .list _ => .read
  | .update .. => .update
  | .delete _ => .delete
  | .restore _ => .delete

def onDeleted : ServiceOperation → Bool
  | .restore _ => true
  | _ => false

end ServiceOperation

structure ServiceRequest where
  ctx : Context
  entity : String
  operation : ServiceOperation

inductive ServiceReply where
  | object (shown : Json)
  | page (p : Page)

def ServiceRequest.call (s : Service) (q : ServiceRequest) : Call ServiceReply :=
  match q.operation with
  | .create payload => do return .object (← s.create q.ctx q.entity payload)
  | .get id => do return .object (← s.get q.ctx q.entity id)
  | .list request => do return .page (← s.list q.ctx q.entity request)
  | .update id payload => do return .object (← s.update q.ctx q.entity id payload)
  | .delete id => do return .object (← s.delete q.ctx q.entity id)
  | .restore id => do return .object (← s.restore q.ctx q.entity id)

/-! ## Demands -/

namespace ServiceRequest

/-- The record that a request is on, and the row condition it is held to. -/
structure Aims (q : ServiceRequest) (entity : Entity) (access : Access) (id : Uuid)
    (forced : Predicate) :
    Prop where
  named : ∃ text, q.operation.target? = some text ∧ Uuid.read? (trimmed text) = some id
  forced : Service.forced q.ctx access entity q.operation.action = .ok forced

/-- The changes that a payload asks for, all of them to fields that the caller may write. -/
structure Submits (entity : Entity) (access : Access) (action : Action) (payload : Json)
    (members : List (String × Json)) (changes : Changes) : Prop where
  object : payload = .object members
  writable : ∃ permission mask, access.authorize entity.name action = .ok permission ∧
    access.readMask entity = .ok mask ∧ (mask.restrict permission).checkWritable members = .ok ()
  gathered : Gathered members entity.fields changes

def Writes (q : ServiceRequest) (entity : Entity) (access : Access) : Write → Prop
  | .update changes => ∃ id payload members, q.operation = .update id payload ∧
      Submits entity access .update payload members changes
  | .delete => ∃ id, q.operation = .delete id
  | .restore => ∃ id, q.operation = .restore id

/-- The demands that the call of a request can make once it knows the entity and the access. -/
inductive Makes (s : Service) (q : ServiceRequest) (entity : Entity) (access : Access) :
    Demand → Prop
  | fetch {id : Uuid} {forced : Predicate} (aims : q.Aims entity access id forced) :
      Makes s q entity access
        (.fetch entity (Service.reachable q.ctx entity q.operation.onDeleted id forced))
  /-- A second look at a record that a write has missed. -/
  | explain (id : Uuid) :
      Makes s q entity access
        (.fetch entity ((scopeWhere q.ctx.tenant entity.name q.operation.onDeleted).both (byId id)))
  | write {id : Uuid} {forced : Predicate} {w : Write} (aims : q.Aims entity access id forced)
      (writes : q.Writes entity access w) :
      Makes s q entity access
        (.write entity id
          ((Service.reachable q.ctx entity q.operation.onDeleted id forced).both unlocked) w
          q.ctx.user)
  /-- Whether a new record enters a workflow. -/
  | approval (data : Dict String Value) :
      Makes s q entity access
        (.approval s.workflows q.ctx.toCaller entity
          ⟨q.ctx.tenant, entity.name, q.ctx.user, data, none⟩)
  | create {payload : Json} {members : List (String × Json)} {changes : Changes}
      (operation : q.operation = .create payload)
      (submits : Submits entity access .create payload members changes)
      (required : ∀ f ∈ entity.fields, f.required = true → Service.lacks members f = false)
      (state : Option Approval) :
      Makes s q entity access
        (.create entity ⟨q.ctx.tenant, entity.name, q.ctx.user, changes.values, state⟩)
  /-- Whether the target of a lookup is there. -/
  | target {name : String} {target : Entity} (id : Uuid) (find : s.schema.find name = .ok target) :
      Makes s q entity access (.count target ((scope q.ctx.tenant target.name).both (byId id)))
  | total {request : ListRequest} {mask : FieldMask} {query : ListQuery}
      (operation : q.operation = .list request)
      (asks : s.listQuery q.ctx access entity request = .ok (mask, query)) :
      Makes s q entity access (.count entity query.predicate)
  | page {request : ListRequest} {mask : FieldMask} {query : ListQuery}
      (operation : q.operation = .list request)
      (asks : s.listQuery q.ctx access entity request = .ok (mask, query)) :
      Makes s q entity access (.list entity query)
  /-- The targets of a lookup field of some records. -/
  | targets {name : String} {target : Entity} (ids : List String)
      (find : s.schema.find name = .ok target) :
      Makes s q entity access (.list target (Service.targetQuery q.ctx target ids))
  | file (id : String) : Makes s q entity access (.file q.ctx.tenant id)
  | audit (entry : AuditEntry) : Makes s q entity access (.audit entry)
  | notify (n : Notification) : Makes s q entity access (.notify n)

variable {s : Service} {q : ServiceRequest} {entity : Entity} {access : Access}

theorem makes_targets : Service.ChecksTargets s q.ctx (q.Makes s entity access) :=
  fun _ _ id hfind => .target id hfind

theorem makes_references : Service.ReadsReferences s q.ctx (q.Makes s entity access) where
  targets _ _ ids hfind := .targets ids hfind
  files id := .file id

end ServiceRequest

/-! ## Entry -/

/-- A call that asks for the access of its caller and goes on as `K` says; it ends where this
fails, and may end before. -/
inductive Call.Enters {α : Type} (caller : Caller) (K : Access → Call α → Prop) : Call α → Prop
  | refused (fault : Fault) : Enters caller K (.done (.error fault))
  | asks {next : Except Fault Access → Call α} (ok : ∀ access, K access (next (.ok access)))
      (error : ∀ fault, next (.error fault) = .done (.error fault)) :
      Enters caller K (.ask (.access caller) next)

theorem Call.Enters.demand {α : Type} {caller : Caller} {K : Access → Call α → Prop} {d : Demand}
    {next : d.Answer → Call α} (h : (Call.ask d next).Enters caller K) : d = .access caller := by
  cases h
  rfl

theorem Call.Enters.bind {α β : Type} {caller : Caller} {K : Access → Call α → Prop}
    {K' : Access → Call β → Prop} {c : Call α} {f : α → Call β} (h : c.Enters caller K)
    (hf : ∀ access c, K access c → K' access (c >>= f)) : (c >>= f).Enters caller K' := by
  cases h with
  | refused fault => exact .refused fault
  | @asks next ok error =>
    refine .asks (fun access => hf access _ (ok access)) fun fault => ?_
    show (next (.error fault)).bind f = _
    rw [error]
    rfl

namespace Service

variable {s : Service} {ctx : Context}

theorem enter_enters {α : Type} {K : Access → Call α → Prop} {name : String}
    {f : Entity × Access → Call α}
    (h : ∀ entity access, s.schema.find name = .ok entity → K access (f (entity, access))) :
    (s.enter ctx name >>= f).Enters ctx.toCaller K := by
  show (((Call.done _).bind _).bind f).Enters _ K
  cases hfind : s.schema.find name with
  | error error => exact .refused _
  | ok entity => exact .asks (fun access => h entity access hfind) fun _ => rfl

/-! ## Parts of operations -/

variable {P : Demand → Prop} {entity : Entity} {id : Uuid} {p : Predicate}

theorem fetchOne_obeys (h : P (.fetch entity p)) :
    (fetchOne entity id p).Obeys P (WhenOk fun _ => True) := by
  refine Call.obeys_store_bind h fun found => ?_
  split
  · exact Call.obeys_pure trivial
  · exact Call.obeys_fail

theorem fetchUnlocked_obeys (h : P (.fetch entity p)) :
    (fetchUnlocked entity id p).Obeys P (WhenOk fun _ => True) := by
  refine (fetchOne_obeys h).bind' fun r _ => ?_
  split
  · exact Call.obeys_fail
  · exact Call.obeys_pure trivial

theorem explainMiss_obeys {α : Type} {deleted : Bool}
    (h : P (.fetch entity ((scopeWhere ctx.tenant entity.name deleted).both (byId id)))) :
    (explainMiss ctx entity deleted id : Call α).Obeys P (WhenOk fun _ => True) := by
  refine Call.obeys_store_bind h fun found => ?_
  split
  · split <;> exact Call.obeys_fail
  · exact Call.obeys_fail

theorem commit_obeys {deleted : Bool} {w : Write}
    (hexplain : P (.fetch entity ((scopeWhere ctx.tenant entity.name deleted).both (byId id))))
    (hwrite : P (.write entity id (p.both unlocked) w ctx.user)) :
    (commit ctx entity deleted id p w).Obeys P (WhenOk fun _ => True) := by
  refine Call.obeys_store_bind hwrite fun written => ?_
  split
  · exact Call.obeys_pure trivial
  · exact explainMiss_obeys hexplain

theorem newData_obeys (hP : ChecksTargets s ctx P) (mask : FieldMask) (entity : Entity)
    (payload : Json) :
    (s.newData ctx mask entity payload).Obeys P (WhenOk fun data => ∃ members changes,
      payloadMembers mask payload = .ok members ∧ checkRequired members entity.fields = .ok () ∧
        Gathered members entity.fields changes ∧ data = changes.values) := by
  refine Call.obeys_done_bind' fun members hmembers => Call.obeys_done_bind' fun _ hrequired => ?_
  refine (gather_obeys hP members entity.fields [] ∅ .nil).bind' fun changes hchanges => ?_
  exact Call.obeys_pure ⟨members, changes, hmembers, hrequired, hchanges, rfl⟩

theorem recordId_ok {text : String} (h : recordId entity text = .ok id) :
    Uuid.read? (trimmed text) = some id := by
  unfold recordId at h
  split at h
  · cases h
    assumption
  · cases h

end Service

/-! ## Operations -/

namespace ServiceRequest

open Service

variable {s : Service} {q : ServiceRequest}

/-- A call that has entered and makes only demands of its request. -/
def Proceeds {α : Type} (s : Service) (q : ServiceRequest) (access : Access) (c : Call α) : Prop :=
  ∃ entity, s.schema.find q.entity = .ok entity ∧
    c.Obeys (q.Makes s entity access) (WhenOk fun _ => True)

theorem Proceeds.map {α β : Type} {f : α → β} {access : Access} {c : Call α}
    (h : q.Proceeds s access c) :
    q.Proceeds s access (do return f (← c)) := by
  obtain ⟨entity, hfind, hobeys⟩ := h
  exact ⟨entity, hfind, hobeys.bind' fun _ _ => Call.obeys_pure trivial⟩

theorem create_enters {payload : Json} (hop : q.operation = .create payload) :
    (s.create q.ctx q.entity payload).Enters q.ctx.toCaller (q.Proceeds s) := by
  refine enter_enters fun entity access hfind => ⟨entity, hfind, ?_⟩
  refine Call.obeys_done_bind' fun permission hauth => Call.obeys_done_bind' fun mask hmask => ?_
  refine (newData_obeys makes_targets _ entity payload).bind' ?_
  rintro data ⟨members, changes, hmembers, hrequired, hgathered, rfl⟩
  obtain ⟨hobject, hwritable⟩ := payloadMembers_ok hmembers
  have hcreate := Makes.create (s := s) hop
    ⟨hobject, ⟨permission, mask, hauth, hmask, hwritable⟩, hgathered⟩
    (checkRequired_ok hrequired)
  refine Call.obeys_approval_bind (.approval changes.values) fun state => ?_
  refine Call.obeys_store_bind (hcreate state) fun created => ?_
  refine Call.obeys_demand_bind (.audit _) fun _ => ?_
  refine Call.obeys_demand_bind (.notify _) fun _ => ?_
  exact Call.obeys_pure trivial

theorem get_enters {text : String} (hop : q.operation = .get text) :
    (s.get q.ctx q.entity text).Enters q.ctx.toCaller (q.Proceeds s) := by
  refine enter_enters fun entity access hfind => ⟨entity, hfind, ?_⟩
  refine Call.obeys_done_bind' fun forced hforced => Call.obeys_done_bind' fun mask _ => ?_
  refine Call.obeys_done_bind' fun id hid => ?_
  have haims : q.Aims entity access id forced :=
    ⟨⟨text, by rw [hop]; rfl, recordId_ok hid⟩, by rw [hop]; exact hforced⟩
  have hfetch := Makes.fetch (s := s) haims
  rw [show q.operation.onDeleted = false by rw [hop]; rfl] at hfetch
  refine (fetchOne_obeys hfetch).bind' fun r _ => ?_
  refine (populate_obeys makes_references entity [r]).whenOk.bind' fun views _ => ?_
  exact Call.obeys_pure trivial

theorem list_enters {request : ListRequest} (hop : q.operation = .list request) :
    (s.list q.ctx q.entity request).Enters q.ctx.toCaller (q.Proceeds s) := by
  refine enter_enters fun entity access hfind => ⟨entity, hfind, ?_⟩
  refine Call.obeys_done_bind' fun ⟨mask, query⟩ hquery => ?_
  refine Call.obeys_store_bind (.total hop hquery) fun total => ?_
  refine Call.obeys_store_bind (.page hop hquery) fun records => ?_
  refine (populate_obeys makes_references entity records).whenOk.bind' fun views _ => ?_
  exact Call.obeys_pure trivial

theorem update_enters {text : String} {payload : Json} (hop : q.operation = .update text payload) :
    (s.update q.ctx q.entity text payload).Enters q.ctx.toCaller (q.Proceeds s) := by
  refine enter_enters fun entity access hfind => ⟨entity, hfind, ?_⟩
  refine Call.obeys_done_bind' fun permission hauth =>
    Call.obeys_done_bind' fun forced hforced => ?_
  refine Call.obeys_done_bind' fun mask hmask => Call.obeys_done_bind' fun id hid => ?_
  have haims : q.Aims entity access id forced :=
    ⟨⟨text, by rw [hop]; rfl, recordId_ok hid⟩, by rw [hop]; exact hforced⟩
  have hlive : q.operation.onDeleted = false := by rw [hop]; rfl
  have hfetch := Makes.fetch (s := s) haims
  have hexplain : q.Makes s entity access _ := .explain id
  rw [hlive] at hfetch hexplain
  refine (fetchUnlocked_obeys hfetch).bind' fun before _ => ?_
  refine Call.obeys_done_bind' fun members hmembers => ?_
  obtain ⟨hobject, hwritable⟩ := payloadMembers_ok hmembers
  refine (gather_obeys makes_targets members entity.fields [] ∅ .nil).bind'
    fun changes hgathered => ?_
  have hwrite := Makes.write (s := s) (w := .update changes) haims
    ⟨text, payload, members, hop, hobject, ⟨permission, mask, hauth, hmask, hwritable⟩, hgathered⟩
  rw [hlive] at hwrite
  refine (commit_obeys hexplain hwrite).bind' fun after _ => ?_
  refine Call.obeys_demand_bind (.audit _) fun _ => ?_
  refine Call.obeys_demand_bind (.notify _) fun _ => ?_
  exact Call.obeys_pure trivial

/-- Deletion and restoration differ in the records they are on and in what they write. -/
theorem mark_enters {text : String} {w : Write} (logged : Action)
    (htarget : q.operation.target? = some text)
    (haction : q.operation.action = .delete) (hw : ∀ entity access, q.Writes entity access w) :
    (s.mark q.ctx q.entity text q.operation.onDeleted w logged).Enters q.ctx.toCaller
      (q.Proceeds s) := by
  refine enter_enters fun entity access hfind => ⟨entity, hfind, ?_⟩
  refine Call.obeys_done_bind' fun forced hforced => Call.obeys_done_bind' fun id hid => ?_
  have haims : q.Aims entity access id forced :=
    ⟨⟨text, htarget, recordId_ok hid⟩, by rw [haction]; exact hforced⟩
  refine (fetchUnlocked_obeys (.fetch haims)).bind' fun before _ => ?_
  refine (commit_obeys (.explain id) (.write haims (hw entity access))).bind' fun after _ => ?_
  refine Call.obeys_demand_bind (.audit _) fun _ => ?_
  exact Call.obeys_pure trivial

/-- **What a request may ask for**: the access of its caller, and then only its own demands. -/
theorem call_enters (s : Service) (q : ServiceRequest) :
    (q.call s).Enters q.ctx.toCaller (q.Proceeds s) := by
  unfold call
  split <;> rename_i hop
  · exact (create_enters hop).bind fun _ _ h => h.map
  · exact (get_enters hop).bind fun _ _ h => h.map
  · exact (list_enters hop).bind fun _ _ h => h.map
  · exact (update_enters hop).bind fun _ _ h => h.map
  · refine Call.Enters.bind (K := q.Proceeds s) ?_ fun _ _ h => h.map
    have h := mark_enters (s := s) (q := q) (w := .delete) .delete (by rw [hop]; rfl)
      (by rw [hop]; rfl) fun _ _ => ⟨_, hop⟩
    rwa [hop] at h
  · refine Call.Enters.bind (K := q.Proceeds s) ?_ fun _ _ h => h.map
    have h := mark_enters (s := s) (q := q) (w := .restore) .update (by rw [hop]; rfl)
      (by rw [hop]; rfl) fun _ _ => ⟨_, hop⟩
    rwa [hop] at h

end ServiceRequest

end Dossier
