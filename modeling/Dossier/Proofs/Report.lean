import Dossier.Proofs.Demands

/-!
# Calls tell what they have written

A call that has written a record still owes the audit trail, and often the notifiers, a report of
it. Here each operation is followed through its stages, whatever the answers are.

**Before the record is read** (`ServiceRequest.Owes`). The call asks without telling anything. It
ends in a failure, or it reads and says so, or it comes to a creation or to the record that it is
about to change.

**Between the read and the write** (`Call.Revises`). The call holds a copy of the record, checks
the targets of lookups, and comes to its write.

**After the write** (`Call.Reports`). What is left is to tell the changes from the copy to the record
as written, and then the call ends well. A write that is missed or fails leaves only questions and a
failure (`Call.Fails`).

Main result: `call_owes`.
-/

namespace Dossier

/-! ## Demands -/

def Demand.tells : Demand → Bool
  | .audit _ => true
  | .notify _ => true
  | _ => false

/-- Demands that only ask: nothing is stored and nobody is told. -/
def Demand.Silent : Demand → Prop
  | .create .. => False
  | .write .. => False
  | .audit _ => False
  | .notify _ => False
  | _ => True

theorem Demand.Silent.tells {d : Demand} (h : d.Silent) : d.tells = false := by
  cases d with
  | audit entry => exact h.elim
  | notify n => exact h.elim
  | _ => rfl

def Demand.Counts : Demand → Prop
  | .count .. => True
  | _ => False

theorem Demand.Counts.silent {d : Demand} (h : d.Counts) : d.Silent := by
  cases d with
  | count entity p => trivial
  | _ => exact h.elim

/-! ## Stages -/

namespace Call

variable {α β : Type}

/-- A call that only asks and cannot end well any more. -/
def Fails (c : Call α) : Prop := c.Obeys Demand.Silent fun result => ∃ fault, result = .error fault

/-- A call that tells some things, one after the other, and ends well. -/
inductive Reports : List Demand → Call α → Prop
  | done (a : α) : Reports [] (.done (.ok a))
  | tell {d : Demand} {ds : List Demand} {next : d.Answer → Call α} (tells : d.tells = true)
      (rest : ∀ answer, Reports ds (next answer)) : Reports (d :: ds) (.ask d next)

/-- A call that may yet write to a record under a guard, and reports what it has made of it. -/
inductive Revises (entity : Entity) (id : Uuid) (guard : Predicate)
    (report : Record → List Demand) : Call α → Prop
  | failed (fault : Fault) : Revises entity id guard report (.done (.error fault))
  | count {d : Demand} {next : d.Answer → Call α} (counts : d.Counts)
      (rest : ∀ answer, Revises entity id guard report (next answer)) :
      Revises entity id guard report (.ask d next)
  | write {w : Write} {actor : String}
      {next : Demand.Answer (.write entity id guard w actor) → Call α}
      (written : ∀ r, (next (.ok (some r))).Reports (report r)) (missed : (next (.ok none)).Fails)
      (error : ∀ e, (next (.error e)).Fails) :
      Revises entity id guard report (.ask (.write entity id guard w actor) next)

end Call

inductive Effect where
  | reads
  | creates
  | changes
deriving DecidableEq

namespace ServiceOperation

def effect : ServiceOperation → Effect
  | .create _ => .creates
  | .get _ => .reads
  | .list _ => .reads
  | .update .. => .changes
  | .delete _ => .changes
  | .restore _ => .changes

/-- The action that a change is entered under in the audit trail. -/
def logged : ServiceOperation → Action
  | .create _ => .create
  | .get _ => .read
  | .list _ => .read
  | .update .. => .update
  | .delete _ => .delete
  | .restore _ => .update

end ServiceOperation

namespace ServiceRequest

/-- What is told about a record that a request has created. -/
def creationReport (q : ServiceRequest) (entity : Entity) (r : Record) : List Demand :=
  [.audit (.of q.ctx.toCaller .create entity.name r.id r.additions),
    .notify (.of .created q.ctx.toCaller r r.additions)]

/-- What is told about a change from one version of a record to another. Of deletions and
restorations nobody is notified. -/
def changeReport (q : ServiceRequest) (entity : Entity) (id : Uuid) (before after : Record) :
    List Demand :=
  .audit (.of q.ctx.toCaller q.operation.logged entity.name id (before.changes after)) ::
    match q.operation with
    | .update .. => [.notify (.of .updated q.ctx.toCaller after (before.changes after))]
    | _ => []

/-- The guard that a request writes under. -/
def guard (q : ServiceRequest) (entity : Entity) (id : Uuid) (forced : Predicate) : Predicate :=
  (Service.reachable q.ctx entity q.operation.onDeleted id forced).both unlocked

/-- A call of a request that has not come to a record it is to create or to change. -/
inductive Owes {α : Type} (q : ServiceRequest) (entity : Entity) : Call α → Prop
  | failed (fault : Fault) : Owes q entity (.done (.error fault))
  | served (reads : q.operation.effect = .reads) (a : α) : Owes q entity (.done (.ok a))
  | ask {d : Demand} {next : d.Answer → Call α} (silent : d.Silent)
      (rest : ∀ answer, Owes q entity (next answer)) : Owes q entity (.ask d next)
  | create {draft : Draft} {next : Demand.Answer (.create entity draft) → Call α}
      (creates : q.operation.effect = .creates)
      (created : ∀ r, (next (.ok r)).Reports (q.creationReport entity r))
      (error : ∀ e, (next (.error e)).Fails) : Owes q entity (.ask (.create entity draft) next)
  | read {id : Uuid} {forced : Predicate}
      {next : Demand.Answer (.fetch entity
        (Service.reachable q.ctx entity q.operation.onDeleted id forced)) → Call α}
      (changes : q.operation.effect = .changes)
      (found : ∀ copy, (next (.ok (some copy))).Revises entity id (q.guard entity id forced)
        (q.changeReport entity id copy))
      (missing : (next (.ok none)).Fails) (error : ∀ e, (next (.error e)).Fails) :
      Owes q entity (.ask (.fetch entity
        (Service.reachable q.ctx entity q.operation.onDeleted id forced)) next)

end ServiceRequest

/-! ## Rules -/

namespace Call

variable {α β : Type} {entity : Entity} {id : Uuid} {guard : Predicate}
  {report : Record → List Demand} {ds : List Demand} {c : Call α} {f : α → Call β}

theorem fails_error (fault : Fault) : (Call.done (.error fault) : Call α).Fails := .done ⟨fault, rfl⟩

theorem Fails.bind (h : c.Fails) : (c >>= f).Fails := by
  refine Obeys.bind h (fun a ha => ?_) fun fault _ => ⟨fault, rfl⟩
  obtain ⟨fault, hfault⟩ := ha
  cases hfault

/-- Whoever is told, the result may still be put into another form. -/
theorem Reports.map (g : α → β) (h : c.Reports ds) : (c >>= fun a => pure (g a)).Reports ds := by
  induction h with
  | done a => exact .done (g a)
  | tell tells _ ih => exact .tell tells ih

theorem reports_demand_bind {d : Demand} {f : d.Answer → Call β} (tells : d.tells = true)
    (rest : ∀ answer, (f answer).Reports ds) : (Call.demand d >>= f).Reports (d :: ds) :=
  .tell tells rest

theorem Revises.map (g : α → β) (h : c.Revises entity id guard report) :
    (c >>= fun a => pure (g a)).Revises entity id guard report := by
  induction h with
  | failed fault => exact .failed fault
  | count counts _ ih => exact .count counts ih
  | write written missed error =>
    exact .write (fun r => (written r).map g) missed.bind fun e => (error e).bind

/-- Lookups are checked before the write. -/
theorem Revises.bind_counts {S : α → Prop} (h : c.Obeys Demand.Counts (WhenOk S))
    (ok : ∀ a, S a → (f a).Revises entity id guard report) :
    (c >>= f).Revises entity id guard report := by
  induction h with
  | @done result h =>
    cases result with
    | ok a => exact ok a h
    | error fault => exact .failed fault
  | ask counts _ ih => exact .count counts ih

end Call

namespace ServiceRequest

variable {α β : Type} {q : ServiceRequest} {entity : Entity} {c : Call α} {f : α → Call β}

theorem Owes.map (g : α → β) (h : q.Owes entity c) : q.Owes entity (c >>= fun a => pure (g a)) := by
  induction h with
  | failed fault => exact .failed fault
  | served reads a => exact .served reads (g a)
  | ask silent _ ih => exact .ask silent ih
  | create creates created error =>
    exact .create creates (fun r => (created r).map g) fun e => (error e).bind
  | read changes found missing error =>
    exact .read changes (fun copy => (found copy).map g) missing.bind fun e => (error e).bind

/-- Whatever only asks may come before the rest. -/
theorem Owes.bind_silent {S : α → Prop} (h : c.Obeys Demand.Silent (WhenOk S))
    (ok : ∀ a, S a → q.Owes entity (f a)) : q.Owes entity (c >>= f) := by
  induction h with
  | @done result h =>
    cases result with
    | ok a => exact ok a h
    | error fault => exact .failed fault
  | ask silent _ ih => exact .ask silent ih

/-- Where it cannot be decided whether a new record enters a workflow, nothing is owed. -/
theorem owes_approval_bind {workflows : Workflows} {caller : Caller} {draft : Draft}
    {f : Option Approval → Call β} (h : ∀ state, q.Owes entity (f state)) :
    q.Owes entity (Call.approval workflows caller entity draft >>= f) := by
  refine .ask trivial fun answer => ?_
  cases answer with
  | ok state => exact h state
  | error error => exact .failed _

theorem owes_done_bind {result : Except Fault α} (ok : ∀ a, result = .ok a → q.Owes entity (f a)) :
    q.Owes entity (Call.done result >>= f) := by
  cases result with
  | ok a => exact ok a rfl
  | error fault => exact .failed fault

/-- A call that only asks and ends well has read. -/
theorem owes_silent (hreads : q.operation.effect = .reads)
    (h : c.Obeys Demand.Silent (WhenOk fun _ => True)) : q.Owes entity c := by
  induction h with
  | @done result h =>
    cases result with
    | ok a => exact .served hreads a
    | error fault => exact .failed fault
  | ask silent _ ih => exact .ask silent ih

end ServiceRequest

/-! ## Parts of operations -/

namespace Service

variable {α : Type} {s : Service} {q : ServiceRequest} {entity : Entity} {id : Uuid}

theorem silent_targets (s : Service) (ctx : Context) : ChecksTargets s ctx Demand.Silent :=
  fun _ _ _ _ => trivial

theorem silent_references (s : Service) (ctx : Context) : ReadsReferences s ctx Demand.Silent :=
  ⟨fun _ _ _ _ => trivial, fun _ => trivial⟩

theorem owes_enter_bind {f : Entity × Access → Call α} (hfind : s.schema.find q.entity = .ok entity)
    (h : ∀ access, q.Owes entity (f (entity, access))) :
    q.Owes entity (s.enter q.ctx q.entity >>= f) := by
  show q.Owes entity (((Call.done _).bind _).bind f)
  rw [hfind]
  refine .ask trivial fun answer => ?_
  cases answer with
  | ok access => exact h access
  | error fault => exact .failed fault

/-- A missed write is explained by asking once more, and never ends well. -/
theorem explainMiss_silent (ctx : Context) (entity : Entity) (deleted : Bool) (id : Uuid) :
    (explainMiss ctx entity deleted id : Call α).Fails := by
  refine .ask trivial fun answer => ?_
  cases answer with
  | error e => exact Call.fails_error _
  | ok found =>
    cases found with
    | none => exact Call.fails_error _
    | some r =>
      show Call.Fails (if r.isLocked then Call.fail _ else Call.fail _)
      split <;> exact Call.fails_error _

theorem revises_commit_bind {ctx : Context} {deleted : Bool} {p : Predicate} {w : Write}
    {report : Record → List Demand} {f : Record → Call α} (h : ∀ r, (f r).Reports (report r)) :
    (commit ctx entity deleted id p w >>= f).Revises entity id (p.both unlocked) report :=
  .write h (explainMiss_silent ctx entity deleted id).bind fun _ => Call.fails_error _

theorem owes_fetchUnlocked_bind {forced : Predicate} {f : Record → Call α}
    (hchanges : q.operation.effect = .changes)
    (h : ∀ copy, (f copy).Revises entity id (q.guard entity id forced)
      (q.changeReport entity id copy)) :
    q.Owes entity (fetchUnlocked entity id
      (reachable q.ctx entity q.operation.onDeleted id forced) >>= f) := by
  refine .read hchanges (fun copy => ?_) (Call.fails_error _) fun _ => Call.fails_error _
  show Call.Revises entity id _ _ ((if copy.isLocked then Call.fail _ else pure copy) >>= f)
  split
  · exact .failed _
  · exact h copy

end Service

/-! ## Operations -/

namespace ServiceRequest

open Service

variable {s : Service} {q : ServiceRequest} {entity : Entity}

theorem create_owes {payload : Json} (hop : q.operation = .create payload)
    (hfind : s.schema.find q.entity = .ok entity) :
    q.Owes entity (s.create q.ctx q.entity payload) := by
  refine owes_enter_bind hfind fun access => owes_done_bind fun permission _ => ?_
  refine owes_done_bind fun mask _ => ?_
  refine .bind_silent (newData_obeys (silent_targets s q.ctx) _ entity payload) fun data _ => ?_
  refine owes_approval_bind fun state => ?_
  refine .create (by rw [hop]; rfl) (fun r => ?_) fun _ => Call.fails_error _
  exact Call.reports_demand_bind rfl fun _ => Call.reports_demand_bind rfl fun _ => .done _

theorem get_owes {text : String} (hop : q.operation = .get text)
    (hfind : s.schema.find q.entity = .ok entity) :
    q.Owes entity (s.get q.ctx q.entity text) := by
  refine owes_enter_bind hfind fun access => owes_silent (by rw [hop]; rfl) ?_
  refine Call.obeys_done_bind' fun forced _ => Call.obeys_done_bind' fun mask _ => ?_
  refine Call.obeys_done_bind' fun id _ => (fetchOne_obeys trivial).bind' fun r _ => ?_
  refine (populate_obeys (silent_references s q.ctx) entity [r]).whenOk.bind' fun views _ => ?_
  exact Call.obeys_pure trivial

theorem list_owes {request : ListRequest} (hop : q.operation = .list request)
    (hfind : s.schema.find q.entity = .ok entity) :
    q.Owes entity (s.list q.ctx q.entity request) := by
  refine owes_enter_bind hfind fun access => owes_silent (by rw [hop]; rfl) ?_
  refine Call.obeys_done_bind' fun ⟨mask, query⟩ _ => Call.obeys_store_bind trivial fun total => ?_
  refine Call.obeys_store_bind trivial fun records => ?_
  refine (populate_obeys (silent_references s q.ctx) entity records).whenOk.bind' fun views _ => ?_
  exact Call.obeys_pure trivial

theorem update_owes {text : String} {payload : Json} (hop : q.operation = .update text payload)
    (hfind : s.schema.find q.entity = .ok entity) :
    q.Owes entity (s.update q.ctx q.entity text payload) := by
  have hlive : q.operation.onDeleted = false := by rw [hop]; rfl
  refine owes_enter_bind hfind fun access => owes_done_bind fun permission _ => ?_
  refine owes_done_bind fun forced _ => owes_done_bind fun mask _ => owes_done_bind fun id _ => ?_
  dsimp only
  rw [← hlive]
  refine owes_fetchUnlocked_bind (by rw [hop]; rfl) fun copy => ?_
  refine .bind_counts (S := fun _ => True) ?_ fun members _ => ?_
  · cases payloadMembers (mask.restrict permission) payload <;> exact .done trivial
  refine .bind_counts (gather_obeys (P := Demand.Counts) (fun _ _ _ _ => trivial) members
    entity.fields [] ∅ .nil) fun changes _ => ?_
  refine revises_commit_bind fun after => ?_
  unfold changeReport
  rw [hop]
  exact Call.reports_demand_bind rfl fun _ => Call.reports_demand_bind rfl fun _ => .done _

/-- Deletion and restoration are entered under different actions and notify nobody. -/
theorem mark_owes (text : String) {w : Write} (hchanges : q.operation.effect = .changes)
    (hupdate : ∀ text payload, q.operation ≠ .update text payload)
    (hfind : s.schema.find q.entity = .ok entity) :
    q.Owes entity (s.mark q.ctx q.entity text q.operation.onDeleted w q.operation.logged) := by
  refine owes_enter_bind hfind fun access => owes_done_bind fun forced _ => ?_
  refine owes_done_bind fun id _ => owes_fetchUnlocked_bind hchanges fun copy => ?_
  refine revises_commit_bind fun after => ?_
  have hreport : q.changeReport entity id copy after =
      [.audit (.of q.ctx.toCaller q.operation.logged entity.name id (copy.changes after))] := by
    unfold changeReport
    split
    · exact absurd ‹_› (hupdate _ _)
    · rfl
  rw [hreport]
  exact Call.reports_demand_bind rfl fun _ => .done _

/-- **What a request leaves to be told**: its call tells nothing before it has written, then the
changes from the record as it was read to the record as written, and then it ends well. -/
theorem call_owes (s : Service) (q : ServiceRequest) (hfind : s.schema.find q.entity = .ok entity) :
    q.Owes entity (q.call s) := by
  unfold call
  split <;> rename_i hop
  · exact (create_owes hop hfind).map _
  · exact (get_owes hop hfind).map _
  · exact (list_owes hop hfind).map _
  · exact (update_owes hop hfind).map _
  · rename_i text
    have h := mark_owes text (w := .delete) (by rw [hop]; rfl)
      (by rw [hop]; exact fun _ _ h => nomatch h) hfind
    rw [hop] at h
    exact h.map _
  · rename_i text
    have h := mark_owes text (w := .restore) (by rw [hop]; rfl)
      (by rw [hop]; exact fun _ _ h => nomatch h) hfind
    rw [hop] at h
    exact h.map _

/-- A request for an entity that is not known fails at once. -/
theorem call_unknown (s : Service) (q : ServiceRequest) {error : SchemaError}
    (hfind : s.schema.find q.entity = .error error) :
    q.call s = .done (.error (Fault.ofSchemaError error)) := by
  have henter {α : Type} (f : Entity × Access → Call α) :
      s.enter q.ctx q.entity >>= f = .done (.error (Fault.ofSchemaError error)) := by
    show ((Call.done _).bind _).bind f = _
    rw [hfind]
    rfl
  unfold call
  split
  · rw [create, henter]; rfl
  · rw [Service.get, henter]; rfl
  · rw [Service.list, henter]; rfl
  · rw [update, henter]; rfl
  · rw [delete, mark, henter]; rfl
  · rw [restore, mark, henter]; rfl

end ServiceRequest

end Dossier
