import Dossier.Proofs.RowConditions

/-!
# Records out of reach look absent

A request on a record that the caller's permission does not hold for is served like one on a record
that is not there, so nobody learns by asking whether a record exists.

The faults that a request can end with compete, and most of them tell something of the record: that
an approval locks it, or that a payload was looked at. They all come after the record has been read
under the row condition. What comes before depends on the request and on the access of the caller
alone, and is the same in every store.

**Two runs** of one call, in two stores, are `RefusedAlike` if they end with the same fault and leave
both stores as they are. The rules go along the steps of an operation up to the reading of the record.

Main result: `hidden_record_looks_absent`.
-/

namespace Dossier

/-! ## A store without a record -/

namespace Store

variable {store : Store} {id : Uuid}

/-- The store without the record of an identifier. -/
def without (s : Store) (id : Uuid) : Store := ⟨s.records.erase id⟩

theorem find?_without (s : Store) (id id' : Uuid) :
    (s.without id).find? id' = if id' = id then none else s.find? id' :=
  Dict.get?_erase ..

theorem Keyed.without (hkeyed : store.Keyed) (id : Uuid) : (store.without id).Keyed := by
  intro id' r h
  rw [find?_without] at h
  by_cases hid : id' = id
  · simp [hid] at h
  · exact hkeyed id' r (by simpa [hid] using h)

/-- A record that does not meet the row condition is not found, and neither is one that is not there. -/
theorem Keyed.find?_unreachable (hkeyed : store.Keyed) {condition : Predicate}
    (hunmet : ∀ r, store.find? id = some r → r.meets condition = false) (e : Surroundings)
    (ctx : Context) (entity : Entity) (deleted : Bool) :
    (e.order store.records.values).find?
      (concerns entity (Service.reachable ctx entity deleted id condition)) = none := by
  rw [hkeyed.find?_reachable, Option.filter_eq_none_iff]
  intro r hr hconcerns
  have hreach := (r.meets_reachable ..).1 (concerns_iff.1 hconcerns).2
  simp [hunmet r hr] at hreach

end Store

namespace Sample

/-- A clerk who may delete only what is titled otherwise. -/
def archivist : EntityGrant := { delete := some (titled "Act") }

/-- A task titled "Plan" whose approval is pending. -/
def lockedPlan : Store := (planned.setApproval task .nil (some (.entered "review"))).2

theorem forced_of_rowCondition {grant : EntityGrant} {action : Action} {condition : Predicate}
    (h : rowCondition grant action = some condition) :
    Service.forced ctx (clerk grant) task action = .ok condition := by
  unfold rowCondition at h
  unfold Service.forced
  cases hauth : (clerk grant).authorize task.name action with
  | error fault =>
    rw [hauth] at h
    cases h
  | ok permission =>
    rw [hauth] at h
    show permission.rowPredicate (ctx.variables (clerk grant)) task = _
    cases hrow : permission.rowPredicate (ctx.variables (clerk grant)) task with
    | error fault => simp [Except.toOption, hrow] at h
    | ok condition' => simpa [Except.toOption, hrow] using h

end Sample

/-! ## Two runs refused alike -/

namespace Call

variable {α β : Type} {Q : Fault → Prop} {e e' : Surroundings} {a b : Store}

/-- A call ends in two stores with the same fault, which meets `Q`, and changes neither of them. -/
def RefusedAlike (Q : Fault → Prop) (e : Surroundings) (a : Store) (e' : Surroundings) (b : Store)
    (c : Call α) : Prop :=
  ∃ fault, Q fault ∧ c.serve e a = (.error fault, a) ∧ c.serve e' b = (.error fault, b)

theorem RefusedAlike.bind {c : Call α} (h : c.RefusedAlike Q e a e' b) (f : α → Call β) :
    (c >>= f).RefusedAlike Q e a e' b := by
  obtain ⟨fault, hQ, ha, hb⟩ := h
  exact ⟨fault, hQ, serve_bind_error ha, serve_bind_error hb⟩

theorem RefusedAlike.done_bind {result : Except Fault α} {f : α → Call β}
    (herror : ∀ fault, result = .error fault → Q fault)
    (hok : ∀ x, result = .ok x → (f x).RefusedAlike Q e a e' b) :
    (Call.done result >>= f).RefusedAlike Q e a e' b := by
  cases result with
  | error fault => exact ⟨fault, herror fault rfl, rfl, rfl⟩
  | ok x => exact hok x rfl

end Call

namespace Service

variable {α : Type} {Q : Fault → Prop} {e e' : Surroundings} {a b : Store} {s : Service}
  {ctx : Context}

theorem RefusedAlike.enter_bind {name : String} {f : Entity × Access → Call α}
    (haccess : e'.access ctx.toCaller = e.access ctx.toCaller)
    (hentity : ∀ error, s.schema.find name = .error error → Q (Fault.ofSchemaError error))
    (hdenied : ∀ fault, e.access ctx.toCaller = .error fault → Q fault)
    (hok : ∀ entity access, s.schema.find name = .ok entity →
      e.access ctx.toCaller = .ok access → (f (entity, access)).RefusedAlike Q e a e' b) :
    (s.enter ctx name >>= f).RefusedAlike Q e a e' b := by
  cases hfind : s.schema.find name with
  | error error =>
    have hunknown : s.enter ctx name = .done (.error (Fault.ofSchemaError error)) := by
      unfold enter
      rw [hfind]
      rfl
    rw [hunknown]
    exact ⟨_, hentity error hfind, rfl, rfl⟩
  | ok entity =>
    cases hgranted : e.access ctx.toCaller with
    | error fault =>
      exact Call.RefusedAlike.bind ⟨fault, hdenied fault hgranted, serve_enter_refused hfind hgranted,
        serve_enter_refused hfind (haccess.trans hgranted)⟩ f
    | ok access =>
      obtain ⟨fault, hQ, ha, hb⟩ := hok entity access hfind hgranted
      exact ⟨fault, hQ, (Call.serve_bind_ok (serve_enter hfind hgranted)).trans ha,
        (Call.serve_bind_ok (serve_enter hfind (haccess.trans hgranted))).trans hb⟩

variable {entity : Entity} {id : Uuid} {p : Predicate}

theorem serve_fetchOne_missing {store : Store}
    (hmissing : (e.order store.records.values).find? (Store.concerns entity p) = none) :
    (fetchOne entity id p).serve e store = (.error (.recordNotFound entity.name id.text), store) := by
  have hfetch : (Call.fetch entity p).serve e store = (.ok none, store) := by
    rw [← hmissing]
    rfl
  exact Call.serve_bind_ok hfetch

theorem RefusedAlike.fetchOne (hQ : Q (.recordNotFound entity.name id.text))
    (ha : (e.order a.records.values).find? (Store.concerns entity p) = none)
    (hb : (e'.order b.records.values).find? (Store.concerns entity p) = none) :
    (fetchOne entity id p).RefusedAlike Q e a e' b :=
  ⟨_, hQ, serve_fetchOne_missing ha, serve_fetchOne_missing hb⟩

theorem recordId_of_read? {text : String} (h : Uuid.read? (trimmed text) = some id) :
    recordId entity text = .ok id := by
  unfold recordId
  rw [h]

end Service

/-! ## Requests on a record out of reach -/

namespace ServiceRequest

open Service

/-- Whether the reply to a request is masked by what the caller may read. Deletions and restorations
are answered also to those who may not read. -/
def NeedsMask (q : ServiceRequest) : Prop := q.operation.action ≠ .delete

/-- All that a request on a record establishes before it looks for the record. -/
structure Cleared (s : Service) (q : ServiceRequest) (e : Surroundings) (entity : Entity)
    (access : Access) (condition : Predicate) : Prop where
  find : s.schema.find q.entity = .ok entity
  granted : e.access q.ctx.toCaller = .ok access
  forced : Service.forced q.ctx access entity q.operation.action = .ok condition
  masked : q.NeedsMask → ∃ mask, access.readMask entity = .ok mask

/-- The record of an identifier is not there, or does not meet the row condition of the request. -/
structure OutOfReach (s : Service) (q : ServiceRequest) (e : Surroundings) (id : Uuid)
    (store : Store) : Prop where
  keyed : store.Keyed
  unmet : ∀ entity access condition, q.Cleared s e entity access condition →
    ∀ r, store.find? id = some r → r.meets condition = false

/-- A fault that tells only that there is no record, unless something stands before the search. -/
def SaysAbsent (s : Service) (q : ServiceRequest) (e : Surroundings) (id : Uuid) (fault : Fault) :
    Prop :=
  ∀ entity access condition, q.Cleared s e entity access condition →
    fault = .recordNotFound entity.name id.text

section Refusals

variable {s : Service} {q : ServiceRequest} {e e' : Surroundings} {a b : Store} {id : Uuid}
  {entity : Entity} {access : Access} {text : String}

/-- Where the entity and the access are known, only the rest of a clearance is left to look at. -/
theorem SaysAbsent.entered {fault : Fault} (hfind : s.schema.find q.entity = .ok entity)
    (hgranted : e.access q.ctx.toCaller = .ok access)
    (h : ∀ condition, q.Cleared s e entity access condition →
      fault = .recordNotFound entity.name id.text) : q.SaysAbsent s e id fault := by
  intro entity' access' condition hcleared
  obtain rfl : entity = entity' := Except.ok.inj (hfind.symm.trans hcleared.find)
  obtain rfl : access = access' := Except.ok.inj (hgranted.symm.trans hcleared.granted)
  exact h condition hcleared

theorem enter_refusedAlike {α : Type} {f : Entity × Access → Call α}
    (haccess : e'.access q.ctx.toCaller = e.access q.ctx.toCaller)
    (h : ∀ entity access, s.schema.find q.entity = .ok entity →
      e.access q.ctx.toCaller = .ok access →
      (f (entity, access)).RefusedAlike (q.SaysAbsent s e id) e a e' b) :
    (s.enter q.ctx q.entity >>= f).RefusedAlike (q.SaysAbsent s e id) e a e' b := by
  refine RefusedAlike.enter_bind haccess (fun error hfind => ?_) (fun fault hdenied => ?_) h
  · intro _ _ _ hcleared
    exact absurd hcleared.find (by simp [hfind])
  · intro _ _ _ hcleared
    exact absurd hcleared.granted (by simp [hdenied])

/-- Looking for the record ends both runs. -/
theorem fetchOne_refusedAlike {condition : Predicate} {deleted : Bool}
    (ha : q.OutOfReach s e id a) (hb : q.OutOfReach s e id b)
    (hcleared : q.Cleared s e entity access condition) :
    (fetchOne entity id (reachable q.ctx entity deleted id condition)).RefusedAlike
      (q.SaysAbsent s e id) e a e' b := by
  refine RefusedAlike.fetchOne ?_ (ha.keyed.find?_unreachable (ha.unmet _ _ _ hcleared) ..)
    (hb.keyed.find?_unreachable (hb.unmet _ _ _ hcleared) ..)
  exact .entered hcleared.find hcleared.granted fun _ _ => rfl

/-- The row condition is worked out in the same way, and where this fails nothing is cleared. -/
theorem forced_refusedAlike {α : Type} {f : Predicate → Call α} {action : Action}
    (haction : q.operation.action = action) (hfind : s.schema.find q.entity = .ok entity)
    (hgranted : e.access q.ctx.toCaller = .ok access)
    (h : ∀ condition, forced q.ctx access entity q.operation.action = .ok condition →
      (f condition).RefusedAlike (q.SaysAbsent s e id) e a e' b) :
    (Call.done (forced q.ctx access entity action) >>= f).RefusedAlike (q.SaysAbsent s e id) e a
      e' b := by
  subst haction
  refine .done_bind (fun fault herror => .entered hfind hgranted fun condition hcleared => ?_) h
  exact absurd hcleared.forced (by simp [herror])

theorem mask_refusedAlike {α : Type} {f : FieldMask → Call α} (hneeds : q.NeedsMask)
    (hfind : s.schema.find q.entity = .ok entity) (hgranted : e.access q.ctx.toCaller = .ok access)
    (h : ∀ mask, access.readMask entity = .ok mask →
      (f mask).RefusedAlike (q.SaysAbsent s e id) e a e' b) :
    (Call.done (access.readMask entity) >>= f).RefusedAlike (q.SaysAbsent s e id) e a e' b := by
  refine .done_bind (fun fault herror => .entered hfind hgranted fun condition hcleared => ?_) h
  obtain ⟨mask, hmask⟩ := hcleared.masked hneeds
  exact absurd hmask (by simp [herror])

/-- The operations go through the same steps up to the search; they differ in those they leave out. -/
theorem get_refusedAlike (haccess : e'.access q.ctx.toCaller = e.access q.ctx.toCaller)
    (ha : q.OutOfReach s e id a) (hb : q.OutOfReach s e id b) (hop : q.operation = .get text)
    (hid : Uuid.read? (trimmed text) = some id) :
    (s.get q.ctx q.entity text).RefusedAlike (q.SaysAbsent s e id) e a e' b := by
  have haction : q.operation.action = .read := by rw [hop]; rfl
  refine enter_refusedAlike haccess fun entity access hfind hgranted => ?_
  refine forced_refusedAlike haction hfind hgranted fun condition hforced => ?_
  refine mask_refusedAlike (by simp [NeedsMask, haction]) hfind hgranted fun mask hmask => ?_
  rw [recordId_of_read? hid]
  exact .bind (fetchOne_refusedAlike ha hb ⟨hfind, hgranted, hforced, fun _ => ⟨mask, hmask⟩⟩) _

theorem update_refusedAlike {payload : Json}
    (haccess : e'.access q.ctx.toCaller = e.access q.ctx.toCaller) (ha : q.OutOfReach s e id a)
    (hb : q.OutOfReach s e id b) (hop : q.operation = .update text payload)
    (hid : Uuid.read? (trimmed text) = some id) :
    (s.update q.ctx q.entity text payload).RefusedAlike (q.SaysAbsent s e id) e a e' b := by
  have haction : q.operation.action = .update := by rw [hop]; rfl
  refine enter_refusedAlike haccess fun entity access hfind hgranted => ?_
  refine .done_bind (fun fault herror => .entered hfind hgranted fun condition hcleared => ?_)
    fun permission _ => ?_
  · obtain ⟨permission, hauth, -⟩ := forced_ok hcleared.forced
    exact absurd hauth (by simp [haction, herror])
  refine forced_refusedAlike haction hfind hgranted fun condition hforced => ?_
  refine mask_refusedAlike (by simp [NeedsMask, haction]) hfind hgranted fun mask hmask => ?_
  rw [recordId_of_read? hid]
  exact .bind (.bind
    (fetchOne_refusedAlike ha hb ⟨hfind, hgranted, hforced, fun _ => ⟨mask, hmask⟩⟩) _) _

theorem mark_refusedAlike {deleted : Bool} {w : Write} {logged : Action}
    (haccess : e'.access q.ctx.toCaller = e.access q.ctx.toCaller) (ha : q.OutOfReach s e id a)
    (hb : q.OutOfReach s e id b) (haction : q.operation.action = .delete)
    (hid : Uuid.read? (trimmed text) = some id) :
    (s.mark q.ctx q.entity text deleted w logged).RefusedAlike (q.SaysAbsent s e id) e a e' b := by
  refine enter_refusedAlike haccess fun entity access hfind hgranted => ?_
  refine forced_refusedAlike haction hfind hgranted fun condition hforced => ?_
  rw [recordId_of_read? hid]
  exact .bind (.bind (fetchOne_refusedAlike ha hb
    ⟨hfind, hgranted, hforced, fun hneeds => absurd haction hneeds⟩) _) _

/-- **A request on a record that is out of reach in two stores is refused alike in both.** -/
theorem call_refusedAlike (haccess : e'.access q.ctx.toCaller = e.access q.ctx.toCaller)
    (ha : q.OutOfReach s e id a) (hb : q.OutOfReach s e id b) (hnames : q.Names id) :
    (q.call s).RefusedAlike (q.SaysAbsent s e id) e a e' b := by
  obtain ⟨text, htarget, hid⟩ := hnames
  unfold call
  split <;> rename_i hop <;> rw [hop] at htarget <;> cases htarget
  · exact (get_refusedAlike haccess ha hb hop hid).bind _
  · exact (update_refusedAlike haccess ha hb hop hid).bind _
  · exact (mark_refusedAlike haccess ha hb (by rw [hop]; rfl) hid).bind _
  · exact (mark_refusedAlike haccess ha hb (by rw [hop]; rfl) hid).bind _

end Refusals

variable {s : Service} {q : ServiceRequest} {e e' : Surroundings} {store : Store} {id : Uuid}
  {r : Record}

/-- **A record that a permission does not hold for looks absent.**

In a store that keeps records under their own identifiers, as every typed store does, let a record not
meet the row condition of the caller's permission for the action of a request: reading for reading,
changing for changing, deleting for deleting and restoring. Served without interruption, the request is
refused with the same fault in the store with this record and in the store without it, in whatever order
the two are walked, and both stores stay as they are. It does not matter whether the record is deleted or
locked, or what the payload of the request is. Unless the request would be refused on every store, the
fault says that the record is not found. -/
theorem hidden_record_looks_absent (hkeyed : store.Keyed) (hfind : store.find? id = some r)
    (hnames : q.Names id) (haccess : e'.access q.ctx.toCaller = e.access q.ctx.toCaller)
    (hunmet : ∀ entity access condition, q.Cleared s e entity access condition →
      r.meets condition = false) :
    ∃ fault, (q.call s).serve e store = (.error fault, store) ∧
      (q.call s).serve e' (store.without id) = (.error fault, store.without id) ∧
      ∀ entity access condition, q.Cleared s e entity access condition →
        fault = .recordNotFound entity.name id.text := by
  have hwith : q.OutOfReach s e id store := by
    refine ⟨hkeyed, fun entity access condition hcleared r' hr' => ?_⟩
    obtain rfl : r = r' := Option.some.inj (hfind.symm.trans hr')
    exact hunmet entity access condition hcleared
  have hwithout : q.OutOfReach s e id (store.without id) := by
    refine ⟨hkeyed.without id, fun _ _ _ _ r' hr' => ?_⟩
    simp [Store.find?_without] at hr'
  obtain ⟨fault, hsays, hserved, hserved'⟩ := call_refusedAlike haccess hwith hwithout hnames
  exact ⟨fault, hserved, hserved', hsays⟩

open Sample in
/-- A clerk who may delete only tasks titled "Act" is not told that the task titled "Plan" is locked. -/
theorem locked_plan_looks_absent : lockedPlan.Keyed ∧ deleting.Names .nil ∧
    (lockedPlan.find? .nil).any (·.isLocked) = true ∧
    (deleting.call service).serve (office archivist) lockedPlan =
      (.error (.recordNotFound task.name Uuid.nil.text), lockedPlan) ∧
    (deleting.call service).serve (office archivist) (lockedPlan.without .nil) =
      (.error (.recordNotFound task.name Uuid.nil.text), lockedPlan.without .nil) := by
  have hkeyed : lockedPlan.Keyed :=
    Store.Keyed.setApproval (.serve .empty (surroundings .nil) _) _ _ _
  have hlocked : (lockedPlan.find? .nil).any (·.isLocked) = true := by decide +kernel
  obtain ⟨r, hfind, -⟩ := (Option.any_eq_true ..).1 hlocked
  have hcondition : (rowCondition archivist .delete).any (fun condition =>
      (lockedPlan.find? .nil).all fun r => !r.meets condition) = true := by decide +kernel
  obtain ⟨condition, hcondition, hunmet⟩ := (Option.any_eq_true ..).1 hcondition
  have hcleared : deleting.Cleared service (office archivist) task (clerk archivist) condition :=
    ⟨rfl, rfl, forced_of_rowCondition hcondition, fun hneeds => absurd rfl hneeds⟩
  have haccess : (office archivist).access deleting.ctx.toCaller =
      (office archivist).access deleting.ctx.toCaller := rfl
  obtain ⟨fault, hserved, hserved', hfault⟩ := hidden_record_looks_absent (s := service)
    (q := deleting) hkeyed hfind ⟨Uuid.nil.text, rfl, by decide⟩ haccess
    (by
      intro entity access condition' hcleared'
      obtain rfl : task = entity := Except.ok.inj (hcleared.find.symm.trans hcleared'.find)
      obtain rfl : clerk archivist = access :=
        Except.ok.inj (hcleared.granted.symm.trans hcleared'.granted)
      obtain rfl : condition = condition' :=
        Except.ok.inj (hcleared.forced.symm.trans hcleared'.forced)
      simpa [hfind] using hunmet)
  obtain rfl := hfault task (clerk archivist) condition hcleared
  exact ⟨hkeyed, ⟨Uuid.nil.text, rfl, by decide⟩, hlocked, hserved, hserved'⟩

end ServiceRequest

end Dossier
