import Dossier.Proofs.GuardedWrites
import Dossier.Proofs.Moments
import Dossier.Proofs.WriteBack

/-!
# Writes that nothing comes before

A call that changes a record reads it first. What it has established by then is repeated in the guard of
its write, by other means: the lock as a comparison of a text, the identifier as the text of one. Where no
step of another call or of a workflow comes between the two, the guard holds.

**What a call holds** (`Call.Heeds`). A call holds no record until it has read one. The record that it then
holds is not locked, and the only write that it comes to is of this record, under a guard that the record
meets. It looks for a record again only where it holds none, as after a write that was missed.

**Alone** (`Call.Alone`). As long as only this call goes on, the record that it holds is the one that is
stored. So the write finds what it is guarded by, and there is no miss to be explained.

Main result: `uncontended_write_hits`.
-/

namespace Dossier

/-- Demands that are neither for one record nor for a write. -/
def Demand.Aside : Demand → Prop
  | .fetch .. => False
  | .create .. => False
  | .write .. => False
  | _ => True

theorem Demand.Aside.readOnly {d : Demand} (h : d.Aside) : d.ReadOnly := by
  cases d with
  | create entity draft => exact h.elim
  | write entity id guard w actor => exact h.elim
  | _ => trivial

namespace Call

variable {α β : Type}

/-- A call that holds a record, or none, writes to no other one, and under no guard that this one does not
meet. -/
inductive Heeds : Option Record → Call α → Prop
  | done {held : Option Record} (result : Except Fault α) : Heeds held (.done result)
  | aside {held : Option Record} {d : Demand} {next : d.Answer → Call α} (aside : d.Aside)
      (rest : ∀ answer, Heeds held (next answer)) : Heeds held (.ask d next)
  | read {entity : Entity} {p : Predicate} {next : Demand.Answer (.fetch entity p) → Call α}
      (found : ∀ copy, Store.concerns entity p copy = true →
        Heeds (some copy) (next (.ok (some copy))))
      (missing : ∃ result, next (.ok none) = .done result)
      (error : ∀ e, ∃ result, next (.error e) = .done result) : Heeds none (.ask (.fetch entity p) next)
  | write {copy : Record} {entity : Entity} {guard : Predicate} {w : Write} {actor : String}
      {next : Demand.Answer (.write entity copy.id guard w actor) → Call α}
      (meets : Store.concerns entity guard copy = true) (unlocked : copy.isLocked = false)
      (written : ∀ r, (next (.ok (some r))).Obeys Demand.Aside fun _ => True)
      (missed : Heeds none (next (.ok none))) (error : ∀ e, Heeds none (next (.error e))) :
      Heeds (some copy) (.ask (.write entity copy.id guard w actor) next)

/-! ## Rules -/

section Rules

variable {held : Option Record} {c : Call α} {f : α → Call β}

theorem Obeys.heeds {Q : Except Fault α → Prop} (h : c.Obeys Demand.Aside Q) : c.Heeds held := by
  induction h with
  | done _ => exact .done _
  | ask aside _ ih => exact .aside aside ih

theorem Heeds.bind_aside {S : α → Prop} (h : c.Obeys Demand.Aside (WhenOk S))
    (ok : ∀ a, S a → (f a).Heeds held) : (c >>= f).Heeds held := by
  induction h with
  | @done result h =>
    cases result with
    | ok a => exact ok a h
    | error fault => exact .done _
  | ask aside _ ih => exact .aside aside ih

theorem heeds_done_bind {result : Except Fault α} (ok : ∀ a, result = .ok a → (f a).Heeds held) :
    (Call.done result >>= f).Heeds held := by
  cases result with
  | ok a => exact ok a rfl
  | error fault => exact .done _

theorem Heeds.map (g : α → β) (h : c.Heeds held) : (c >>= fun a => pure (g a)).Heeds held := by
  have hdone (result : Except Fault α) : ∃ result',
      (Call.done result >>= fun a => pure (g a)) = .done result' := by
    cases result <;> exact ⟨_, rfl⟩
  induction h with
  | done result =>
    obtain ⟨result', hresult⟩ := hdone result
    rw [hresult]
    exact .done _
  | aside aside _ ih => exact .aside aside ih
  | read _ missing error ih =>
    refine .read ih ?_ fun e => ?_
    · obtain ⟨result, hresult⟩ := missing
      rw [hresult]
      exact hdone result
    · obtain ⟨result, hresult⟩ := error e
      rw [hresult]
      exact hdone result
  | write meets unlocked written _ _ ihmissed iherror =>
    refine .write meets unlocked (fun r => ?_) ihmissed iherror
    exact (written r).bind (fun a _ => obeys_pure trivial) fun _ _ => trivial

/-- Whatever has happened in the meantime, what is left of a call heeds what it holds by then. -/
theorem Heeds.resume (h : c.Heeds held) (ms : List Moment) :
    ∃ held, (c.resume ms).Heeds held := by
  induction ms generalizing c held with
  | nil => exact ⟨held, by rwa [resume_nil]⟩
  | cons m ms ih =>
    cases h with
    | done result => exact ⟨held, by rw [resume_done]; exact .done result⟩
    | aside _ rest => exact ih (rest _)
    | @read entity p next found missing error =>
      rw [resume]
      cases hanswer : m.answer (.fetch entity p) with
      | error e =>
        obtain ⟨result, hresult⟩ := error e
        have hdone : (next (.error e)).Heeds none := hresult ▸ .done result
        exact ih hdone
      | ok answer =>
        cases answer with
        | none =>
          obtain ⟨result, hresult⟩ := missing
          have hdone : (next (.ok none)).Heeds none := hresult ▸ .done result
          exact ih hdone
        | some copy =>
          exact ih (found copy (m.e.mem_of_found (Except.ok.inj hanswer)).2)
    | @write copy entity guard w actor next meets unlocked written missed error =>
      rw [resume]
      cases m.answer (.write entity copy.id guard w actor) with
      | error e => exact ih (error e)
      | ok answer =>
        cases answer with
        | none => exact ih missed
        | some r =>
          have hrest : (next (.ok (some r))).Heeds none := (written r).heeds
          exact ih hrest

end Rules

end Call

/-! ## Operations -/

namespace Service

variable {α : Type} {ctx : Context} {entity : Entity} {id : Uuid} {p : Predicate}

theorem heeds_explainMiss_bind {β : Type} {deleted : Bool} {f : β → Call α} :
    ((explainMiss ctx entity deleted id : Call β) >>= f).Heeds none := by
  refine .read (fun copy _ => ?_) ⟨_, rfl⟩ fun _ => ⟨_, rfl⟩
  show Call.Heeds _ ((if copy.isLocked then Call.fail _ else Call.fail _) >>= f)
  split <;> exact .done _

theorem heeds_commit_bind {copy : Record} {deleted : Bool} {w : Write} {f : Record → Call α}
    (hreach : Store.concerns entity p copy = true) (hunlocked : copy.isLocked = false)
    (h : ∀ r, (f r).Obeys Demand.Aside fun _ => True) :
    (commit ctx entity deleted copy.id p w >>= f).Heeds (some copy) := by
  refine .write ?_ hunlocked h heeds_explainMiss_bind fun _ => .done _
  obtain ⟨hentity, hmeets⟩ := Store.concerns_iff.1 hreach
  rw [Store.concerns_iff, copy.meets_both, hmeets, copy.meets_unlocked, hunlocked]
  exact ⟨hentity, rfl⟩

theorem heeds_fetchUnlocked_bind {f : Record → Call α}
    (h : ∀ copy, Store.concerns entity p copy = true → copy.isLocked = false →
      (f copy).Heeds (some copy)) : (fetchUnlocked entity id p >>= f).Heeds none := by
  refine .read (fun copy hreach => ?_) ⟨_, rfl⟩ fun _ => ⟨_, rfl⟩
  show Call.Heeds _ ((if copy.isLocked then Call.fail _ else pure copy) >>= f)
  cases hlocked : copy.isLocked with
  | true => exact .done _
  | false => exact h copy hreach hlocked

/-- The record that is read is the one that the request names. -/
theorem id_of_reachable {deleted : Bool} {condition : Predicate} {copy : Record}
    (h : Store.concerns entity (reachable ctx entity deleted id condition) copy = true) :
    copy.id = id :=
  ((copy.meets_reachable ..).1 (Store.concerns_iff.1 h).2).2.2.2.1

theorem update_heeds (s : Service) (ctx : Context) (name text : String) (payload : Json) :
    (s.update ctx name text payload).Heeds none := by
  refine .bind_aside (enter_obeys s name trivial) fun ⟨entity, access⟩ _ => ?_
  refine Call.heeds_done_bind fun permission _ => Call.heeds_done_bind fun condition _ => ?_
  refine Call.heeds_done_bind fun mask _ => Call.heeds_done_bind fun id _ => ?_
  refine heeds_fetchUnlocked_bind fun copy hreach hunlocked => ?_
  obtain rfl := id_of_reachable hreach
  refine Call.heeds_done_bind fun members _ => ?_
  refine .bind_aside (gather_obeys (P := Demand.Aside) (fun _ _ _ _ => trivial) members
    entity.fields [] ∅ .nil) fun changes _ => ?_
  refine heeds_commit_bind hreach hunlocked fun after => ?_
  exact .ask trivial fun _ => .ask trivial fun _ => .done trivial

theorem mark_heeds (s : Service) (ctx : Context) (name text : String) (deleted : Bool) (w : Write)
    (logged : Action) : (s.mark ctx name text deleted w logged).Heeds none := by
  refine .bind_aside (enter_obeys s name trivial) fun ⟨entity, access⟩ _ => ?_
  refine Call.heeds_done_bind fun condition _ => Call.heeds_done_bind fun id _ => ?_
  refine heeds_fetchUnlocked_bind fun copy hreach hunlocked => ?_
  obtain rfl := id_of_reachable hreach
  exact heeds_commit_bind hreach hunlocked fun after => .ask trivial fun _ => .done trivial

end Service

theorem ServiceRequest.call_heeds {q : ServiceRequest} (s : Service)
    (hchanges : q.operation.effect = .changes) : (q.call s).Heeds none := by
  unfold call
  split <;> rename_i hop
  · rw [hop] at hchanges
    cases hchanges
  · rw [hop] at hchanges
    cases hchanges
  · rw [hop] at hchanges
    cases hchanges
  · exact (Service.update_heeds ..).map _
  · exact (Service.mark_heeds ..).map _
  · exact (Service.mark_heeds ..).map _

/-- **What a read has let through, a write on the same store changes.** -/
theorem Service.serve_commit_of_fetchUnlocked {ctx : Context} {entity : Entity} {deleted : Bool} {id : Uuid}
    {condition : Predicate} {store : Store} {e : Surroundings} {before : Record} (hkeyed : store.Keyed)
    (h : (fetchUnlocked entity id (reachable ctx entity deleted id condition)).serve e store =
      (.ok before, store)) (w : Write) (e' : Surroundings) :
    (commit ctx entity deleted id (reachable ctx entity deleted id condition) w).serve e' store =
      (.ok (w.apply ⟨ctx.user, e'.time⟩ before),
        ⟨store.records.insert id (w.apply ⟨ctx.user, e'.time⟩ before)⟩) := by
  rw [serve_fetchUnlocked, hkeyed.find?_reachable] at h
  have hread := congrArg Prod.fst h
  dsimp only at hread
  split at hread
  · rename_i r hr
    obtain ⟨hfound, hreach⟩ := Option.filter_eq_some_iff.1 hr
    split at hread
    · cases hread
    · rename_i hunlocked
      obtain rfl := Except.ok.inj hread
      exact serve_commit w hfound hreach (by simpa using hunlocked)
  · cases hread

/-! ## Going on alone -/

namespace Call

variable {α : Type} {found : Option Record} {store : Store}

/-- What is left of a call that has read and gone on alone. It has yet to write, and what it has found is
what is stored, or it will never write or look for a record again. -/
def Alone (found : Option Record) (store : Store) (c : Call α) : Prop :=
  (∃ copy, found = some copy ∧ c.Heeds (some copy) ∧ store.find? copy.id = some copy) ∨
    c.Obeys Demand.Aside fun _ => True

theorem Heeds.alone {held : Option Record} {entity : Entity} {p : Predicate}
    {next : Demand.Answer (.fetch entity p) → Call α} (h : (Call.ask (.fetch entity p) next).Heeds held)
    (hkeyed : store.Keyed) (e : Surroundings) : ∃ found,
      (e.answer store (.fetch entity p)).1 = .ok found ∧ (next (.ok found)).Alone found store := by
  cases h with
  | aside aside _ => exact aside.elim
  | read found missing error =>
    refine ⟨_, rfl, ?_⟩
    cases hfound : (e.order store.records.values).find? (Store.concerns entity p) with
    | none =>
      obtain ⟨result, hresult⟩ := missing
      rw [hresult]
      exact .inr (.done trivial)
    | some copy =>
      obtain ⟨hstored, hconcerns⟩ := e.mem_of_found hfound
      obtain ⟨key, hkey⟩ := Store.mem_values.1 hstored
      exact .inl ⟨copy, rfl, found copy hconcerns, by rw [hkeyed key copy hkey, hkey]⟩

variable {d : Demand} {next : d.Answer → Call α}

/-- The next demand of the call is answered. -/
theorem Alone.answer (h : (Call.ask d next).Alone found store) (e : Surroundings) :
    (next (e.answer store d).1).Alone found (e.answer store d).2 := by
  rcases h with ⟨copy, hfound, hheeds, hstored⟩ | haside
  · cases hheeds with
    | aside aside rest =>
      rw [e.answer_readOnly store aside.readOnly]
      exact .inl ⟨copy, hfound, rest _, hstored⟩
    | @write _ entity guard w actor _ meets unlocked written _ _ =>
      have hhit : (e.answer store (.write entity copy.id guard w actor)).1 =
          .ok (some (w.apply ⟨actor, e.time⟩ copy)) := by
        simp [Surroundings.answer, Store.write, Store.change, hstored, meets]
      rw [hhit]
      exact .inr (written _)
  · exact .inr (haside.next _)

theorem Alone.ne_fetch (h : (Call.ask d next).Alone found store) (entity : Entity) (p : Predicate) :
    d ≠ .fetch entity p := by
  rintro rfl
  rcases h with ⟨copy, -, hheeds, -⟩ | haside
  · cases hheeds with
    | aside aside _ => exact aside
  · exact haside.demand

/-- A write that the call comes to is made. -/
theorem Alone.hits {entity : Entity} {id : Uuid} {guard : Predicate} {w : Write} {actor : String}
    {next : Demand.Answer (.write entity id guard w actor) → Call α}
    (h : (Call.ask (.write entity id guard w actor) next).Alone found store) :
    ∃ before, found = some before ∧ before.isLocked = false ∧ store.find? id = some before ∧
      ∀ e : Surroundings, e.answer store (.write entity id guard w actor) =
        (.ok (some (w.apply ⟨actor, e.time⟩ before)),
          ⟨store.records.insert id (w.apply ⟨actor, e.time⟩ before)⟩) := by
  rcases h with ⟨copy, hfound, hheeds, hstored⟩ | haside
  · cases hheeds with
    | aside aside _ => exact aside.elim
    | write meets unlocked _ _ _ =>
      refine ⟨copy, hfound, unlocked, hstored, fun e => ?_⟩
      simp [Surroundings.answer, Store.write, Store.change, hstored, meets]
  · exact haside.demand.elim

end Call

namespace Progress

/-- Whether the next demand of a call is for one record. -/
def looks (c : Progress) : Bool :=
  match c.rest with
  | .ask (.fetch ..) _ => true
  | _ => false

theorem exists_fetch (c : Progress) (h : c.looks = true) :
    ∃ entity p next, c.rest = .ask (.fetch entity p) next := by
  unfold looks at h
  split at h
  · rename_i entity p next hrest
    exact ⟨entity, p, next, hrest⟩
  · cases h

end Progress

namespace World

variable {s : Service} {w : World} {i : Nat} {c : Progress} {found : Option Record}

theorem step_keyed (hkeyed : w.store.Keyed) (event : Event) : (w.step s event).store.Keyed := by
  cases event with
  | arrive q => exact hkeyed
  | approval entity id state => exact hkeyed.setApproval entity id state
  | proceed i e =>
    show (w.proceed i e).store.Keyed
    unfold World.proceed
    split
    · rename_i c _
      show (c.proceed e w.store).2.Keyed
      unfold Progress.proceed
      split
      · exact hkeyed
      · exact hkeyed.answer e _
    · exact hkeyed

theorem run_keyed (hkeyed : w.store.Keyed) (events : List Event) : (w.run s events).store.Keyed := by
  induction events generalizing w with
  | nil => exact hkeyed
  | cons event rest ih => exact ih (step_keyed hkeyed event)

theorem exists_call_proceed (s : Service) (hc : w.calls[i]? = some c) (e : Surroundings) : ∃ c',
    (w.step s (.proceed i e)).calls[i]? = some c' ∧
      (c', (w.step s (.proceed i e)).store) = c.proceed e w.store := by
  have hi : i < w.calls.length := (List.getElem?_eq_some_iff.1 hc).1
  refine ⟨(c.proceed e w.store).1, ?_, ?_⟩
  · rw [step, proceed, hc]
    exact List.getElem?_set_self hi
  · rw [step, proceed, hc]

theorem exists_call_answer (s : Service) (hc : w.calls[i]? = some c) {d : Demand}
    {next : d.Answer → Call ServiceReply} (hrest : c.rest = .ask d next) (e : Surroundings) : ∃ c',
    (w.step s (.proceed i e)).calls[i]? = some c' ∧ c'.rest = next (e.answer w.store d).1 ∧
      (w.step s (.proceed i e)).store = (e.answer w.store d).2 := by
  obtain ⟨c', hc', hstep⟩ := exists_call_proceed s hc e
  unfold Progress.proceed at hstep
  rw [hrest] at hstep
  obtain ⟨rfl, hstore⟩ := Prod.mk.inj hstep
  exact ⟨_, hc', rfl, hstore⟩

/-- **As long as only one call goes on, it stays alone.** -/
theorem run_alone (hc : w.calls[i]? = some c) (h : c.rest.Alone found w.store)
    (later : List Surroundings) : ∃ c',
      (w.run s (later.map (.proceed i))).calls[i]? = some c' ∧
        c'.rest.Alone found (w.run s (later.map (.proceed i))).store := by
  induction later generalizing w c with
  | nil => exact ⟨c, hc, h⟩
  | cons e later ih =>
    cases hrest : c.rest with
    | done result =>
      obtain ⟨c', hc', hstep⟩ := exists_call_proceed s hc e
      unfold Progress.proceed at hstep
      rw [hrest] at hstep
      obtain ⟨rfl, hstore⟩ := Prod.mk.inj hstep
      exact ih hc' (by rwa [hstore])
    | ask d next =>
      obtain ⟨c', hc', hrest', hstore⟩ := exists_call_answer s hc hrest e
      rw [hrest] at h
      refine ih hc' ?_
      rw [hrest', hstore]
      exact h.answer e

/-- **Where nothing comes between its read and its write, a change is made.**

From any store whose records stand under their identifiers, after any steps, a call that is to change a
record makes its read, and from then on only this call goes on. It never looks for a record again, so no
miss is explained. If it comes to a write, it has read a record that is not locked, this record is still
stored, and the write is made to it. The guard says the same as the checks: the lock as it is compared is
the lock, the identifier as it is compared is the identifier, and what a read lets through is written. -/
theorem uncontended_write_hits {start : Store} (hkeyed : start.Keyed) {events : List Event}
    (hw : (quiet start).run s events = w) (hc : w.calls[i]? = some c)
    (hchanges : c.request.operation.effect = .changes) {entity : Entity} {p : Predicate}
    {next : Demand.Answer (.fetch entity p) → Call ServiceReply}
    (hreads : c.rest = .ask (.fetch entity p) next) (e : Surroundings) (later : List Surroundings)
    {w' : World} (hw' : w.run s ((e :: later).map (.proceed i)) = w') :
    (∀ r : Record, (r.isLocked = true ↔ r.meets unlocked = false) ∧
      ∀ id, r.meets (byId id) = true ↔ r.id = id) ∧
    (∀ ctx entity deleted id condition (store : Store) (e e' : Surroundings) before wr, store.Keyed →
      (Service.fetchUnlocked entity id (Service.reachable ctx entity deleted id condition)).serve e store =
        (.ok before, store) →
      (Service.commit ctx entity deleted id (Service.reachable ctx entity deleted id condition) wr).serve
          e' store =
        (.ok (wr.apply ⟨ctx.user, e'.time⟩ before),
          ⟨store.records.insert id (wr.apply ⟨ctx.user, e'.time⟩ before)⟩)) ∧
    ∃ found c', (e.answer w.store (.fetch entity p)).1 = .ok found ∧ w'.calls[i]? = some c' ∧
      (∀ entity p next, c'.rest ≠ .ask (.fetch entity p) next) ∧
      ∀ entity id guard wr actor next, c'.rest = .ask (.write entity id guard wr actor) next →
        ∃ before, found = some before ∧ before.isLocked = false ∧
          w'.store.find? id = some before ∧
          ∀ e' : Surroundings, e'.answer w'.store (.write entity id guard wr actor) =
            (.ok (some (wr.apply ⟨actor, e'.time⟩ before)),
              ⟨w'.store.records.insert id (wr.apply ⟨actor, e'.time⟩ before)⟩) := by
  refine ⟨fun r => ⟨by rw [r.meets_unlocked, Bool.not_eq_false'], fun id => ?_⟩,
    fun _ _ _ _ _ _ _ e' _ wr hstored hread =>
      Service.serve_commit_of_fetchUnlocked hstored hread wr e', ?_⟩
  · rw [r.meets_byId, decide_eq_true_iff]
  subst hw
  have hstored : ((quiet start).run s events).store.Keyed := run_keyed hkeyed events
  obtain ⟨held, hheeds⟩ : ∃ held, c.rest.Heeds held := by
    rw [rest_eq_resume hc]
    exact (ServiceRequest.call_heeds s hchanges).resume _
  rw [hreads] at hheeds
  obtain ⟨found, hfound, halone⟩ := hheeds.alone hstored e
  obtain ⟨c₁, hc₁, hrest₁, hstore⟩ := exists_call_answer s hc hreads e
  have halone₁ : c₁.rest.Alone found (((quiet start).run s events).step s (.proceed i e)).store := by
    rw [hrest₁, hstore, hfound]
    exact halone
  obtain ⟨c', hc', halone'⟩ := run_alone hc₁ halone₁ later
  have hlater : (((quiet start).run s events).step s (.proceed i e)).run s
    (later.map (.proceed i)) = w' := hw'
  rw [hlater] at hc' halone'
  refine ⟨found, c', hfound, hc', fun entity p next hrest => ?_,
    fun entity id guard wr actor next hrest => ?_⟩
  · rw [hrest] at halone'
    exact halone'.ne_fetch entity p rfl
  · rw [hrest] at halone'
    exact halone'.hits

open Sample in
/-- The deletion of a task that goes on alone after its read comes to its write, and hits the task. -/
theorem lone_deletion_hits : Store.empty.Keyed ∧
    (∃ c, ((quiet .empty).run service (creation ++ deletion.take 2)).calls[1]? = some c ∧
      c.request.operation.effect = .changes ∧
      ∃ entity p next, c.rest = .ask (.fetch entity p) next) ∧
    ∃ c' entity id guard wr actor next before,
      ((quiet .empty).run service (creation ++ deletion)).calls[1]? = some c' ∧
      c'.rest = .ask (.write entity id guard wr actor) next ∧ before.isLocked = false ∧
      ((quiet .empty).run service (creation ++ deletion)).store.find? id = some before ∧
      ((surroundings .nil).answer ((quiet .empty).run service (creation ++ deletion)).store
        (.write entity id guard wr actor)).1 = .ok (some (wr.apply ⟨actor, .epoch⟩ before)) := by
  have hlooks : (((quiet .empty).run service (creation ++ deletion.take 2)).calls[1]?).any
      (fun c => c.looks && c.request.operation.effect == .changes) = true := by decide +kernel
  obtain ⟨c, hc, hlooks⟩ := (Option.any_eq_true ..).1 hlooks
  rw [Bool.and_eq_true, beq_iff_eq] at hlooks
  obtain ⟨entity, p, next, hrest⟩ := c.exists_fetch hlooks.1
  have hwrites : (((quiet .empty).run service (creation ++ deletion)).calls[1]?).any
      (·.writes (surroundings .nil) ((quiet .empty).run service (creation ++ deletion)).store) =
        true := by decide +kernel
  obtain ⟨c', hc', hwrites⟩ := (Option.any_eq_true ..).1 hwrites
  obtain ⟨entity', id, guard, wr, actor, next', after, hrest', -⟩ := c'.exists_write hwrites
  have hlast : ((quiet .empty).run service (creation ++ deletion.take 2)).run service
      ([surroundings .nil].map (.proceed 1)) = (quiet .empty).run service (creation ++ deletion) := rfl
  obtain ⟨-, -, found, c'', -, hc'', -, hhits⟩ :=
    uncontended_write_hits .empty rfl hc hlooks.2 hrest (surroundings .nil) [] hlast
  obtain rfl : c' = c'' := Option.some.inj (hc'.symm.trans hc'')
  obtain ⟨before, -, hunlocked, hstored, hanswer⟩ := hhits _ _ _ _ _ _ hrest'
  exact ⟨.empty, ⟨c, hc, hlooks.2, entity, p, next, hrest⟩, c', entity', id, guard, wr, actor, next',
    before, hc', hrest', hunlocked, hstored, congrArg Prod.fst (hanswer _)⟩

end World

end Dossier
