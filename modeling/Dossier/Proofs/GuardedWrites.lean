import Dossier.Proofs.Interleaving

/-!
# Writes stay within reach and off locked records

A write reads its record first and writes it later, and anything may happen in between. What counts
is the guard that the store checks in the same step as it writes. Here the guard of every write is
traced back to its request (`ServiceRequest.MayWrite`), whatever other calls and workflows do
meanwhile.

Main result: `run_guards_writes`.
-/

namespace Dossier

def Record.Pending (r : Record) : Prop := r.approval.map (·.status) = some .pending

theorem Record.isLocked_iff (r : Record) : r.isLocked = true ↔ r.Pending := by
  unfold Record.isLocked Record.Pending
  cases r.approval with
  | none => simp
  | some approval => simp

theorem Service.forced_ok {ctx : Context} {access : Access} {entity : Entity} {action : Action}
    {condition : Predicate} (h : forced ctx access entity action = .ok condition) :
    ∃ permission, access.authorize entity.name action = .ok permission ∧
      permission.rowPredicate (ctx.variables access) entity = .ok condition := by
  unfold forced at h
  cases hauth : access.authorize entity.name action with
  | ok permission =>
    rw [hauth] at h
    exact ⟨permission, rfl, h⟩
  | error fault =>
    rw [hauth] at h
    cases h

namespace ServiceRequest

/-- What holds of a record at the moment that a request writes to it: it is the one named, in the
place that the operation is on, within the row condition of the action, and not locked. -/
structure MayWrite (s : Service) (q : ServiceRequest) (access : Access) (w : Write)
    (before : Record) :
    Prop where
  named : ∃ text, q.operation.target? = some text ∧ Uuid.read? (trimmed text) = some before.id
  tenant : before.tenant = q.ctx.tenant
  entity : before.entity = q.entity
  deleted : before.deleted = q.operation.onDeleted
  permitted : ∃ entity permission condition,
    s.schema.find q.entity = .ok entity ∧ q.Writes entity access w ∧
    access.authorize entity.name q.operation.action = .ok permission ∧
    permission.rowPredicate (q.ctx.variables access) entity = .ok condition ∧
    before.meets condition = true
  unlocked : ¬ before.Pending

variable {s : Service} {q : ServiceRequest} {entity : Entity} {access : Access}

theorem Aims.permission {id : Uuid} {forced : Predicate} (h : q.Aims entity access id forced) :
    ∃ permission, access.authorize entity.name q.operation.action = .ok permission ∧
      permission.rowPredicate (q.ctx.variables access) entity = .ok forced :=
  Service.forced_ok h.forced

/-- **A record that meets the guard of a write may be written to**, and it is the one under the
identifier that the write names. -/
theorem Makes.mayWrite (hs : s.schema.Registered) (hfind : s.schema.find q.entity = .ok entity)
    {id : Uuid} {guard : Predicate} {w : Write} {actor : String}
    (h : q.Makes s entity access (.write entity id guard w actor)) {before : Record}
    (hguard : Store.concerns entity guard before = true) :
      before.id = id ∧ q.MayWrite s access w before := by
  cases h with
  | @write _ forced _ aims writes =>
    obtain ⟨-, hmeets⟩ := Store.concerns_iff.1 hguard
    rw [before.meets_both, Bool.and_eq_true] at hmeets
    obtain ⟨hreach, hunlocked⟩ := hmeets
    obtain ⟨htenant, hentity, hdeleted, hid, hforced⟩ := (before.meets_reachable ..).1 hreach
    obtain ⟨permission, hauth, hrow⟩ := aims.permission
    have hlocked : ¬ before.Pending := by
      rw [← before.isLocked_iff]
      rw [before.meets_unlocked] at hunlocked
      simpa using hunlocked
    refine ⟨hid, ?_, htenant, ?_, hdeleted,
      ⟨entity, permission, forced, hfind, writes, hauth, hrow, hforced⟩, hlocked⟩
    · rw [hid]
      exact aims.named
    · rw [hentity, hs.name_eq hfind]

theorem Changes.keeps_pending (hs : s.schema.Registered) {e : Surroundings} {store after : Store}
    (h : q.Changes s access e store after) {id : Uuid} {r : Record} (hr : store.find? id = some r)
    (hpending : r.Pending) : after.find? id = some r := by
  cases h with
  | @create entity draft hfind hmakes hfree =>
    rw [Store.find?_put]
    have hne : id ≠ (draft.record e.newId e.time).id := by
      rintro rfl
      rw [show (draft.record e.newId e.time).id = e.newId from rfl, hfree] at hr
      cases hr
    rw [if_neg hne, hr]
  | @write entity target guard w actor before hfind hmakes hfound hguard =>
    rw [Store.find?_insert]
    have hne : id ≠ target := by
      rintro rfl
      rw [hfound] at hr
      cases hr
      exact (hmakes.mayWrite hs hfind hguard).2.unlocked hpending
    rw [if_neg hne, hr]

end ServiceRequest

namespace Progress

/-- Whether the next answer to a call is a record that it has written to. -/
def writes (c : Progress) (e : Surroundings) (store : Store) : Bool :=
  match c.rest with
  | .ask (.write entity id guard wr actor) _ =>
    (store.write entity id guard wr ⟨actor, e.time⟩).1.isSome
  | _ => false

theorem exists_write (c : Progress) {e : Surroundings} {store : Store}
    (h : c.writes e store = true) : ∃ entity id guard wr actor next after,
      c.rest = .ask (.write entity id guard wr actor) next ∧
      (e.answer store (.write entity id guard wr actor)).1 = .ok (some after) := by
  unfold writes at h
  split at h
  · rename_i entity id guard wr actor next hrest
    obtain ⟨after, hafter⟩ := Option.isSome_iff_exists.1 h
    exact ⟨entity, id, guard, wr, actor, next, after, hrest, congrArg Except.ok hafter⟩
  · cases h

end Progress

namespace World

variable {s : Service} {w : World}

/-- A step that is no workflow's leaves locked records as they are. -/
theorem Sound.step_keeps_pending (h : w.Sound s) (hs : s.schema.Registered) {event : Event}
    (hevent : ∀ entity id state, event ≠ .approval entity id state) {id : Uuid} {r : Record}
    (hr : w.store.find? id = some r) (hpending : r.Pending) :
      (w.step s event).store.find? id = some r := by
  cases event with
  | arrive q => exact hr
  | approval entity id' state => exact absurd rfl (hevent entity id' state)
  | proceed i e =>
    show (w.proceed i e).store.find? id = some r
    unfold World.proceed
    split
    · rename_i c hi
      rcases (h c (List.mem_of_getElem? hi)).proceed_store e w.store with
        hsame | ⟨access, -, hchanges⟩
      · rw [hsame]
        exact hr
      · exact hchanges.keeps_pending hs hr hpending
    · exact hr

/-- A write that is applied, with the record that it was applied to. -/
theorem Sound.write_applied (h : w.Sound s) (hs : s.schema.Registered) {i : Nat} {c : Progress}
    (hi : w.calls[i]? = some c) {entity : Entity} {id : Uuid} {guard : Predicate} {wr : Write}
    {actor : String} {next : Demand.Answer (.write entity id guard wr actor) → Call ServiceReply}
    (hrest : c.rest = .ask (.write entity id guard wr actor) next) (e : Surroundings)
    {after : Record}
    (happlied : (e.answer w.store (.write entity id guard wr actor)).1 = .ok (some after)) :
    ∃ access before, c.granted = some access ∧ w.store.find? id = some before ∧
      after = wr.apply ⟨actor, e.time⟩ before ∧
        (w.step s (.proceed i e)).store.find? id = some after ∧
      before.id = id ∧ c.request.MayWrite s access wr before := by
  rcases (h c (List.mem_of_getElem? hi)).demand hrest with
    haccess | ⟨access, entity', hgranted, hfind, hmakes⟩
  · cases haccess
  have hentity : entity = entity' := by cases hmakes; rfl
  subst hentity
  rcases w.store.change_cases entity id guard (wr.apply ⟨actor, e.time⟩) with
    ⟨before, hfound, hguard, hchange⟩ | ⟨-, hchange⟩
  · have hafter : after = wr.apply ⟨actor, e.time⟩ before := by
      simp only [Surroundings.answer, Store.write, hchange] at happlied
      cases happlied
      rfl
    have hstore : (w.step s (.proceed i e)).store = ⟨w.store.records.insert id after⟩ := by
      rw [hafter]
      simp [World.step, World.proceed, hi, Progress.proceed, hrest, Surroundings.answer,
        Store.write, hchange]
    obtain ⟨hid, hmay⟩ := hmakes.mayWrite hs hfind hguard
    refine ⟨access, before, hgranted, hfound, hafter, ?_, hid, hmay⟩
    rw [hstore, Store.find?_insert, if_pos rfl]
  · simp only [Surroundings.answer, Store.write, hchange] at happlied
    cases happlied

/-- **Calls that interleave in any way leave locked records alone and write only within reach.**
From any store, after any steps: a step that is no workflow's keeps every locked record as it is,
and a write that is applied hits a record that its request may write to at that very moment. -/
theorem run_guards_writes (hs : s.schema.Registered) (start : Store) (events : List Event) :
    (∀ event, (∀ entity id state, event ≠ .approval entity id state) →
      ∀ id r, ((quiet start).run s events).store.find? id = some r → r.Pending →
        (((quiet start).run s events).step s event).store.find? id = some r) ∧
    (∀ i c entity id guard wr actor next e after, ((quiet start).run s events).calls[i]? = some c →
      c.rest = .ask (.write entity id guard wr actor) next →
      (e.answer ((quiet start).run s events).store (.write entity id guard wr actor)).1 =
        .ok (some after) →
      ∃ access before, c.granted = some access ∧
        ((quiet start).run s events).store.find? id = some before ∧
          after = wr.apply ⟨actor, e.time⟩ before ∧
        (((quiet start).run s events).step s (.proceed i e)).store.find? id = some after ∧
        before.id = id ∧ c.request.MayWrite s access wr before) := by
  have hsound : ((quiet start).run s events).Sound s := (sound_quiet start).run events
  constructor
  · intro event hevent id r hr hpending
    exact hsound.step_keeps_pending hs hevent hr hpending
  · intro i c entity id guard wr actor next e after hi hrest happlied
    exact hsound.write_applied hs hi hrest e happlied

open Sample in
/-- A lock that is taken between the read and the write of a deletion keeps the record. Without the
lock, the deletion writes to a record that it may write to. -/
theorem lock_after_read_keeps_record : service.schema.Registered ∧
    (∃ r, ((quiet .empty).run service (creation ++ deletion ++ [lock])).store.find? .nil = some r ∧
      r.Pending ∧
      (((quiet .empty).run service (creation ++ deletion ++ [lock])).step service
        (.proceed 1 (surroundings .nil))).store.find? .nil = some r) ∧
    ∃ c access id wr before after,
      ((quiet .empty).run service (creation ++ deletion)).calls[1]? = some c ∧
      ((quiet .empty).run service (creation ++ deletion)).store.find? id = some before ∧
      (((quiet .empty).run service (creation ++ deletion)).step service
        (.proceed 1 (surroundings .nil))).store.find? id = some after ∧
      c.request.MayWrite service access wr before := by
  refine ⟨registered, ?_, ?_⟩
  · have hlocked :
        (((quiet .empty).run service (creation ++ deletion ++ [lock])).store.find? .nil).any
          (·.isLocked) = true := by decide +kernel
    obtain ⟨r, hr, hpending⟩ := (Option.any_eq_true ..).1 hlocked
    have hpending := r.isLocked_iff.1 hpending
    refine ⟨r, hr, hpending, ?_⟩
    exact (run_guards_writes registered .empty (creation ++ deletion ++ [lock])).1
      (.proceed 1 (surroundings .nil)) (fun _ _ _ h => nomatch h) .nil r hr hpending
  · have hwrites : (((quiet .empty).run service (creation ++ deletion)).calls[1]?).any
        (·.writes (surroundings .nil) ((quiet .empty).run service (creation ++ deletion)).store) =
          true := by decide +kernel
    obtain ⟨c, hc, hwrites⟩ := (Option.any_eq_true ..).1 hwrites
    obtain ⟨entity, id, guard, wr, actor, next, after, hrest, happlied⟩ := c.exists_write hwrites
    obtain ⟨access, before, -, hfound, -, hafter, -, hmay⟩ :=
      (run_guards_writes registered .empty (creation ++ deletion)).2 1 c entity id guard wr actor
        next (surroundings .nil) after hc hrest happlied
    exact ⟨c, access, id, wr, before, after, hc, hfound, hafter, hmay⟩

end World

end Dossier
