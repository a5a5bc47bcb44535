import Dossier.Proofs.Report
import Dossier.Proofs.WriteFrame

/-!
# Failed calls leave no trace, and telling changes no outcome

**What a call has told** (`Call.told`). The entries and the notifications that a call has handed
over in a session, in order. Whatever the call, the audit trail and the queue end up with just these
(`trail_run`, `notifications_run`).

**What comes of a call** (`Call.outcome`). Its result, the store after it, and what it has told. A
call follows the stages in which it owes its report: until it writes, a failure leaves the store as
it was and nothing told; from the write on it cannot fail (`Owes.outcome`).

**Two sessions** that differ in their audit trails and queues alone give the same outcome
(`outcome_withSinks`): what is told is told without listening.

Main result: `call_leaves_report`.
-/

namespace Dossier

/-! ## What is told -/

def Demand.entry? : Demand → Option AuditEntry
  | .audit entry => some entry
  | _ => none

def Demand.notification? : Demand → Option Notification
  | .notify n => some n
  | _ => none

def Call.told {α : Type} : Call α → Nat → Session → List Demand
  | .done _, _, _ => []
  | .ask d next, left, s =>
    if s.delay d ≤ left then
      (if d.tells then [d] else []) ++ (next (s.answer d).1).told (left - s.delay d) (s.answer d).2
    else []

/-- What comes of a call in a session: its result, the store after it, and what it has told. -/
def Call.outcome {α : Type} (c : Call α) (left : Nat) (s : Session) :
    Except Fault α × Store × List Demand :=
  ((c.run left s).1, (c.run left s).2.store, c.told left s)

namespace Session

def trailAfter (s : Session) (told : List Demand) : List AuditEntry :=
  if s.auditing then s.trail ++ told.filterMap Demand.entry? else s.trail

/-- The queue after some things were told; what it has no room for is dropped. -/
def notificationsAfter (s : Session) (told : List Demand) : Option (Queue Notification) :=
  s.notifications.map fun q =>
    (told.filterMap Demand.notification?).foldl (fun q n => (q.offer n).2) q

/-- The session with another audit trail and another queue, or none. -/
def withSinks (s : Session) (auditing : Bool) (trail : List AuditEntry)
    (notifications : Option (Queue Notification)) : Session :=
  { s with auditing, trail, notifications }

/-! ## Answers -/

theorem exists_use (s : Session) (operation : StoreOperation) :
    ∃ fails failures, s.use operation = (fails, { s with failures }) := ⟨_, _, rfl⟩

/-- An operation that may be made to fail: it does nothing then. -/
theorem attempt_cases {α : Type} (s : Session) (operation : StoreOperation)
    (run : Session → Except StoreError α × Session) : ∃ failures,
      s.attempt operation run = (.error .database, { s with failures }) ∨
      s.attempt operation run = run { s with failures } := by
  obtain ⟨fails, failures, huse⟩ := s.exists_use operation
  refine ⟨failures, ?_⟩
  rw [attempt, huse]
  cases fails with
  | true => exact .inl rfl
  | false => exact .inr rfl

/-- Who is only asked keeps all but the count of uses. -/
theorem answer_silent (s : Session) {d : Demand} (h : d.Silent) :
    ∃ failures, (s.answer d).2 = { s with failures } := by
  cases d with
  | access caller => exact ⟨_, rfl⟩
  | approval workflows caller entity draft => exact ⟨_, rfl⟩
  | file tenant id => exact ⟨_, rfl⟩
  | fetch entity p =>
    obtain ⟨failures, h | h⟩ := s.attempt_cases .get fun s => (.ok (s.store.get entity p), s) <;>
      exact ⟨failures, congrArg Prod.snd h⟩
  | list entity q =>
    obtain ⟨failures, h | h⟩ := s.attempt_cases .list fun s => (.ok (s.store.list entity q), s) <;>
      exact ⟨failures, congrArg Prod.snd h⟩
  | count entity p =>
    obtain ⟨failures, h | h⟩ := s.attempt_cases .count fun s => (.ok (s.store.count entity p), s) <;>
      exact ⟨failures, congrArg Prod.snd h⟩
  | _ => exact h.elim

theorem answer_fetch (s : Session) (entity : Entity) (p : Predicate) :
    (s.answer (.fetch entity p)).1 = .error .database ∨
      (s.answer (.fetch entity p)).1 = .ok (s.store.get entity p) := by
  obtain ⟨failures, h | h⟩ := s.attempt_cases .get fun s => (.ok (s.store.get entity p), s)
  · exact .inl (congrArg Prod.fst h)
  · exact .inr (congrArg Prod.fst h)

/-- A draft becomes a record under a free identifier, or the store stays as it is. -/
theorem answer_create (s : Session) (entity : Entity) (draft : Draft) :
    (∃ r, s.store.find? r.id = none ∧ (s.answer (.create entity draft)).1 = .ok r ∧
      (s.answer (.create entity draft)).2.store = s.store.put r) ∨
    ∃ e, (s.answer (.create entity draft)).1 = .error e ∧
      (s.answer (.create entity draft)).2.store = s.store := by
  obtain ⟨failures, h | h⟩ := s.attempt_cases .create fun s => s.create draft
  · exact .inr ⟨_, congrArg Prod.fst h, congrArg (·.2.store) h⟩
  · rw [answer, h]
    simp only [create]
    rcases s.store.create_cases (draft.record (s.idOf (s.creations + 1)) (s.timeOf (s.writes + 1)))
      with ⟨hfree, hcreate⟩ | ⟨-, hcreate⟩
    · rw [hcreate]
      exact .inl ⟨_, hfree, rfl, rfl⟩
    · rw [hcreate]
      exact .inr ⟨_, rfl, rfl⟩

/-- When nobody interferes, a write changes the record under its identifier or nothing at all. -/
theorem answer_write (s : Session) (hi : s.interferences = []) (entity : Entity) (id : Uuid)
    (guard : Predicate) (w : Write) (actor : String) :
    (∃ r, (s.answer (.write entity id guard w actor)).1 = .ok (some r) ∧
      (s.answer (.write entity id guard w actor)).2.store = ⟨s.store.records.insert id r⟩) ∨
    ((s.answer (.write entity id guard w actor)).1 = .ok none ∨
      ∃ e, (s.answer (.write entity id guard w actor)).1 = .error e) ∧
      (s.answer (.write entity id guard w actor)).2.store = s.store := by
  obtain ⟨failures, h | h⟩ := s.attempt_cases w.operation fun s =>
    (.ok (s.write entity id guard w actor).1, (s.write entity id guard w actor).2)
  · exact .inr ⟨.inr ⟨_, congrArg Prod.fst h⟩, congrArg (·.2.store) h⟩
  · rw [show s.answer (.write entity id guard w actor) = _ from h]
    simp only [write, interfered, hi, List.foldl_nil, Store.write]
    rcases s.store.change_cases entity id guard (w.apply ⟨actor, s.timeOf (s.writes + 1)⟩) with
      ⟨before, -, -, hchange⟩ | ⟨-, hchange⟩
    · rw [hchange]
      exact .inl ⟨_, rfl, rfl⟩
    · rw [hchange]
      exact .inr ⟨.inl rfl, rfl⟩

theorem answer_tells_store (s : Session) {d : Demand} (h : d.tells = true) :
    (s.answer d).2.store = s.store := by
  cases d with
  | audit entry =>
    simp only [answer, audit]
    split <;> rfl
  | notify n => rfl
  | _ => cases h

/-! ### Sinks -/

section Sinks

variable (auditing : Bool) (trail : List AuditEntry) (notifications : Option (Queue Notification))

theorem attempt_withSinks {α : Type} {run : Session → Except StoreError α × Session}
    (h : ∀ s : Session, run (s.withSinks auditing trail notifications) =
      ((run s).1, (run s).2.withSinks auditing trail notifications)) (s : Session)
    (operation : StoreOperation) :
    (s.withSinks auditing trail notifications).attempt operation run =
      ((s.attempt operation run).1,
        (s.attempt operation run).2.withSinks auditing trail notifications) := by
  obtain ⟨fails, failures, huse⟩ := s.exists_use operation
  have hother : (s.withSinks auditing trail notifications).use operation =
      (fails, { s with failures }.withSinks auditing trail notifications) := by
    cases huse
    rfl
  rw [attempt, attempt, huse, hother]
  cases fails with
  | true => rfl
  | false => exact h _

/-- What is not telling takes no part in the audit trail and the queue. -/
theorem answer_withSinks (s : Session) {d : Demand} (h : d.tells = false) :
    (s.withSinks auditing trail notifications).answer d =
      ((s.answer d).1, (s.answer d).2.withSinks auditing trail notifications) := by
  cases d with
  | audit entry => cases h
  | notify n => cases h
  | access caller => rfl
  | approval workflows caller entity draft => rfl
  | file tenant id => rfl
  | fetch entity p => exact attempt_withSinks _ _ _ (fun _ => rfl) s .get
  | list entity q => exact attempt_withSinks _ _ _ (fun _ => rfl) s .list
  | count entity p => exact attempt_withSinks _ _ _ (fun _ => rfl) s .count
  | create entity draft =>
    refine attempt_withSinks _ _ _ (fun s => ?_) s .create
    simp only [create, withSinks]
    split <;> rfl
  | write entity id guard w actor => exact attempt_withSinks _ _ _ (fun _ => rfl) s w.operation

/-- Who is told something gives no answer to it. -/
theorem answer_tells (s : Session) {d : Demand} (h : d.tells = true) : ∃ trail' notifications',
    (s.withSinks auditing trail notifications).answer d =
      ((s.answer d).1, (s.answer d).2.withSinks auditing trail' notifications') := by
  cases d with
  | audit entry =>
    refine ⟨if auditing then trail ++ [entry] else trail, notifications, ?_⟩
    cases auditing <;> cases hs : s.auditing <;> simp [answer, audit, withSinks, hs]
  | notify n => exact ⟨trail, notifications.map fun q => (q.offer n).2, rfl⟩
  | _ => cases h

end Sinks

/-- Only telling reaches the audit trail and the queue. -/
theorem answer_sinks (s : Session) {d : Demand} (h : d.tells = false) (told : List Demand) :
    (s.answer d).2.trailAfter told = s.trailAfter told ∧
      (s.answer d).2.notificationsAfter told = s.notificationsAfter told := by
  have hsame : s.answer d =
      ((s.answer d).1, (s.answer d).2.withSinks s.auditing s.trail s.notifications) :=
    s.answer_withSinks s.auditing s.trail s.notifications h
  rw [hsame]
  exact ⟨rfl, rfl⟩

theorem answer_sinks_of_tells (s : Session) {d : Demand} (h : d.tells = true) (told : List Demand) :
    (s.answer d).2.trailAfter told = s.trailAfter (d :: told) ∧
      (s.answer d).2.notificationsAfter told = s.notificationsAfter (d :: told) := by
  cases d with
  | audit entry =>
    cases hauditing : s.auditing <;> simp [answer, audit, trailAfter, notificationsAfter, hauditing,
      List.filterMap_cons, Demand.entry?, Demand.notification?]
  | notify n =>
    refine ⟨rfl, ?_⟩
    simp [answer, notify, notificationsAfter, Demand.notification?, Function.comp_def]
  | _ => cases h

end Session

/-! ## Runs -/

namespace Call

variable {α : Type} {s : Session} {left : Nat}

theorem run_ask {d : Demand} {next : d.Answer → Call α} (h : s.delay d ≤ left) :
    (Call.ask d next).run left s = (next (s.answer d).1).run (left - s.delay d) (s.answer d).2 := by
  rw [run, if_pos h]

theorem run_late {d : Demand} {next : d.Answer → Call α} (h : ¬ s.delay d ≤ left) :
    (Call.ask d next).run left s = (.error .deadlineExceeded, s) := by
  rw [run, if_neg h]

/-- **The audit trail and the queue end up with what the call has told them**, whatever the call. -/
theorem run_sinks (c : Call α) (left : Nat) (s : Session) :
    (c.run left s).2.trail = s.trailAfter (c.told left s) ∧
      (c.run left s).2.notifications = s.notificationsAfter (c.told left s) := by
  have hnothing (s : Session) :
      s.trail = s.trailAfter [] ∧ s.notifications = s.notificationsAfter [] := by
    simp [Session.trailAfter, Session.notificationsAfter]
  induction c generalizing left s with
  | done result => exact hnothing s
  | ask d next ih =>
    rw [told]
    by_cases hdelay : s.delay d ≤ left
    · rw [run_ask hdelay, if_pos hdelay, (ih ..).1, (ih ..).2]
      cases hd : d.tells with
      | true => exact s.answer_sinks_of_tells hd _
      | false => exact s.answer_sinks hd _
    · rw [run_late hdelay, if_neg hdelay]
      exact hnothing s

/-- **Nothing hangs on the audit trail and the queue**: a call has the same result, leaves the same
store, and tells the same things, whatever becomes of them. -/
theorem outcome_withSinks (c : Call α) (left : Nat) (s : Session) (auditing : Bool)
    (trail : List AuditEntry) (notifications : Option (Queue Notification)) :
    c.outcome left (s.withSinks auditing trail notifications) = c.outcome left s := by
  unfold outcome
  induction c generalizing left s trail notifications with
  | done result => rfl
  | ask d next ih =>
    have hdelays : (s.withSinks auditing trail notifications).delay d = s.delay d := by
      cases d <;> rfl
    rw [told, told, hdelays]
    by_cases hdelay : s.delay d ≤ left
    · have hanswer : ∃ trail' notifications',
          (s.withSinks auditing trail notifications).answer d =
            ((s.answer d).1, (s.answer d).2.withSinks auditing trail' notifications') := by
        cases hd : d.tells with
        | true => exact s.answer_tells auditing trail notifications hd
        | false => exact ⟨trail, notifications, s.answer_withSinks auditing trail notifications hd⟩
      obtain ⟨trail', notifications', hanswer⟩ := hanswer
      have hrest := ih (s.answer d).1 (left - s.delay d) (s.answer d).2 trail' notifications'
      simp only [Prod.mk.injEq] at hrest
      rw [run_ask hdelay, run_ask (hdelays ▸ hdelay), if_pos hdelay, if_pos hdelay, hanswer, hdelays,
        hrest.1, hrest.2.1, hrest.2.2]
    · rw [run_late hdelay, run_late (hdelays ▸ hdelay), if_neg hdelay, if_neg hdelay]
      rfl

/-! ## Stages -/

/-- A call that is cut off has done nothing by the demand that takes too long. -/
theorem outcome_late {d : Demand} {next : d.Answer → Call α} (h : ¬ s.delay d ≤ left) :
    (Call.ask d next).outcome left s = (.error .deadlineExceeded, s.store, []) := by
  rw [outcome, run_late h, told, if_neg h]

theorem outcome_ask {d : Demand} {next : d.Answer → Call α} (h : s.delay d ≤ left)
    (hd : d.tells = false) : (Call.ask d next).outcome left s =
      (next (s.answer d).1).outcome (left - s.delay d) (s.answer d).2 := by
  rw [outcome, run_ask h, told, if_pos h, hd]
  rfl

theorem outcome_tell {d : Demand} {next : d.Answer → Call α} (hd : d.tells = true) :
    (Call.ask d next).outcome left s =
      (((next (s.answer d).1).outcome left (s.answer d).2).1,
        ((next (s.answer d).1).outcome left (s.answer d).2).2.1,
        d :: ((next (s.answer d).1).outcome left (s.answer d).2).2.2) := by
  have hdelay : s.delay d = 0 := by cases d <;> first | rfl | cases hd
  rw [outcome, run_ask (by omega), told, if_pos (by omega), hd, hdelay, Nat.sub_zero]
  rfl

/-- What cannot end well fails, and leaves no trace. -/
theorem Fails.outcome {c : Call α} (h : c.Fails) (left : Nat) (s : Session) :
    ∃ fault, c.outcome left s = (.error fault, s.store, []) := by
  unfold Fails at h
  induction h generalizing left s with
  | done h =>
    obtain ⟨fault, rfl⟩ := h
    exact ⟨fault, rfl⟩
  | @ask d next silent _ ih =>
    by_cases hdelay : s.delay d ≤ left
    · obtain ⟨failures, hafter⟩ := s.answer_silent silent
      rw [outcome_ask hdelay silent.tells]
      rw [show s.store = (s.answer d).2.store by rw [hafter]]
      exact ih ..
    · exact ⟨_, outcome_late hdelay⟩

/-- From the write on nothing can fail: neither can what is told, and nothing cuts the call off. -/
theorem Reports.outcome {c : Call α} {ds : List Demand} (h : c.Reports ds) (left : Nat)
    (s : Session) : ∃ a, c.outcome left s = (.ok a, s.store, ds) := by
  induction h generalizing left s with
  | done a => exact ⟨a, rfl⟩
  | @tell d ds next tells _ ih =>
    obtain ⟨a, ha⟩ := ih (s.answer d).1 left (s.answer d).2
    exact ⟨a, by rw [outcome_tell tells, ha, s.answer_tells_store tells]⟩

/-- A call that comes to its write fails without a trace, or reports what it has written. -/
theorem Revises.outcome {c : Call α} {entity : Entity} {id : Uuid} {guard : Predicate}
    {report : Record → List Demand} (h : c.Revises entity id guard report) (left : Nat)
    {s : Session} (hi : s.interferences = []) :
    (∃ fault, c.outcome left s = (.error fault, s.store, [])) ∨
      ∃ a r, c.outcome left s = (.ok a, ⟨s.store.records.insert id r⟩, report r) := by
  induction h generalizing left s with
  | failed fault => exact .inl ⟨fault, rfl⟩
  | @count d next counts _ ih =>
    obtain ⟨failures, hafter⟩ := s.answer_silent counts.silent
    by_cases hdelay : s.delay d ≤ left
    · rw [outcome_ask hdelay counts.silent.tells]
      rw [show s.store = (s.answer d).2.store by rw [hafter]]
      exact ih _ _ (by rw [hafter]; exact hi)
    · exact .inl ⟨_, outcome_late hdelay⟩
  | @write w actor next written missed error =>
    rw [outcome_ask (Nat.zero_le _) rfl]
    rcases s.answer_write hi entity id guard w actor with ⟨r, hr, hstore⟩ | ⟨hr, hstore⟩
    · obtain ⟨a, ha⟩ := (written r).outcome (left - 0) (s.answer (.write entity id guard w actor)).2
      rw [hstore] at ha
      rw [hr]
      exact .inr ⟨a, r, ha⟩
    · refine .inl ?_
      rw [← hstore]
      rcases hr with hr | ⟨e, hr⟩
      · rw [hr]
        exact missed.outcome ..
      · rw [hr]
        exact (error e).outcome ..

end Call

/-! ## Requests -/

namespace ServiceRequest

/-- What a request that ends well does to a store, and what it tells: reading does nothing and tells
nothing, a creation puts a record under a free identifier and tells of it, and a change tells the
difference between the record that was stored and the one that now is. -/
inductive Leaves (q : ServiceRequest) (entity : Entity) (store : Store) : Store → List Demand → Prop
  | read (reads : q.operation.effect = .reads) : Leaves q entity store store []
  | created {r : Record} (creates : q.operation.effect = .creates)
      (free : store.find? r.id = none) :
      Leaves q entity store (store.put r) (q.creationReport entity r)
  | changed {id : Uuid} {before after : Record} (changes : q.operation.effect = .changes)
      (found : store.find? id = some before) :
      Leaves q entity store ⟨store.records.insert id after⟩ (q.changeReport entity id before after)

variable {α : Type} {q : ServiceRequest} {entity : Entity}

theorem Owes.outcome {c : Call α} (h : q.Owes entity c) (left : Nat) {s : Session}
    (hi : s.interferences = []) (hkeyed : s.store.Keyed) :
    (∃ fault, c.outcome left s = (.error fault, s.store, [])) ∨
      ∃ a after told, c.outcome left s = (.ok a, after, told) ∧
        q.Leaves entity s.store after told := by
  induction h generalizing left s with
  | failed fault => exact .inl ⟨fault, rfl⟩
  | served reads a => exact .inr ⟨a, _, _, rfl, .read reads⟩
  | @ask d next silent _ ih =>
    obtain ⟨failures, hafter⟩ := s.answer_silent silent
    by_cases hdelay : s.delay d ≤ left
    · rw [Call.outcome_ask hdelay silent.tells]
      rw [show s.store = (s.answer d).2.store by rw [hafter]]
      exact ih _ _ (by rw [hafter]; exact hi) (by rw [hafter]; exact hkeyed)
    · exact .inl ⟨_, Call.outcome_late hdelay⟩
  | @create draft next creates created error =>
    rw [Call.outcome_ask (Nat.zero_le _) rfl]
    rcases s.answer_create entity draft with ⟨r, hfree, hr, hstore⟩ | ⟨e, hr, hstore⟩
    · obtain ⟨a, ha⟩ := (created r).outcome (left - 0) (s.answer (.create entity draft)).2
      rw [hstore] at ha
      rw [hr]
      exact .inr ⟨a, _, _, ha, .created creates hfree⟩
    · rw [hr, ← hstore]
      exact .inl ((error e).outcome ..)
  | @read id forced next changes found missing error =>
    obtain ⟨failures, hafter⟩ := s.answer_silent (d := .fetch entity
      (Service.reachable q.ctx entity q.operation.onDeleted id forced)) trivial
    have hstore : s.store = (s.answer (.fetch entity
      (Service.reachable q.ctx entity q.operation.onDeleted id forced))).2.store := by rw [hafter]
    rw [Call.outcome_ask (Nat.zero_le _) rfl]
    rcases s.answer_fetch entity (Service.reachable q.ctx entity q.operation.onDeleted id forced)
      with hr | hr
    · rw [hr, hstore]
      exact .inl ((error _).outcome ..)
    · rw [hr]
      cases hget : s.store.get entity
          (Service.reachable q.ctx entity q.operation.onDeleted id forced) with
      | none =>
        rw [hstore]
        exact .inl (missing.outcome ..)
      | some copy =>
        rcases (found copy).outcome (left - 0) (s := (s.answer _).2) (by rw [hafter]; exact hi)
          with ⟨fault, h⟩ | ⟨a, r, h⟩
        · rw [hstore]
          exact .inl ⟨fault, h⟩
        · have hfound := hget.symm.trans (hkeyed.find?_reachable s.surroundings q.ctx entity
            q.operation.onDeleted id forced)
          rw [eq_comm, Option.filter_eq_some_iff] at hfound
          rw [← hstore] at h
          exact .inr ⟨a, _, _, h, .changed changes hfound.1⟩

end ServiceRequest

/-! ## A task -/

namespace Sample

/-- A session that knows who is on the staff. -/
def session : Session where
  roster := .ok ((Roster.ofRoles staff.roles).assign "acme" "ann" "staff")
  notifications := some (.ofCapacity 1)
  idOf _ := .nil
  timeOf _ := .epoch

/-- A service in which every new task is reviewed. -/
def reviewing : Service :=
  { service with workflows := .ofEntities ((∅ : Dict String String).insert task.name "review") }

/-- A service in which nobody can say whether a new task is to be reviewed. -/
def undecided : Service := { service with workflows := ⟨fun _ _ _ => .error (.audit "offline")⟩ }

end Sample

end Dossier
