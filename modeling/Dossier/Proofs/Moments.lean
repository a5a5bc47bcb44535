import Dossier.Proofs.Interleaving
import Dossier.Proofs.Report

/-!
# What has become of a call

In a world of interleaving calls the demands of one call are answered at different moments, each with
the store as it is then. What is left of a call is the whole call, gone through with the answers of its
moments (`Call.resume`), so what the world has shown to a call that has ended can be read off the text
of its operation, in the same way as for a call that is served without interruption.

**One call.** `exists_resume_of_bind` splits the moments of a call that has ended well between its
parts; `Call.AsksAt` names the moment at which a demand was answered.

**In a run** (`World.moments`), each moment of a call is a step of the run (`exists_step_of_mem`,
`exists_step_of_asksAt`).
-/

namespace Dossier

/-- The surroundings and the store that a demand is answered by. -/
structure Moment where
  e : Surroundings
  store : Store

def Moment.answer (m : Moment) (d : Demand) : d.Answer := (m.e.answer m.store d).1

/-! ## One call -/

namespace Call

variable {α β : Type} {c : Call α} {f : α → Call β} {ms : List Moment} {m : Moment} {d : Demand}

/-- What is left of a call after some moments. -/
def resume : Call α → List Moment → Call α
  | c, [] => c
  | .done result, _ :: _ => .done result
  | .ask d next, m :: ms => (next (m.answer d)).resume ms

@[simp] theorem resume_nil (c : Call α) : c.resume [] = c := by cases c <;> rfl

@[simp] theorem resume_done (result : Except Fault α) (ms : List Moment) :
    (Call.done result).resume ms = .done result := by cases ms <;> rfl

theorem resume_append (c : Call α) (ms later : List Moment) :
    c.resume (ms ++ later) = (c.resume ms).resume later := by
  induction ms generalizing c with
  | nil => rw [resume_nil, List.nil_append]
  | cons m ms ih =>
    cases c with
    | done result => simp
    | ask d next => exact ih _

/-- A call that has ended well has gone through its first part, and the second begins where this has
ended. -/
theorem exists_resume_of_bind {b : β} (h : (c >>= f).resume ms = .done (.ok b)) :
    ∃ earlier later a, ms = earlier ++ later ∧ c.resume earlier = .done (.ok a) ∧
      (f a).resume later = .done (.ok b) := by
  induction ms generalizing c with
  | nil =>
    cases c with
    | done result =>
      cases result with
      | ok a => exact ⟨[], [], a, rfl, rfl, h⟩
      | error fault => cases h
    | ask d next => cases h
  | cons m ms ih =>
    cases c with
    | done result =>
      cases result with
      | ok a => exact ⟨[], m :: ms, a, rfl, rfl, h⟩
      | error fault => cases h
    | ask d next =>
      obtain ⟨earlier, later, a, rfl, hearlier, hlater⟩ := ih h
      exact ⟨m :: earlier, later, a, rfl, hearlier, hlater⟩

/-- A computation between two demands, in a call that has ended well. -/
theorem exists_ok_of_resume_bind {result : Except Fault α} {b : β}
    (h : (Call.done result >>= f).resume ms = .done (.ok b)) :
    ∃ a, result = .ok a ∧ (f a).resume ms = .done (.ok b) := by
  cases result with
  | ok a => exact ⟨a, rfl, h⟩
  | error fault =>
    have hfault : (Call.done (.error fault) : Call β).resume ms = .done (.ok b) := h
    rw [resume_done] at hfault
    cases hfault

theorem Obeys.resume {P : Demand → Prop} {Q : Except Fault α → Prop} (h : c.Obeys P Q)
    (ms : List Moment) : (c.resume ms).Obeys P Q := by
  induction ms generalizing c with
  | nil => rwa [resume_nil]
  | cons m ms ih =>
    cases h with
    | done h => exact .done h
    | ask _ rest => exact ih (rest _)

/-- On its way through some moments, a call makes a demand that is answered at one of them. -/
inductive AsksAt (d : Demand) (m : Moment) : Call α → List Moment → Prop
  | here {next : d.Answer → Call α} (later : List Moment) : AsksAt d m (.ask d next) (m :: later)
  | later {d' : Demand} {next : d'.Answer → Call α} {m' : Moment} {ms : List Moment}
      (h : AsksAt d m (next (m'.answer d')) ms) : AsksAt d m (.ask d' next) (m' :: ms)

/-- What was left of the call just before. -/
theorem AsksAt.exists_resume (h : c.AsksAt d m ms) : ∃ earlier later next,
    ms = earlier ++ m :: later ∧ c.resume earlier = .ask d next := by
  induction h with
  | @here next later => exact ⟨[], later, next, rfl, rfl⟩
  | @later d' next m' ms _ ih =>
    obtain ⟨earlier, later, next, rfl, hearlier⟩ := ih
    exact ⟨m' :: earlier, later, next, rfl, hearlier⟩

theorem Fails.resume_ne {a : α} (h : c.Fails) : c.resume ms ≠ .done (.ok a) := by
  intro hdone
  have hfails := Obeys.resume h ms
  rw [hdone] at hfails
  obtain ⟨fault, hfault⟩ := hfails.result
  cases hfault

theorem Reports.resume {ds : List Demand} (h : c.Reports ds) (ms : List Moment) :
    ∃ ds, (c.resume ms).Reports ds := by
  induction ms generalizing c ds with
  | nil => exact ⟨ds, by rwa [resume_nil]⟩
  | cons m ms ih =>
    cases h with
    | done a => exact ⟨[], .done a⟩
    | tell _ rest => exact ih (rest _)

/-- A call that was to write and has ended well has written to a record. -/
theorem Revises.exists_write {entity : Entity} {id : Uuid} {guard : Predicate}
    {report : Record → List Demand} {a : α} (h : c.Revises entity id guard report)
    (hdone : c.resume ms = .done (.ok a)) :
    ∃ w actor m r, c.AsksAt (.write entity id guard w actor) m ms ∧
      m.answer (.write entity id guard w actor) = .ok (some r) := by
  induction ms generalizing c with
  | nil =>
    rw [resume_nil] at hdone
    subst hdone
    cases h
  | cons m ms ih =>
    cases h with
    | failed fault => cases hdone
    | count _ rest =>
      obtain ⟨w, actor, m', r, hasks, hanswer⟩ := ih (rest _) hdone
      exact ⟨w, actor, m', r, .later hasks, hanswer⟩
    | @write w actor next written missed error =>
      cases hanswer : m.answer (.write entity id guard w actor) with
      | error failure =>
        rw [resume, hanswer] at hdone
        exact absurd hdone (error failure).resume_ne
      | ok found =>
        cases found with
        | none =>
          rw [resume, hanswer] at hdone
          exact absurd hdone missed.resume_ne
        | some r => exact ⟨w, actor, m, r, .here ms, hanswer⟩

end Call

namespace ServiceRequest

variable {α : Type} {q : ServiceRequest} {entity : Entity} {c : Call α} {ms : List Moment}

/-- A call that was to create a record has yet to do it, or has done it, or will not. -/
theorem Owes.resume (h : q.Owes entity c) (hcreates : q.operation.effect = .creates)
    (ms : List Moment) :
    q.Owes entity (c.resume ms) ∨ (∃ ds, (c.resume ms).Reports ds) ∨ (c.resume ms).Fails := by
  induction ms generalizing c with
  | nil => exact .inl (by rwa [Call.resume_nil])
  | cons m ms ih =>
    cases h with
    | failed fault => exact .inl (.failed fault)
    | served reads a => exact .inl (.served reads a)
    | ask _ rest => exact ih (rest _)
    | @create draft next _ created error =>
      rw [Call.resume]
      cases m.answer (.create entity draft) with
      | ok r => exact .inr (.inl ((created r).resume ms))
      | error failure => exact .inr (.inr ((error failure).resume ms))
    | read changes =>
      rw [changes] at hcreates
      cases hcreates

/-- A creation that has ended well was granted a record. -/
theorem Owes.exists_create {a : α} (h : q.Owes entity c) (hcreates : q.operation.effect = .creates)
    (hdone : c.resume ms = .done (.ok a)) :
    ∃ draft m r, c.AsksAt (.create entity draft) m ms ∧ m.answer (.create entity draft) = .ok r := by
  induction ms generalizing c with
  | nil =>
    rw [Call.resume_nil] at hdone
    subst hdone
    cases h with
    | served reads =>
      rw [reads] at hcreates
      cases hcreates
  | cons m ms ih =>
    cases h with
    | failed fault => cases hdone
    | served reads =>
      rw [reads] at hcreates
      cases hcreates
    | ask _ rest =>
      obtain ⟨draft, m', r, hasks, hanswer⟩ := ih (rest _) hdone
      exact ⟨draft, m', r, .later hasks, hanswer⟩
    | @create draft next _ created error =>
      cases hanswer : m.answer (.create entity draft) with
      | ok r => exact ⟨draft, m, r, .here ms, hanswer⟩
      | error failure =>
        rw [Call.resume, hanswer] at hdone
        exact absurd hdone (error failure).resume_ne
    | read changes =>
      rw [changes] at hcreates
      cases hcreates

/-- A change that has ended well was made, under the guard of the request. -/
theorem Owes.exists_write {a : α} (h : q.Owes entity c) (hchanges : q.operation.effect = .changes)
    (hdone : c.resume ms = .done (.ok a)) :
    ∃ id forced w actor m r, c.AsksAt (.write entity id (q.guard entity id forced) w actor) m ms ∧
      m.answer (.write entity id (q.guard entity id forced) w actor) = .ok (some r) := by
  induction ms generalizing c with
  | nil =>
    rw [Call.resume_nil] at hdone
    subst hdone
    cases h with
    | served reads =>
      rw [reads] at hchanges
      cases hchanges
  | cons m ms ih =>
    cases h with
    | failed fault => cases hdone
    | served reads =>
      rw [reads] at hchanges
      cases hchanges
    | ask _ rest =>
      obtain ⟨id, forced, w, actor, m', r, hasks, hanswer⟩ := ih (rest _) hdone
      exact ⟨id, forced, w, actor, m', r, .later hasks, hanswer⟩
    | create creates =>
      rw [creates] at hchanges
      cases hchanges
    | @read id forced next _ found missing error =>
      cases hfound : m.answer (.fetch entity
          (Service.reachable q.ctx entity q.operation.onDeleted id forced)) with
      | error failure =>
        rw [Call.resume, hfound] at hdone
        exact absurd hdone (error failure).resume_ne
      | ok copy =>
        rw [Call.resume, hfound] at hdone
        cases copy with
        | none => exact absurd hdone missing.resume_ne
        | some copy =>
          obtain ⟨w, actor, m', r, hasks, hanswer⟩ := (found copy).exists_write hdone
          refine ⟨id, forced, w, actor, m', r, .later ?_, hanswer⟩
          rwa [hfound]

end ServiceRequest

/-! ## Calls in a run -/

namespace World

variable {s : Service} {w : World} {i : Nat} {c : Progress} {d : Demand} {m : Moment}

/-- The moment of a call, by its place, that a step makes. -/
def moment? (w : World) (i : Nat) : Event → Option Moment
  | .proceed j e => if j = i ∧ i < w.calls.length then some ⟨e, w.store⟩ else none
  | _ => none

/-- The moments of a call in a run. -/
def moments (s : Service) (i : Nat) : World → List Event → List Moment
  | _, [] => []
  | w, event :: rest => (w.moment? i event).toList ++ moments s i (w.step s event) rest

theorem run_append (w : World) (earlier later : List Event) :
    w.run s (earlier ++ later) = (w.run s earlier).run s later := List.foldl_append ..

theorem run_singleton (w : World) (event : Event) : w.run s [event] = w.step s event := rfl

/-- **Each moment of a call is a step of the run.** -/
theorem exists_step_of_eq {events : List Event} {earlier later : List Moment}
    (h : w.moments s i events = earlier ++ m :: later) :
    ∃ pre e post, events = pre ++ .proceed i e :: post ∧ m = ⟨e, (w.run s pre).store⟩ ∧
      w.moments s i pre = earlier ∧ i < (w.run s pre).calls.length := by
  induction events generalizing w earlier with
  | nil => simp [moments] at h
  | cons event rest ih =>
    rw [moments] at h
    cases hm : w.moment? i event with
    | none =>
      rw [hm] at h
      obtain ⟨pre, e, post, rfl, rfl, hearlier, hi⟩ := ih h
      exact ⟨event :: pre, e, post, rfl, rfl, by rw [moments, hm, hearlier]; rfl, hi⟩
    | some m' =>
      rw [hm] at h
      cases earlier with
      | nil =>
        obtain ⟨rfl, -⟩ := List.cons.inj h
        cases event with
        | proceed j e =>
          by_cases hcall : j = i ∧ i < w.calls.length
          · obtain ⟨rfl, hi⟩ := hcall
            rw [moment?, if_pos ⟨rfl, hi⟩] at hm
            cases hm
            exact ⟨[], e, rest, rfl, rfl, rfl, hi⟩
          · rw [moment?, if_neg hcall] at hm
            cases hm
        | arrive q => cases hm
        | approval entity id state => cases hm
      | cons m'' earlier =>
        obtain ⟨rfl, hrest⟩ := List.cons.inj h
        obtain ⟨pre, e, post, rfl, hm', hearlier, hi⟩ := ih hrest
        exact ⟨event :: pre, e, post, rfl, hm', by rw [moments, hm, hearlier]; rfl, hi⟩

theorem exists_step_of_mem {events : List Event} (h : m ∈ w.moments s i events) :
    ∃ pre e post, events = pre ++ .proceed i e :: post ∧ m = ⟨e, (w.run s pre).store⟩ := by
  obtain ⟨earlier, later, hms⟩ := List.append_of_mem h
  obtain ⟨pre, e, post, hevents, hm, -, -⟩ := exists_step_of_eq hms
  exact ⟨pre, e, post, hevents, hm⟩

/-- A step takes a call through the moment that it makes. -/
theorem exists_call_step (hc : w.calls[i]? = some c) (event : Event) :
    ∃ c', (w.step s event).calls[i]? = some c' ∧ c'.request = c.request ∧
      c'.rest = c.rest.resume (w.moment? i event).toList := by
  have hi : i < w.calls.length := (List.getElem?_eq_some_iff.1 hc).1
  cases event with
  | arrive q =>
    refine ⟨c, ?_, rfl, (Call.resume_nil _).symm⟩
    rw [step, List.getElem?_append_left hi, hc]
  | approval entity id state => exact ⟨c, hc, rfl, (Call.resume_nil _).symm⟩
  | proceed j e =>
    by_cases hj : j = i
    · subst hj
      refine ⟨(c.proceed e w.store).1, ?_, ?_⟩
      · rw [step, proceed, hc]
        exact List.getElem?_set_self hi
      · rw [moment?, if_pos ⟨rfl, hi⟩]
        unfold Progress.proceed
        cases hrest : c.rest with
        | done result => exact ⟨rfl, hrest⟩
        | ask d next => exact ⟨rfl, (Call.resume_nil _).symm⟩
    · refine ⟨c, ?_, rfl, ?_⟩
      · cases hother : w.calls[j]? with
        | none => simpa [step, proceed, hother] using hc
        | some other => simpa [step, proceed, hother, List.getElem?_set_ne hj] using hc
      · simp [moment?, hj]

/-- A call that has not arrived is answered at no moment, and is whole when it arrives. -/
theorem call_arrives (hnone : w.calls[i]? = none) (event : Event) : w.moment? i event = none ∧
    ∀ c, (w.step s event).calls[i]? = some c → c.rest = c.request.call s := by
  have hi : w.calls.length ≤ i := List.getElem?_eq_none_iff.1 hnone
  cases event with
  | arrive q =>
    refine ⟨rfl, fun c hc => ?_⟩
    rw [step, List.getElem?_append_right hi, List.getElem?_singleton] at hc
    split at hc
    · cases hc
      rfl
    · cases hc
  | approval entity id state =>
    refine ⟨rfl, fun c hc => ?_⟩
    cases hnone.symm.trans hc
  | proceed j e =>
    refine ⟨by simp [moment?, hi], fun c hc => ?_⟩
    have hlt := (List.getElem?_eq_some_iff.1 hc).1
    have hlength : (w.step s (.proceed j e)).calls.length = w.calls.length := by
      show (w.proceed j e).calls.length = _
      unfold proceed
      split <;> simp
    omega

/-- What is left of a call is the call of its request, gone through with its moments. -/
structure Resumes (s : Service) (w : World) (i : Nat) (ms : List Moment) : Prop where
  rest : ∀ c, w.calls[i]? = some c → c.rest = (c.request.call s).resume ms
  absent : w.calls[i]? = none → ms = []

theorem resumes_quiet (store : Store) (i : Nat) : (quiet store).Resumes s i [] where
  rest _ h := nomatch h
  absent _ := rfl

theorem Resumes.step {ms : List Moment} (h : w.Resumes s i ms) (event : Event) :
    (w.step s event).Resumes s i (ms ++ (w.moment? i event).toList) := by
  cases hi : w.calls[i]? with
  | none =>
    obtain ⟨hmoment, harrives⟩ := call_arrives (s := s) hi event
    rw [h.absent hi, hmoment]
    exact ⟨fun c hc => (harrives c hc).trans (Call.resume_nil _).symm, fun _ => rfl⟩
  | some c =>
    obtain ⟨c', hc', hrequest, hrest⟩ := exists_call_step (s := s) hi event
    refine ⟨fun c'' hc'' => ?_, fun hnone => nomatch hc'.symm.trans hnone⟩
    obtain rfl : c' = c'' := Option.some.inj (hc'.symm.trans hc'')
    rw [hrest, hrequest, h.rest c hi, Call.resume_append]

/-- **What is left of a call in a run.** -/
theorem Resumes.run {ms : List Moment} (h : w.Resumes s i ms) (events : List Event) :
    (w.run s events).Resumes s i (ms ++ w.moments s i events) := by
  induction events generalizing w ms with
  | nil => rwa [moments, List.append_nil]
  | cons event rest ih =>
    rw [moments, ← List.append_assoc]
    exact ih (h.step event)

theorem rest_eq_resume {store : Store} {events : List Event}
    (hc : ((quiet store).run s events).calls[i]? = some c) :
    c.rest = (c.request.call s).resume ((quiet store).moments s i events) :=
  ((resumes_quiet store i).run events).rest c hc

/-- A call stays the call of its request. -/
theorem exists_call_run (hc : w.calls[i]? = some c) (events : List Event) :
    ∃ c', (w.run s events).calls[i]? = some c' ∧ c'.request = c.request := by
  induction events generalizing w c with
  | nil => exact ⟨c, hc, rfl⟩
  | cons event rest ih =>
    obtain ⟨c', hc', hrequest, -⟩ := exists_call_step (s := s) hc event
    obtain ⟨c'', hc'', hrequest'⟩ := ih hc'
    exact ⟨c'', hc'', hrequest'.trans hrequest⟩

/-- **A demand of a call in a run was answered at a step of the run.** -/
theorem exists_step_of_asksAt {store : Store} {events : List Event}
    (hc : ((quiet store).run s events).calls[i]? = some c)
    (hasks : (c.request.call s).AsksAt d m ((quiet store).moments s i events)) :
    ∃ pre e post c' next, events = pre ++ .proceed i e :: post ∧
      m = ⟨e, ((quiet store).run s pre).store⟩ ∧
      ((quiet store).run s pre).calls[i]? = some c' ∧ c'.request = c.request ∧
      c'.rest = .ask d next := by
  obtain ⟨earlier, later, next, hms, hnext⟩ := hasks.exists_resume
  obtain ⟨pre, e, post, rfl, hm, hearlier, hi⟩ := exists_step_of_eq hms
  obtain ⟨c', hc'⟩ : ∃ c', ((quiet store).run s pre).calls[i]? = some c' :=
    ⟨_, List.getElem?_eq_getElem hi⟩
  obtain ⟨c'', hc'', hrequest⟩ := exists_call_run (s := s) hc' (.proceed i e :: post)
  rw [← run_append] at hc''
  obtain rfl : c = c'' := Option.some.inj (hc.symm.trans hc'')
  refine ⟨pre, e, post, c', next, rfl, hm, hc', hrequest.symm, ?_⟩
  rw [rest_eq_resume hc', hearlier, ← hrequest, hnext]

end World

end Dossier
