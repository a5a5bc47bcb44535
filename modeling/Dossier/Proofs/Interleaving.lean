import Dossier.Proofs.Demands
import Dossier.Proofs.Predicate
import Dossier.Proofs.Schema
import Dossier.Proofs.Surroundings

/-!
# Calls that interleave

Many calls run over one store at the same time. Each goes on by one demand at a time, and between
two demands of a call anything may happen: other calls go on, and workflows move records on.

**The state** (`World`). The store, and what is left of each call (`Progress`).

**Steps** (`Event`). A request arrives; a call gets the answer to its next demand; a workflow puts
a record into a state of approval.

**The invariant** (`Progress.Sound`). A call has yet to enter, or it was granted some access and
from now on makes only the demands of its request.

**Effects** (`Makes.answer_store`). What the answer to a call does to the store: nothing, a new
record under a free identifier, or a write to a record that meets the guard at that moment.

**Sessions**, in which calls run one after the other, are runs of this kind (`World.exists_run`).
The small service at the end (`Sample`) shows for later results that what they ask for can be had.
-/

namespace Dossier

/-! ## Worlds -/

structure Progress where
  request : ServiceRequest
  /-- The access that the call was granted, once it has asked for it. -/
  granted : Option Access
  rest : Call ServiceReply

structure World where
  store : Store
  calls : List Progress

inductive Event where
  | arrive (q : ServiceRequest)
  /-- A call, by its place, gets an answer. -/
  | proceed (call : Nat) (e : Surroundings)
  | approval (entity : Entity) (id : Uuid) (state : Option Approval)

/-- The access that an answer grants. -/
def Demand.granted? : (d : Demand) → d.Answer → Option Access
  | .access _, .ok given => some given
  | _, _ => none

namespace Progress

def start (s : Service) (q : ServiceRequest) : Progress := ⟨q, none, q.call s⟩

/-- A call after the answer to its next demand, and the store after it. -/
def proceed (c : Progress) (e : Surroundings) (store : Store) : Progress × Store :=
  match c.rest with
  | .done _ => (c, store)
  | .ask d next =>
    let answered := e.answer store d
    (⟨c.request, (d.granted? answered.1).or c.granted, next answered.1⟩, answered.2)

end Progress

namespace World

/-- A world after one of its calls has got an answer. -/
def proceed (w : World) (i : Nat) (e : Surroundings) : World :=
  match w.calls[i]? with
  | some c => ⟨(c.proceed e w.store).2, w.calls.set i (c.proceed e w.store).1⟩
  | none => w

def step (s : Service) (w : World) : Event → World
  | .arrive q => { w with calls := w.calls ++ [Progress.start s q] }
  | .proceed i e => w.proceed i e
  | .approval entity id state => { w with store := (w.store.setApproval entity id state).2 }

def run (s : Service) (w : World) (events : List Event) : World := events.foldl (step s) w

/-- A store that no call is under way over. -/
def quiet (store : Store) : World := ⟨store, []⟩

end World

/-! ## The invariant -/

/-- No request asks for access a second time. -/
theorem ServiceRequest.Makes.granted?_eq_none {s : Service} {q : ServiceRequest} {entity : Entity}
    {access : Access} {d : Demand} (h : q.Makes s entity access d) (answer : d.Answer) :
    d.granted? answer = none := by
  cases h <;> rfl

namespace Progress

/-- A call that has yet to enter, or makes only the demands of its request. -/
inductive Sound (s : Service) : Progress → Prop
  | outside {q : ServiceRequest} {rest : Call ServiceReply}
      (h : rest.Enters q.ctx.toCaller (q.Proceeds s)) :
      Sound s ⟨q, none, rest⟩
  | inside {q : ServiceRequest} {access : Access} {rest : Call ServiceReply}
      (h : q.Proceeds s access rest) :
      Sound s ⟨q, some access, rest⟩

variable {s : Service} {c : Progress}

theorem sound_start (s : Service) (q : ServiceRequest) : (start s q).Sound s :=
  .outside (q.call_enters s)

/-- The next demand of a call: the access of its caller, or one of its request under the access
granted. -/
theorem Sound.demand (h : c.Sound s) {d : Demand} {next : d.Answer → Call ServiceReply}
    (hrest : c.rest = .ask d next) :
    d = .access c.request.ctx.toCaller ∨ ∃ access entity, c.granted = some access ∧
      s.schema.find c.request.entity = .ok entity ∧ c.request.Makes s entity access d := by
  cases h with
  | outside h =>
    dsimp only at hrest
    rw [hrest] at h
    exact Or.inl h.demand
  | @inside q access rest h =>
    dsimp only at hrest
    rw [hrest] at h
    obtain ⟨entity, hfind, hobeys⟩ := h
    exact Or.inr ⟨access, entity, rfl, hfind, hobeys.demand⟩

/-- A call that is answered stays sound: the access that it gets is the one it goes on with. -/
theorem Sound.proceed (h : c.Sound s) (e : Surroundings) (store : Store) :
    (c.proceed e store).1.Sound s := by
  cases h with
  | @outside q rest h =>
    cases h with
    | refused fault => exact .outside (.refused fault)
    | @asks next ok error =>
      show Sound s ⟨q, (Demand.granted? (.access _) (e.access _)).or none, next (e.access _)⟩
      cases e.access q.ctx.toCaller with
      | ok access => exact .inside (ok access)
      | error fault =>
        rw [error]
        exact .outside (.refused fault)
  | @inside q access rest h =>
    cases rest with
    | done result => exact .inside h
    | ask d next =>
      obtain ⟨entity, hfind, hobeys⟩ := h
      have hgranted : d.granted? (e.answer store d).1 = none := hobeys.demand.granted?_eq_none _
      show Sound s ⟨q, (d.granted? (e.answer store d).1).or (some access),
        next (e.answer store d).1⟩
      rw [hgranted]
      exact .inside ⟨entity, hfind, hobeys.next _⟩

end Progress

namespace World

variable {s : Service} {w : World}

/-- Every call under way is sound. -/
def Sound (s : Service) (w : World) : Prop := ∀ c ∈ w.calls, c.Sound s

theorem sound_quiet (store : Store) : (quiet store).Sound s := fun _ hc => nomatch hc

theorem Sound.step (h : w.Sound s) (event : Event) : (w.step s event).Sound s := by
  cases event with
  | arrive q =>
    intro c hc
    rcases List.mem_append.1 hc with hc | hc
    · exact h c hc
    · rw [List.mem_singleton.1 hc]
      exact Progress.sound_start s q
  | proceed i e =>
    show (w.proceed i e).Sound s
    unfold World.proceed
    split
    · rename_i c hi
      intro c' hc'
      rcases List.mem_or_eq_of_mem_set hc' with hc' | rfl
      · exact h c' hc'
      · exact (h c (List.mem_of_getElem? hi)).proceed e w.store
    · exact h
  | approval entity id state => exact h

theorem Sound.run (h : w.Sound s) (events : List Event) : (w.run s events).Sound s := by
  induction events generalizing w with
  | nil => exact h
  | cons event rest ih => exact ih (h.step event)

/-- What every step of a sound world keeps, a run of it keeps. -/
theorem Sound.run_keeps {P : World → Prop} (h : w.Sound s) (hw : P w)
    (hstep : ∀ w : World, w.Sound s → P w → ∀ event, P (w.step s event)) (events : List Event) :
    P (w.run s events) := by
  induction events generalizing w with
  | nil => exact hw
  | cons event rest ih => exact ih (h.step event) (hstep w h hw event)

end World

/-! ## What a step does to the store -/

inductive ServiceRequest.Changes (s : Service) (q : ServiceRequest) (access : Access)
    (e : Surroundings) (store : Store) : Store → Prop
  | create {entity : Entity} {draft : Draft} (find : s.schema.find q.entity = .ok entity)
      (makes : q.Makes s entity access (.create entity draft)) (free : store.find? e.newId = none) :
      Changes s q access e store (store.put (draft.record e.newId e.time))
  | write {entity : Entity} {id : Uuid} {guard : Predicate} {wr : Write} {actor : String}
      {before : Record} (find : s.schema.find q.entity = .ok entity)
      (makes : q.Makes s entity access (.write entity id guard wr actor))
      (found : store.find? id = some before) (holds : Store.concerns entity guard before = true) :
      Changes s q access e store ⟨store.records.insert id (wr.apply ⟨actor, e.time⟩ before)⟩

/-- **What the answer to a demand of a request does to the store**: nothing, or a change of the
request. -/
theorem ServiceRequest.Makes.answer_store {s : Service} {q : ServiceRequest} {entity : Entity}
    {access : Access} {d : Demand} (h : q.Makes s entity access d)
    (hfind : s.schema.find q.entity = .ok entity) (e : Surroundings) (store : Store) :
    (e.answer store d).2 = store ∨ q.Changes s access e store (e.answer store d).2 := by
  rcases e.answer_store store d with hsame | ⟨entity', draft, rfl, hfree, hput⟩ |
    ⟨entity', id, guard, wr, actor, before, rfl, hfound, hguard, hwritten⟩
  · exact Or.inl hsame
  · rw [hput]
    have hentity : entity' = entity := by cases h; rfl
    subst hentity
    exact Or.inr (.create hfind h hfree)
  · rw [hwritten]
    have hentity : entity' = entity := by cases h; rfl
    subst hentity
    exact Or.inr (.write hfind h hfound hguard)

/-- What an answer to a call does to the store: nothing, or a change that its request makes. -/
theorem Progress.Sound.proceed_store {s : Service} {c : Progress} (h : c.Sound s) (e : Surroundings)
    (store : Store) : (c.proceed e store).2 = store ∨
      ∃ access, c.granted = some access ∧
        c.request.Changes s access e store (c.proceed e store).2 := by
  cases hrest : c.rest with
  | done result => exact Or.inl (by simp [Progress.proceed, hrest])
  | ask d next =>
    have hafter : (c.proceed e store).2 = (e.answer store d).2 := by simp [Progress.proceed, hrest]
    rw [hafter]
    rcases h.demand hrest with rfl | ⟨access, entity, hgranted, hfind, hmakes⟩
    · exact Or.inl rfl
    · rcases hmakes.answer_store hfind e store with hsame | hchanges
      · exact Or.inl hsame
      · exact Or.inr ⟨access, hgranted, hchanges⟩

/-! ## Sessions -/

namespace World

/-- What is left of a call under way goes on in a world as it does in a session. -/
theorem exists_run_rest (s : Service) (rest : Call ServiceReply) (left : Nat) {session : Session}
    (hf : session.failures = []) (hi : session.interferences = []) {w : World} {i : Nat}
    {c : Progress}
    (hc : w.calls[i]? = some c) (hrest : c.rest = rest) (hstore : w.store = session.store) :
    ∃ events, (w.run s events).store = (rest.run left session).2.store := by
  induction rest generalizing left session w c with
  | done result => exact ⟨[], hstore⟩
  | ask d next ih =>
    rw [Call.run]
    split
    · obtain ⟨hanswer, hafter⟩ := Session.answer_eq hf hi d
      obtain ⟨hf', hi'⟩ := Session.answer_untroubled hf hi d
      have hlt : i < w.calls.length := (List.getElem?_eq_some_iff.1 hc).1
      have hproceed : w.proceed i session.surroundings =
          ⟨(c.proceed session.surroundings w.store).2,
            w.calls.set i (c.proceed session.surroundings w.store).1⟩ := by
        unfold World.proceed
        rw [hc]
      obtain ⟨events, hevents⟩ := ih (session.answer d).1 (left - session.delay d) hf' hi'
        (w := w.step s (.proceed i session.surroundings))
          (c := (c.proceed session.surroundings w.store).1)
        (by
          show (w.proceed i session.surroundings).calls[i]? = _
          rw [hproceed]
          simp [hlt])
        (by simp [Progress.proceed, hrest, hstore, hanswer])
        (by
          show (w.proceed i session.surroundings).store = _
          rw [hproceed, hafter]
          simp [Progress.proceed, hrest, hstore])
      exact ⟨.proceed i session.surroundings :: events, hevents⟩
    · exact ⟨[], hstore⟩

/-- **What a request leaves in an untroubled session, a world can come to**, also where the call is
cut off by its deadline. -/
theorem exists_run (s : Service) (q : ServiceRequest) (left : Nat) {session : Session}
    (hf : session.failures = []) (hi : session.interferences = []) {w : World}
    (hstore : w.store = session.store) :
    ∃ events, (w.run s events).store = ((q.call s).run left session).2.store := by
  have hlast : (w.step s (.arrive q)).calls[w.calls.length]? = some (Progress.start s q) := by
    simp [World.step]
  obtain ⟨events, hevents⟩ := exists_run_rest s (q.call s) left hf hi hlast rfl hstore
  exact ⟨.arrive q :: events, hevents⟩

end World

/-! ## A small service -/

namespace Sample

def task : Entity :=
  ⟨"task", none, [{ Field.plain "title" .text with required := true }, .plain "effort" .number]⟩

/-- A service that knows tasks only. -/
def service : Service := { schema := ⟨(∅ : Dict String Entity).insert task.name task⟩ }

theorem registered : service.schema.Registered := .register (e := task) .empty rfl

/-- Access to everything. -/
def staff : Access :=
  ⟨[⟨"staff", (∅ : Dict String EntityGrant).insert Role.anyEntity
    ⟨some .allow, some .allow, some .allow, some .allow⟩⟩]⟩

/-- Surroundings that give everyone access to everything and new records one identifier. -/
def surroundings (newId : Uuid) : Surroundings where
  access _ := .ok staff
  file _ _ := none
  newId := newId
  time := .epoch
  order := List.reverse
  order_perm := List.reverse_perm

def ctx : Context := ⟨⟨"acme", "ann", ∅⟩, .epoch⟩

def creating : ServiceRequest := ⟨ctx, task.name, .create (.object [("title", .string "Plan")])⟩

def creation : List Event :=
  [.arrive ⟨ctx, task.name, .create (.object [("title", .string "Plan")])⟩,
    .proceed 0 (surroundings .nil),
    .proceed 0 (surroundings .nil),
    .proceed 0 (surroundings .nil)]

/-- A call that has read this task to delete it, but not yet written. -/
def deletion : List Event :=
  [.arrive ⟨ctx, task.name, .delete Uuid.nil.text⟩, .proceed 1 (surroundings .nil),
    .proceed 1 (surroundings .nil)]

/-- A workflow takes the task in. -/
def lock : Event := .approval task .nil (some (.entered "review"))

end Sample

end Dossier
