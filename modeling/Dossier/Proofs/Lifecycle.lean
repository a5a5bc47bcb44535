import Dossier.Proofs.Births
import Dossier.Proofs.RowConditions

/-!
# The life of a record

What holds in every world that calls and workflows can come to from an empty store, step by step and in
any order: where the records come from, that none disappears, how their marks of deletion move, and on
which records calls can have ended well.

**Changes** that have ended well were made at a step of the run (`exists_writes`), and what is written to
is deleted or live as the operation asks for (`Writes.of_request`).

**Reads** that have ended well have found live records at one of their moments
(`ServiceRequest.call_finds`).

Main result: `lifecycle`.
-/

namespace Dossier

/-! ## Changes that have ended well -/

def ServiceOperation.Performs : ServiceOperation → Write → Prop
  | .update .., .update _ => True
  | .delete _, .delete => True
  | .restore _, .restore => True
  | _, _ => False

theorem ServiceRequest.Makes.performs {s : Service} {q : ServiceRequest} {entity entity' : Entity}
    {access : Access} {id : Uuid} {guard : Predicate} {w : Write} {actor : String}
    (h : q.Makes s entity access (.write entity' id guard w actor)) :
    q.operation.Performs w ∧ q.Names id ∧ actor = q.ctx.user ∧
      ∃ forced, guard = q.guard entity id forced := by
  cases h with
  | write aims writes =>
    refine ⟨?_, aims.named, rfl, _, rfl⟩
    cases w with
    | update changes =>
      obtain ⟨_, _, _, hop, -⟩ := writes
      rw [hop]
      trivial
    | delete =>
      obtain ⟨_, hop⟩ := writes
      rw [hop]
      trivial
    | restore =>
      obtain ⟨_, hop⟩ := writes
      rw [hop]
      trivial

namespace World

variable {s : Service} {w : World} {store : Store} {events : List Event} {c : Progress} {i : Nat}
  {e : Surroundings} {q : ServiceRequest} {id : Uuid} {wr : Write} {before : Record}

/-- A call of a request, about to be answered, writes to a record. -/
structure Writes (w : World) (i : Nat) (q : ServiceRequest) (id : Uuid) (wr : Write)
    (before : Record) : Prop where
  asks : ∃ c entity guard next, w.calls[i]? = some c ∧ c.request = q ∧
    c.rest = .ask (.write entity id guard wr q.ctx.user) next ∧
    Store.concerns entity guard before = true
  found : w.store.find? id = some before

theorem Writes.find?_step (h : w.Writes i q id wr before) (s : Service) (e : Surroundings) :
    (w.step s (.proceed i e)).store.find? id = some (wr.apply ⟨q.ctx.user, e.time⟩ before) := by
  obtain ⟨c, entity, guard, next, hc, -, hrest, hguard⟩ := h.asks
  have hstep : (w.step s (.proceed i e)).store =
      (w.store.write entity id guard wr ⟨q.ctx.user, e.time⟩).2 := by
    simp [step, proceed, hc, Progress.proceed, hrest, Surroundings.answer]
  rw [hstep, Store.write, Store.change, h.found]
  simp [hguard, Store.find?_insert]

/-- A write that is answered by a record. -/
theorem writes_of_answer {entity : Entity} {guard : Predicate} {actor : String} {r : Record}
    {next : Demand.Answer (.write entity id guard wr actor) → Call ServiceReply}
    (hc : ((quiet store).run s events).calls[i]? = some c)
    (hrest : c.rest = .ask (.write entity id guard wr actor) next)
    (hanswer : (e.answer ((quiet store).run s events).store (.write entity id guard wr actor)).1 =
      .ok (some r)) :
    ∃ before, ((quiet store).run s events).Writes i c.request id wr before := by
  have hsound : c.Sound s := (sound_quiet store).run events c (List.mem_of_getElem? hc)
  rcases hsound.demand hrest with haccess | ⟨access, _, -, -, hmakes⟩
  · cases haccess
  obtain ⟨-, -, rfl, -⟩ := hmakes.performs
  rcases ((quiet store).run s events).store.change_cases entity id guard
      (wr.apply ⟨c.request.ctx.user, e.time⟩) with ⟨before, hfound, hguard, -⟩ | ⟨-, hchange⟩
  · exact ⟨before, ⟨c, entity, guard, next, hc, rfl, hrest, hguard⟩, hfound⟩
  · simp [Surroundings.answer, Store.write, hchange] at hanswer

/-- **A write of a run is one that its request stands for**, to a deleted record if the operation is on
deleted records, and to a live one if not. -/
theorem Writes.of_request (h : ((quiet store).run s events).Writes i q id wr before) :
    q.Names id ∧ q.operation.Performs wr ∧ before.deleted = q.operation.onDeleted := by
  obtain ⟨c, entity, guard, next, hc, rfl, hrest, hguard⟩ := h.asks
  have hsound : c.Sound s := (sound_quiet store).run events c (List.mem_of_getElem? hc)
  rcases hsound.demand hrest with haccess | ⟨access, _, -, -, hmakes⟩
  · cases haccess
  obtain ⟨hperforms, hnames, -, forced, rfl⟩ := hmakes.performs
  have hmeets := (Store.concerns_iff.1 hguard).2
  rw [ServiceRequest.guard, before.meets_both, Bool.and_eq_true, before.meets_reachable] at hmeets
  exact ⟨hnames, hperforms, hmeets.1.2.2.1⟩

theorem Writes.live (h : ((quiet store).run s events).Writes i q id .delete before) :
    before.deleted = false := by
  obtain ⟨-, hperforms, hdeleted⟩ := h.of_request
  rw [hdeleted]
  cases hop : q.operation <;> rw [hop] at hperforms <;> first | rfl | exact hperforms.elim

/-- **A change that has ended well was made at a step of the run.** -/
theorem exists_writes (hc : ((quiet store).run s events).calls[i]? = some c)
    (hchanges : c.request.operation.effect = .changes) {reply : ServiceReply}
    (hdone : c.rest = .done (.ok reply)) :
    ∃ pre e post id wr before, events = pre ++ .proceed i e :: post ∧
      ((quiet store).run s pre).Writes i c.request id wr before := by
  rw [rest_eq_resume hc] at hdone
  cases hfind : s.schema.find c.request.entity with
  | error error =>
    rw [c.request.call_unknown s hfind, Call.resume_done] at hdone
    cases hdone
  | ok entity =>
    obtain ⟨id, forced, wr, actor, m, r, hasks, hanswer⟩ :=
      (c.request.call_owes s hfind).exists_write hchanges hdone
    obtain ⟨pre, e, post, c', next, rfl, rfl, hc', hrequest, hrest⟩ := exists_step_of_asksAt hc hasks
    obtain ⟨before, hwrites⟩ := writes_of_answer hc' hrest hanswer
    rw [hrequest] at hwrites
    exact ⟨pre, e, post, id, wr, before, rfl, hwrites⟩

end World

/-! ## Reads that have ended well -/

namespace Service

variable {s : Service} {ctx : Context} {entity : Entity} {ms : List Moment}

theorem enter_resume {name : String} {access : Access}
    (h : (s.enter ctx name).resume ms = .done (.ok (entity, access))) :
    s.schema.find name = .ok entity := by
  obtain ⟨entity', hfind, h⟩ := Call.exists_ok_of_resume_bind h
  obtain ⟨earlier, later, access', -, -, h⟩ := Call.exists_resume_of_bind h
  have hdone := (Call.resume_done (.ok (entity', access')) later).symm.trans h
  cases hdone
  cases hschema : s.schema.find name with
  | error error =>
    rw [hschema] at hfind
    cases hfind
  | ok found =>
    rw [hschema] at hfind
    cases hfind
    rfl

/-- The answer to a demand on the store that has come to something. -/
theorem exists_answer {α : Type} {d : Demand} {next : d.Answer → Call α} {a : α}
    (h : (Call.ask d next).resume ms = .done (.ok a)) :
    ∃ m later, ms = m :: later ∧ (next (m.answer d)).resume later = .done (.ok a) := by
  cases ms with
  | nil => cases h
  | cons m later => exact ⟨m, later, rfl, h⟩

/-- A record that was found was stored then, and within reach. -/
theorem fetchOne_resume {id : Uuid} {p : Predicate} {r : Record}
    (h : (fetchOne entity id p).resume ms = .done (.ok r)) :
    ∃ m ∈ ms, r ∈ m.store.records.values ∧ Store.concerns entity p r = true := by
  obtain ⟨earlier, later, found, rfl, hfetch, h⟩ := Call.exists_resume_of_bind h
  obtain ⟨m, rest, rfl, hanswer⟩ := exists_answer hfetch
  rw [show (Call.ofStore (m.answer (.fetch entity p))).resume rest = .done
    (.ok ((m.e.order m.store.records.values).find? (Store.concerns entity p))) from
    Call.resume_done _ rest] at hanswer
  cases hanswer
  cases hfound : (m.e.order m.store.records.values).find? (Store.concerns entity p) with
  | none =>
    rw [hfound] at h
    exact nomatch (Call.resume_done _ later).symm.trans h
  | some r' =>
    rw [hfound] at h
    cases (Call.resume_done _ later).symm.trans h
    exact ⟨m, by simp, m.e.mem_of_found hfound⟩

/-- Records that were listed were stored then, and meet what was asked for. -/
theorem list_resume {query : ListQuery} {records : List Record}
    (h : (Call.list entity query).resume ms = .done (.ok records)) :
    ∃ m ∈ ms, ∀ r ∈ records, r ∈ m.store.records.values ∧
      Store.concerns entity query.predicate r = true := by
  obtain ⟨m, rest, rfl, hanswer⟩ := exists_answer h
  rw [show (Call.ofStore (m.answer (.list entity query))).resume rest = .done
    (.ok (query.page ((m.e.order m.store.records.values).filter
      (Store.concerns entity query.predicate)))) from Call.resume_done _ rest] at hanswer
  cases hanswer
  exact ⟨m, by simp, fun _ hr => m.e.mem_of_page hr⟩

/-- Whatever is shown of references, each record is shown in its place. -/
theorem populate_resume {records : List Record} {views : List Shown}
    (h : (s.populate ctx entity records).resume ms = .done (.ok views)) :
    List.Forall₂ (Shown.Of entity) records views := by
  have hreads : ReadsReferences s ctx Demand.ReadOnly := ⟨fun _ _ _ _ => trivial, fun _ => trivial⟩
  have hobeys := (populate_obeys hreads entity records).resume ms
  rw [h] at hobeys
  exact hobeys.result

end Service

namespace ServiceRequest

variable {s : Service} {q : ServiceRequest} {ms : List Moment}

theorem get_finds {text : String} {shown : Json} (hop : q.operation = .get text)
    (h : (s.get q.ctx q.entity text).resume ms = .done (.ok shown)) :
    ∃ m ∈ ms, ∃ entity records, s.schema.find q.entity = .ok entity ∧
      q.ActsOn entity m.store (.object shown) m.store records ∧
      ∀ r ∈ records, r.deleted = false := by
  obtain ⟨ms₁, ms₂, ⟨entity, access⟩, rfl, henter, h⟩ := Call.exists_resume_of_bind h
  have hfind := Service.enter_resume henter
  dsimp only at h
  obtain ⟨condition, -, h⟩ := Call.exists_ok_of_resume_bind h
  obtain ⟨mask, -, h⟩ := Call.exists_ok_of_resume_bind h
  obtain ⟨id, hid, h⟩ := Call.exists_ok_of_resume_bind h
  obtain ⟨ms₂, ms₃, r, rfl, hfetch, h⟩ := Call.exists_resume_of_bind h
  obtain ⟨m, hm, hvalue, hreach⟩ := Service.fetchOne_resume hfetch
  obtain ⟨ms₃, ms₄, views, rfl, hpopulate, h⟩ := Call.exists_resume_of_bind h
  obtain ⟨v, hv, rfl⟩ := Shown.of_singleton (Service.populate_resume hpopulate)
  cases (Call.resume_done _ ms₄).symm.trans h
  obtain ⟨-, -, hlive, rfl, -⟩ := (r.meets_reachable ..).1 (Store.concerns_iff.1 hreach).2
  refine ⟨m, by simp [hm], entity, [r], hfind, ?_, List.forall_mem_singleton.2 hlive⟩
  rw [List.flatMap_singleton]
  exact .got hop ⟨text, by rw [hop]; rfl, Service.recordId_ok hid⟩ hvalue hv

theorem list_finds {request : ListRequest} {page : Page} (hop : q.operation = .list request)
    (h : (s.list q.ctx q.entity request).resume ms = .done (.ok page)) :
    ∃ m ∈ ms, ∃ entity records, s.schema.find q.entity = .ok entity ∧
      q.ActsOn entity m.store (.page page) m.store records ∧
      ∀ r ∈ records, r.deleted = false := by
  obtain ⟨ms₁, ms₂, ⟨entity, access⟩, rfl, henter, h⟩ := Call.exists_resume_of_bind h
  have hfind := Service.enter_resume henter
  dsimp only at h
  obtain ⟨⟨mask, query⟩, hquery, h⟩ := Call.exists_ok_of_resume_bind h
  obtain ⟨permission, filters, condition, sort, -, -, -, -, -, rfl, rfl⟩ :=
    Service.listQuery_ok hquery
  dsimp only at h
  obtain ⟨ms₂, ms₃, total, rfl, -, h⟩ := Call.exists_resume_of_bind h
  obtain ⟨ms₃, ms₄, records, rfl, hlist, h⟩ := Call.exists_resume_of_bind h
  obtain ⟨m, hm, hlisted⟩ := Service.list_resume hlist
  obtain ⟨ms₄, ms₅, views, rfl, hpopulate, h⟩ := Call.exists_resume_of_bind h
  cases (Call.resume_done _ ms₅).symm.trans h
  refine ⟨m, by simp [hm], entity, records, hfind,
    .listed hop (fun r hr => (hlisted r hr).1) (Service.populate_resume hpopulate) rfl,
    fun r hr => ?_⟩
  have hmeets := (Store.concerns_iff.1 (hlisted r hr).2).2
  rw [ListQuery.predicate, r.meets_both, r.meets_both, scope, r.meets_scopeWhere] at hmeets
  simp only [Bool.and_eq_true, beq_iff_eq] at hmeets
  exact hmeets.1.1.2.2

/-- A read that has ended well has found live records only, all at one moment. -/
theorem call_finds {reply : ServiceReply} (hreads : q.operation.effect = .reads)
    (h : (q.call s).resume ms = .done (.ok reply)) :
    ∃ m ∈ ms, ∃ entity records, s.schema.find q.entity = .ok entity ∧
      q.ActsOn entity m.store reply m.store records ∧ ∀ r ∈ records, r.deleted = false := by
  unfold call at h
  split at h <;> rename_i hop <;> rw [hop] at hreads <;> try cases hreads
  all_goals
    obtain ⟨earlier, later, shown, rfl, hserved, h⟩ := Call.exists_resume_of_bind h
    cases (Call.resume_done _ later).symm.trans h
  · obtain ⟨m, hm, hfinds⟩ := get_finds hop hserved
    exact ⟨m, List.mem_append_left _ hm, hfinds⟩
  · obtain ⟨m, hm, hfinds⟩ := list_finds hop hserved
    exact ⟨m, List.mem_append_left _ hm, hfinds⟩

end ServiceRequest

/-! ## Runs -/

namespace Sample

/-- A call that has read the deleted task to restore it, but not yet written. -/
def restoration : List Event :=
  [.arrive ⟨ctx, task.name, .restore Uuid.nil.text⟩, .proceed 2 (surroundings .nil),
    .proceed 2 (surroundings .nil)]

end Sample

namespace World

/-- What holds of the records of a world that some steps have led to from an empty store. -/
structure Lifecycle (s : Service) (events : List Event) : Prop where
  /-- There are as many records as there have been births. -/
  size : ((quiet .empty).run s events).store.size = ((quiet .empty).births s events).length
  /-- Once no creation is under way, there are as many records as creations that have ended well. -/
  settled : (∀ c ∈ ((quiet .empty).run s events).calls, c.request.operation.effect = .creates →
      ∃ result, c.rest = .done result) →
    ((quiet .empty).run s events).store.size =
      ((quiet .empty).run s events).calls.countP (·.hasCreated)
  /-- A birth belongs to one creation, which ends well, and bears a record for its caller. -/
  staffed : Staffed ((quiet .empty).births s events) ((quiet .empty).run s events)
  /-- A creation that has ended well has borne a record. -/
  borne : ∀ i c reply, ((quiet .empty).run s events).calls[i]? = some c →
    c.request.operation.effect = .creates → c.rest = .done (.ok reply) →
    ∃ b ∈ (quiet .empty).births s events, b.call = i
  /-- A record is one that was born, under its own identifier. -/
  born : ∀ id r, ((quiet .empty).run s events).store.find? id = some r → r.id = id ∧
    ∃ b ∈ (quiet .empty).births s events, r.SameOrigin b.record
  /-- No record disappears. -/
  lasting : ∀ pre post id r, events = pre ++ post →
    ((quiet .empty).run s pre).store.find? id = some r →
    ∃ r', ((quiet .empty).run s events).store.find? id = some r' ∧ r'.SameOrigin r
  marked : ∀ id r, ((quiet .empty).run s events).store.find? id = some r → r.Marked
  /-- A read that has ended well has found live records only. -/
  found : ∀ i c reply, ((quiet .empty).run s events).calls[i]? = some c →
    c.request.operation.effect = .reads → c.rest = .done (.ok reply) →
    ∃ pre e post entity records, events = pre ++ .proceed i e :: post ∧
      s.schema.find c.request.entity = .ok entity ∧
      c.request.ActsOn entity ((quiet .empty).run s pre).store reply
        ((quiet .empty).run s pre).store records ∧
      ∀ r ∈ records, r.deleted = false
  /-- A change that has ended well was made to a live record, or to a deleted one by a restoration. -/
  changed : ∀ i c reply, ((quiet .empty).run s events).calls[i]? = some c →
    c.request.operation.effect = .changes → c.rest = .done (.ok reply) →
    ∃ pre e post id wr before, events = pre ++ .proceed i e :: post ∧
      ((quiet .empty).run s pre).Writes i c.request id wr before ∧ c.request.Names id ∧
      c.request.operation.Performs wr ∧ before.deleted = c.request.operation.onDeleted
  /-- A restoration gives back what a deletion has taken away, when nothing has touched the record in
  between. -/
  restored : ∀ pre i e between j e' post q q' id before gone,
    events = pre ++ .proceed i e :: (between ++ .proceed j e' :: post) →
    ((quiet .empty).run s pre).Writes i q id .delete before →
    ((quiet .empty).run s (pre ++ .proceed i e :: between)).store.find? id =
      ((quiet .empty).run s (pre ++ [.proceed i e])).store.find? id →
    ((quiet .empty).run s (pre ++ .proceed i e :: between)).Writes j q' id .restore gone →
    ((quiet .empty).run s (pre ++ .proceed i e :: (between ++ [.proceed j e']))).store.find? id =
      some { before with updatedAt := e'.time, updatedBy := q'.ctx.user } ∧
    before.deleted = false ∧ before.deletedAt = none ∧ before.deletedBy = none

variable {s : Service} {events : List Event}

theorem census_run (s : Service) (events : List Event) :
    Census ((quiet .empty).births s events) ((quiet .empty).run s events).store :=
  Census.run (w := quiet .empty) .empty s events

/-- Births are never forgotten, so neither are records. -/
theorem find?_lasts {pre post : List Event} {id : Uuid} {r : Record}
    (hr : ((quiet .empty).run s pre).store.find? id = some r) :
    ∃ r', ((quiet .empty).run s (pre ++ post)).store.find? id = some r' ∧ r'.SameOrigin r := by
  obtain ⟨rfl, b, hb, horigin⟩ := (census_run s pre).born id r hr
  have hb' : b ∈ (quiet .empty).births s (pre ++ post) := by
    rw [births_append]
    exact List.mem_append_left _ hb
  obtain ⟨r', hr', horigin'⟩ := (census_run s (pre ++ post)).kept b hb'
  exact ⟨r', by rw [horigin.id, hr'], horigin'.trans horigin.symm⟩

theorem find?_restored {pre between : List Event} {i j : Nat} {e e' : Surroundings}
    {q q' : ServiceRequest} {id : Uuid} {before gone : Record}
    (hdelete : ((quiet .empty).run s pre).Writes i q id .delete before)
    (huntouched : ((quiet .empty).run s (pre ++ .proceed i e :: between)).store.find? id =
      ((quiet .empty).run s (pre ++ [.proceed i e])).store.find? id)
    (hrestore : ((quiet .empty).run s (pre ++ .proceed i e :: between)).Writes j q' id .restore gone) :
    ((quiet .empty).run s (pre ++ .proceed i e :: (between ++ [.proceed j e']))).store.find? id =
      some { before with updatedAt := e'.time, updatedBy := q'.ctx.user } := by
  have hgone : gone = before.delete ⟨q.ctx.user, e.time⟩ := by
    have hfound := hrestore.found
    rw [huntouched, run_append, run_singleton, hdelete.find?_step] at hfound
    exact (Option.some.inj hfound).symm
  have hmarked := (census_run s pre).marked id before hdelete.found
  have hlive := hdelete.live
  rw [show pre ++ .proceed i e :: (between ++ [.proceed j e']) =
      (pre ++ .proceed i e :: between) ++ [.proceed j e'] by simp,
    run_append, run_singleton, hrestore.find?_step, hgone]
  exact congrArg some (Record.restore_delete hmarked hlive _ _)

theorem lifecycle (s : Service) (events : List Event) : Lifecycle s events where
  size := (census_run s events).size
  settled hsettled := (census_run s events).size.trans (births_length .empty hsettled)
  staffed := staffed_run s .empty events
  borne _ _ _ hc hcreates hdone := exists_birth hc hcreates hdone
  born := (census_run s events).born
  lasting pre post id r hevents hr := by
    rw [hevents]
    exact find?_lasts hr
  marked := (census_run s events).marked
  found i c reply hc hreads hdone := by
    rw [rest_eq_resume hc] at hdone
    obtain ⟨m, hm, entity, records, hfind, hacts, hlive⟩ :=
      ServiceRequest.call_finds hreads hdone
    obtain ⟨pre, e, post, hevents, rfl⟩ := exists_step_of_mem hm
    exact ⟨pre, e, post, entity, records, hevents, hfind, hacts, hlive⟩
  changed i c reply hc hchanges hdone := by
    obtain ⟨pre, e, post, id, wr, before, hevents, hwrites⟩ := exists_writes hc hchanges hdone
    exact ⟨pre, e, post, id, wr, before, hevents, hwrites, hwrites.of_request⟩
  restored pre i e between j e' post q q' id before gone hevents hdelete huntouched hrestore := by
    refine ⟨find?_restored hdelete huntouched hrestore, hdelete.live, ?_⟩
    have hmarked := (census_run s pre).marked id before hdelete.found
    have hlive := hdelete.live
    exact ⟨by simpa [hlive] using hmarked.time, by simpa [hlive] using hmarked.actor⟩

open Sample in
/-- The write that a call in a run of the sample service makes next. -/
theorem exists_sample_write (events : List Event) (i : Nat) (operation : ServiceOperation)
    (hrequest : (((quiet .empty).run service events).calls[i]?).map (·.request) =
      some ⟨ctx, task.name, operation⟩)
    (htarget : operation.target? = some Uuid.nil.text)
    (hwrites : (((quiet .empty).run service events).calls[i]?).any
      (·.writes (surroundings .nil) ((quiet .empty).run service events).store) = true) :
    ∃ wr before, operation.Performs wr ∧
      ((quiet .empty).run service events).Writes i ⟨ctx, task.name, operation⟩ .nil wr before := by
  obtain ⟨c, hc, hrequest⟩ := Option.map_eq_some_iff.1 hrequest
  rw [hc] at hwrites
  obtain ⟨entity, id, guard, wr, actor, next, after, hrest, happlied⟩ := c.exists_write hwrites
  obtain ⟨before, h⟩ := writes_of_answer hc hrest happlied
  rw [hrequest] at h
  obtain ⟨⟨text, htext, hid⟩, hperforms, -⟩ := h.of_request
  obtain rfl : Uuid.nil.text = text := Option.some.inj (htarget.symm.trans htext)
  obtain rfl : Uuid.nil = id :=
    Option.some.inj ((show Uuid.read? (trimmed Uuid.nil.text) = some .nil by decide).symm.trans hid)
  exact ⟨wr, before, hperforms, h⟩

open Sample in
/-- Up to its write, the restoration leaves the store as it is. -/
theorem restoration_untouched :
    ((quiet .empty).run service (creation ++ deletion ++
      .proceed 1 (surroundings .nil) :: restoration)).store =
    ((quiet .empty).run service (creation ++ deletion ++ [.proceed 1 (surroundings .nil)])).store := by
  rw [show creation ++ deletion ++ .proceed 1 (surroundings .nil) :: restoration =
    (creation ++ deletion ++ [.proceed 1 (surroundings .nil)]) ++ restoration from rfl, run_append]
  generalize hw : (quiet .empty).run service
    (creation ++ deletion ++ [.proceed 1 (surroundings .nil)]) = w
  have hlength : w.calls.length = 2 := by
    rw [← hw]
    rfl
  -- the restoration is the third call, whatever has become of the other two
  obtain ⟨store, calls⟩ := w
  match calls, hlength with
  | [_, _], _ => rfl

open Sample in
/-- A task that is created, deleted and restored. -/
theorem deleted_task_restored : ∃ before,
    ((quiet .empty).run service (creation ++ deletion)).store.find? .nil = some before ∧
    ((quiet .empty).run service (creation ++ deletion ++ .proceed 1 (surroundings .nil) ::
      (restoration ++ [.proceed 2 (surroundings .nil)]))).store.find? .nil =
        some { before with updatedAt := .epoch, updatedBy := "ann" } := by
  obtain ⟨wr, before, hperforms, hdelete⟩ := exists_sample_write (creation ++ deletion) 1
    (.delete Uuid.nil.text) rfl rfl (by decide +kernel)
  obtain rfl : wr = .delete := by
    cases wr <;> first | rfl | exact hperforms.elim
  obtain ⟨wr, gone, hperforms, hrestore⟩ := exists_sample_write
    (creation ++ deletion ++ .proceed 1 (surroundings .nil) :: restoration) 2
    (.restore Uuid.nil.text) rfl rfl (by decide +kernel)
  obtain rfl : wr = .restore := by
    cases wr <;> first | rfl | exact hperforms.elim
  have hrun := lifecycle service (creation ++ deletion ++ .proceed 1 (surroundings .nil) ::
    (restoration ++ [.proceed 2 (surroundings .nil)]))
  have huntouched := congrArg (·.find? .nil) restoration_untouched
  have hrestored := (hrun.restored (creation ++ deletion) 1 (surroundings .nil) restoration 2
    (surroundings .nil) [] _ _ .nil before gone rfl hdelete huntouched hrestore).1
  exact ⟨before, hdelete.found, hrestored⟩

end World

end Dossier
