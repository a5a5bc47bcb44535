import Dossier.Proofs.Moments
import Mathlib.Data.List.Induction

/-!
# Where records come from

A record is taken in by one creation and stays from then on. Writes and workflows revise it, and keep
where it comes from; whatever they do, its three marks of deletion move together.

**Records** (`Record.Revised`). What any writer keeps: the origin of a record (`Record.SameOrigin`), and
that its marks of deletion agree (`Record.Marked`).

**The register of births** (`World.births`) is a ghost of a run: the records as they were taken in, each
with the call that has created it. One inversion of a step (`World.Turns`) is all that is needed of what
calls and workflows do to the store.

Main results: `Census.run`, that the store holds the records that were born and no others, and
`staffed_run`, that each birth belongs to one creation, which then ends well.
-/

namespace Dossier

/-! ## Records -/

namespace Record

/-- Two versions of a record, both from one creation. -/
structure SameOrigin (a b : Record) : Prop where
  id : a.id = b.id
  tenant : a.tenant = b.tenant
  entity : a.entity = b.entity
  createdAt : a.createdAt = b.createdAt
  createdBy : a.createdBy = b.createdBy

/-- The three marks of deletion agree. -/
structure Marked (r : Record) : Prop where
  time : r.deleted = true ↔ r.deletedAt.isSome
  actor : r.deleted = true ↔ r.deletedBy.isSome

/-- What a write or a workflow makes of a record. -/
inductive Revised (r : Record) : Record → Prop
  | write (w : Write) (stamp : Stamp) : Revised r (w.apply stamp r)
  | approval (state : Option Approval) : Revised r (r.withApproval state)

variable {a b c : Record}

theorem SameOrigin.refl (r : Record) : r.SameOrigin r := ⟨rfl, rfl, rfl, rfl, rfl⟩

theorem SameOrigin.trans (h : a.SameOrigin b) (h' : b.SameOrigin c) : a.SameOrigin c :=
  ⟨h.id.trans h'.id, h.tenant.trans h'.tenant, h.entity.trans h'.entity,
    h.createdAt.trans h'.createdAt, h.createdBy.trans h'.createdBy⟩

theorem SameOrigin.symm (h : a.SameOrigin b) : b.SameOrigin a :=
  ⟨h.id.symm, h.tenant.symm, h.entity.symm, h.createdAt.symm, h.createdBy.symm⟩

theorem Revised.sameOrigin (h : a.Revised b) : b.SameOrigin a := by
  cases h with
  | write w stamp => cases w <;> exact ⟨rfl, rfl, rfl, rfl, rfl⟩
  | approval state => exact ⟨rfl, rfl, rfl, rfl, rfl⟩

/-- Deletions set all three marks and restorations take all three away; the others leave them. -/
theorem Revised.marked (h : a.Revised b) (ha : a.Marked) : b.Marked := by
  cases h with
  | write w stamp =>
    cases w with
    | update changes => exact ⟨ha.time, ha.actor⟩
    | delete => exact ⟨by simp [Write.apply, delete], by simp [Write.apply, delete]⟩
    | restore => exact ⟨by simp [Write.apply, restore], by simp [Write.apply, restore]⟩
  | approval state => exact ⟨ha.time, ha.actor⟩

theorem marked_draft (d : Draft) (id : Uuid) (time : Instant) : (d.record id time).Marked :=
  ⟨by simp [Draft.record, create, withApproval], by simp [Draft.record, create, withApproval]⟩

/-- A deletion and a restoration leave behind only the stamp of the last change. -/
theorem restore_delete (ha : a.Marked) (hlive : a.deleted = false) (s s' : Stamp) :
    (a.delete s).restore s' = { a with updatedAt := s'.time, updatedBy := s'.actor } := by
  have htime : a.deletedAt = none := by simpa [hlive] using ha.time
  have hactor : a.deletedBy = none := by simpa [hlive] using ha.actor
  simp [delete, restore, hlive, htime, hactor]

end Record

/-! ## Births -/

/-- A record that is taken in, with the call that creates it, by its place. -/
structure Birth where
  call : Nat
  record : Record

/-- The record that the next answer to a call takes in, if the call asks for a creation that is
granted. -/
def Call.taken? {α : Type} (e : Surroundings) (store : Store) : Call α → Option Record
  | .ask (.create _ draft) _ => (e.create store draft).1.toOption
  | _ => none

namespace World

def birth? (w : World) : Event → Option Birth
  | .proceed i e => w.calls[i]?.bind fun c => (c.rest.taken? e w.store).map (⟨i, ·⟩)
  | _ => none

/-- The records that a run takes in, in their order. -/
def births (s : Service) : World → List Event → List Birth
  | _, [] => []
  | w, event :: rest => (w.birth? event).toList ++ births s (w.step s event) rest

theorem births_append (s : Service) (w : World) (earlier later : List Event) :
    w.births s (earlier ++ later) = w.births s earlier ++ (w.run s earlier).births s later := by
  induction earlier generalizing w with
  | nil => rfl
  | cons event rest ih =>
    show _ ++ (w.step s event).births s (rest ++ later) = _
    rw [ih, ← List.append_assoc]
    rfl

structure Bears (w : World) (event : Event) (b : Birth) (c : Progress) (entity : Entity)
    (draft : Draft) (e : Surroundings) : Prop where
  event : event = .proceed b.call e
  call : w.calls[b.call]? = some c
  asks : ∃ next, c.rest = .ask (.create entity draft) next
  free : w.store.find? e.newId = none
  record : b.record = draft.record e.newId e.time

variable {s : Service} {w : World} {event : Event} {b : Birth}

theorem exists_bears (h : w.birth? event = some b) :
    ∃ c entity draft e, w.Bears event b c entity draft e := by
  cases event with
  | arrive q => cases h
  | approval entity id state => cases h
  | proceed i e =>
    obtain ⟨c, hc, h⟩ := Option.bind_eq_some_iff.1 h
    obtain ⟨r, hr, rfl⟩ := Option.map_eq_some_iff.1 h
    unfold Call.taken? at hr
    split at hr
    · rename_i entity draft next hrest
      rcases e.create_cases w.store draft with ⟨hfree, hcreate⟩ | ⟨-, hcreate⟩ <;>
        rw [hcreate] at hr <;> cases hr
      exact ⟨c, entity, draft, e, rfl, hc, ⟨next, hrest⟩, hfree, rfl⟩
    · cases hr

/-- **What a step does to the store**: nothing, a birth, or a revision of one record. -/
inductive Turns (w : World) (event : Event) : Store → Prop
  | idle (birth : w.birth? event = none) : Turns w event w.store
  | born {b : Birth} (birth : w.birth? event = some b) (free : w.store.find? b.record.id = none) :
      Turns w event (w.store.put b.record)
  | revised {id : Uuid} {before after : Record} (birth : w.birth? event = none)
      (found : w.store.find? id = some before) (revised : before.Revised after) :
      Turns w event ⟨w.store.records.insert id after⟩

theorem turns_answer {i : Nat} {c : Progress} {d : Demand} {next : d.Answer → Call ServiceReply}
    (hi : w.calls[i]? = some c) (hrest : c.rest = .ask d next) (e : Surroundings) :
    w.Turns (.proceed i e) (e.answer w.store d).2 := by
  have hbirth : w.birth? (.proceed i e) =
      ((Call.ask d next).taken? e w.store).map (⟨i, ·⟩) := by simp [birth?, hi, hrest]
  cases d with
  | create entity draft =>
    rw [Surroundings.answer]
    rw [Call.taken?] at hbirth
    rcases e.create_cases w.store draft with ⟨hfree, hcreate⟩ | ⟨-, hcreate⟩ <;>
      rw [hcreate] at hbirth ⊢
    · exact .born hbirth hfree
    · exact .idle hbirth
  | write entity id guard wr actor =>
    rw [Surroundings.answer, Store.write]
    rcases w.store.change_cases entity id guard (wr.apply ⟨actor, e.time⟩) with
      ⟨before, hfound, -, hchange⟩ | ⟨-, hchange⟩ <;> rw [hchange]
    · exact .revised hbirth hfound (.write wr _)
    · exact .idle hbirth
  | _ => exact .idle hbirth

theorem turns_step (s : Service) (w : World) (event : Event) :
    w.Turns event (w.step s event).store := by
  cases event with
  | arrive q => exact .idle rfl
  | approval entity id state =>
    rw [step, Store.setApproval]
    rcases w.store.change_cases entity id .always (·.withApproval state) with
      ⟨before, hfound, -, h⟩ | ⟨-, h⟩ <;> rw [h]
    · exact .revised rfl hfound (.approval state)
    · exact .idle rfl
  | proceed i e =>
    cases hi : w.calls[i]? with
    | none =>
      rw [step, proceed, hi]
      exact .idle (by simp [birth?, hi])
    | some c =>
      rw [step, proceed, hi]
      show w.Turns _ (c.proceed e w.store).2
      unfold Progress.proceed
      cases hrest : c.rest with
      | done result => exact .idle (by simp [birth?, hi, hrest, Call.taken?])
      | ask d next => exact turns_answer hi hrest e

end World

/-! ## The census -/

/-- A store that holds the records that were born, each as it was born or revised since. -/
structure Census (births : List Birth) (store : Store) : Prop where
  size : store.size = births.length
  kept : ∀ b ∈ births, ∃ r, store.find? b.record.id = some r ∧ r.SameOrigin b.record
  born : ∀ id r, store.find? id = some r → r.id = id ∧ ∃ b ∈ births, r.SameOrigin b.record
  marked : ∀ id r, store.find? id = some r → r.Marked

namespace Census

variable {births : List Birth} {store : Store} {b : Birth}

theorem empty : Census [] .empty where
  size := rfl
  kept _ h := nomatch h
  born _ _ h := nomatch h
  marked _ _ h := nomatch h

theorem put (h : Census births store) (hfree : store.find? b.record.id = none)
    (hmarked : b.record.Marked) : Census (births ++ [b]) (store.put b.record) where
  size := by
    show (store.records.insert b.record.id b.record).size = _
    rw [Dict.size_insert, show store.records.get? b.record.id = none from hfree, List.length_append,
      ← h.size]
    rfl
  kept b' hb' := by
    rw [Store.find?_put]
    rcases List.mem_append.1 hb' with hb' | hb'
    · obtain ⟨r, hr, horigin⟩ := h.kept b' hb'
      have hne : b'.record.id ≠ b.record.id := by
        intro heq
        rw [heq, hfree] at hr
        cases hr
      exact ⟨r, by rw [if_neg hne, hr], horigin⟩
    · rw [List.mem_singleton.1 hb']
      exact ⟨b.record, if_pos rfl, .refl _⟩
  born id r hr := by
    rw [Store.find?_put] at hr
    by_cases hid : id = b.record.id
    · rw [if_pos hid] at hr
      cases hr
      exact ⟨hid.symm, b, by simp, .refl _⟩
    · rw [if_neg hid] at hr
      obtain ⟨hkey, b', hb', horigin⟩ := h.born id r hr
      exact ⟨hkey, b', List.mem_append_left _ hb', horigin⟩
  marked id r hr := by
    rw [Store.find?_put] at hr
    by_cases hid : id = b.record.id
    · rw [if_pos hid] at hr
      cases hr
      exact hmarked
    · rw [if_neg hid] at hr
      exact h.marked id r hr

theorem revise {id : Uuid} {before after : Record} (h : Census births store)
    (hfound : store.find? id = some before) (hrevised : before.Revised after) :
    Census births ⟨store.records.insert id after⟩ where
  size := by
    show (store.records.insert id after).size = _
    rw [Dict.size_insert, show store.records.get? id = some before from hfound]
    exact h.size
  kept b hb := by
    obtain ⟨r, hr, horigin⟩ := h.kept b hb
    rw [Store.find?_insert]
    by_cases hid : b.record.id = id
    · obtain rfl : before = r := Option.some.inj (hfound.symm.trans (hid ▸ hr))
      exact ⟨after, if_pos hid, hrevised.sameOrigin.trans horigin⟩
    · exact ⟨r, by rw [if_neg hid, hr], horigin⟩
  born id' r hr := by
    rw [Store.find?_insert] at hr
    by_cases hid : id' = id
    · rw [if_pos hid] at hr
      cases hr
      obtain ⟨hkey, b, hb, horigin⟩ := h.born id before hfound
      have hsame := hrevised.sameOrigin
      exact ⟨(hsame.id.trans hkey).trans hid.symm, b, hb, hsame.trans horigin⟩
    · rw [if_neg hid] at hr
      exact h.born id' r hr
  marked id' r hr := by
    rw [Store.find?_insert] at hr
    by_cases hid : id' = id
    · rw [if_pos hid] at hr
      cases hr
      exact hrevised.marked (h.marked id before hfound)
    · rw [if_neg hid] at hr
      exact h.marked id' r hr

/-- A step keeps the census, with the birth that it makes. -/
theorem step {w : World} (h : Census births w.store) (s : Service) (event : Event) :
    Census (births ++ (w.birth? event).toList) (w.step s event).store := by
  have hturns := w.turns_step s event
  generalize (w.step s event).store = after at hturns ⊢
  cases hturns with
  | idle hbirth => simpa [hbirth] using h
  | @born b hbirth hfree =>
    rw [hbirth]
    obtain ⟨c, entity, draft, e, hbears⟩ := World.exists_bears hbirth
    exact h.put hfree (by rw [hbears.record]; exact Record.marked_draft ..)
  | revised hbirth hfound hrevised =>
    rw [hbirth, Option.toList_none, List.append_nil]
    exact h.revise hfound hrevised

theorem run {w : World} (h : Census births w.store) (s : Service) (events : List Event) :
    Census (births ++ w.births s events) (w.run s events).store := by
  induction events generalizing w births with
  | nil => rwa [World.births, List.append_nil]
  | cons event rest ih =>
    rw [World.births, ← List.append_assoc]
    exact ih (h.step s event)

end Census

/-! ## Creations -/

/-- A list counted by the places of what it holds. -/
theorem List.countP_eq_length_places {α : Type} (p : α → Bool) (l : List α) :
    l.countP p = ((List.range l.length).filter fun i => l[i]?.any p).length := by
  induction l using List.reverseRecOn with
  | nil => rfl
  | append_singleton l a ih =>
    have hearlier : (List.range l.length).filter (fun i => (l ++ [a])[i]?.any p) =
        (List.range l.length).filter fun i => l[i]?.any p := by
      refine List.filter_congr fun i hi => ?_
      rw [List.getElem?_append_left (List.mem_range.1 hi)]
    rw [List.countP_append, ih, List.length_append, List.length_singleton, List.range_succ,
      List.filter_append, hearlier, List.length_append]
    by_cases ha : p a <;> simp [ha]

/-- Whether a call is a creation that has ended well. -/
def Progress.hasCreated (c : Progress) : Bool :=
  c.request.operation.effect == .creates && match c.rest with
    | .done (.ok _) => true
    | _ => false

theorem Progress.hasCreated_iff (c : Progress) : c.hasCreated = true ↔
    c.request.operation.effect = .creates ∧ ∃ reply, c.rest = .done (.ok reply) := by
  unfold hasCreated
  rw [Bool.and_eq_true, beq_iff_eq]
  refine and_congr_right fun _ => ?_
  split
  · rename_i reply hrest
    simp [hrest]
  · rename_i hrest
    simpa using fun reply => hrest reply

theorem ServiceRequest.Makes.create_draft {s : Service} {q : ServiceRequest} {entity entity' : Entity}
    {access : Access} {draft : Draft} (h : q.Makes s entity access (.create entity' draft)) :
    q.operation.effect = .creates ∧ draft.tenant = q.ctx.tenant ∧ draft.author = q.ctx.user ∧
      entity' = entity := by
  cases h with
  | create operation => exact ⟨by rw [operation]; rfl, rfl, rfl, rfl⟩

/-- The call of a birth: the creation of a caller, which from now on only reports and ends well. -/
structure Creation (w : World) (b : Birth) (c : Progress) : Prop where
  call : w.calls[b.call]? = some c
  creates : c.request.operation.effect = .creates
  reports : ∃ ds, c.rest.Reports ds
  tenant : b.record.tenant = c.request.ctx.tenant
  author : b.record.createdBy = c.request.ctx.user

theorem Creation.step {w : World} {b : Birth} {c : Progress} (h : Creation w b c) (s : Service)
    (event : Event) : ∃ c', Creation (w.step s event) b c' := by
  obtain ⟨c', hc', hrequest, hrest⟩ := World.exists_call_step (s := s) h.call event
  obtain ⟨ds, hreports⟩ := h.reports
  exact ⟨c', hc', by rw [hrequest, h.creates], by rw [hrest]; exact hreports.resume _,
    by rw [hrequest, h.tenant], by rw [hrequest, h.author]⟩

/-- The births and their calls: each birth has a call, and no two have the same. -/
structure Staffed (births : List Birth) (w : World) : Prop where
  creation : ∀ b ∈ births, ∃ c, Creation w b c
  distinct : (births.map (·.call)).Nodup

namespace World

variable {s : Service} {w : World} {store : Store} {events : List Event} {event : Event} {b : Birth}
  {c : Progress}

/-- A call in a run that is about to create a record. -/
theorem about_to_create {i : Nat} {entity : Entity} {draft : Draft}
    {next : Demand.Answer (.create entity draft) → Call ServiceReply}
    (hc : ((quiet store).run s events).calls[i]? = some c)
    (hrest : c.rest = .ask (.create entity draft) next) :
    c.request.operation.effect = .creates ∧ draft.tenant = c.request.ctx.tenant ∧
      draft.author = c.request.ctx.user ∧ ∀ r, ∃ ds, (next (.ok r)).Reports ds := by
  have hsound : c.Sound s := (sound_quiet store).run events c (List.mem_of_getElem? hc)
  rcases hsound.demand hrest with haccess | ⟨access, entity', -, hfind, hmakes⟩
  · cases haccess
  obtain ⟨hcreates, htenant, hauthor, rfl⟩ := hmakes.create_draft
  refine ⟨hcreates, htenant, hauthor, fun r => ?_⟩
  -- the call has come to its creation, so it is neither past it nor bound to fail
  have hresumed := (c.request.call_owes s hfind).resume hcreates ((quiet store).moments s i events)
  rw [← rest_eq_resume hc, hrest] at hresumed
  rcases hresumed with howes | ⟨ds, hreports⟩ | hfails
  · cases howes with
    | ask silent => exact silent.elim
    | create _ created => exact ⟨_, created r⟩
  · cases hreports with
    | tell tells => cases tells
  · exact hfails.demand.elim

/-- A step that bears a record is the step of a creation that now ends well. -/
theorem Bears.creation {entity : Entity} {draft : Draft} {e : Surroundings}
    (h : ((quiet store).run s events).Bears event b c entity draft e) :
    ∃ c', Creation (((quiet store).run s events).step s event) b c' := by
  obtain ⟨next, hrest⟩ := h.asks
  obtain ⟨hcreates, htenant, hauthor, hreports⟩ := about_to_create h.call hrest
  obtain ⟨c', hc', hrequest, hrest'⟩ := exists_call_step (s := s) h.call event
  refine ⟨c', hc', by rw [hrequest, hcreates], ?_, by rw [hrequest, h.record]; exact htenant,
    by rw [hrequest, h.record]; exact hauthor⟩
  have hlt := (List.getElem?_eq_some_iff.1 h.call).1
  have hanswer : Moment.answer ⟨e, ((quiet store).run s events).store⟩ (.create entity draft) =
      .ok (draft.record e.newId e.time) := by
    rcases e.create_cases ((quiet store).run s events).store draft with ⟨-, hcreate⟩ | ⟨htaken, -⟩
    · rw [Moment.answer, Surroundings.answer, hcreate]
    · rw [h.free] at htaken
      cases htaken
  rw [hrest', h.event, moment?, if_pos ⟨rfl, hlt⟩, hrest]
  show ∃ ds, ((next (Moment.answer _ _)).resume []).Reports ds
  rw [hanswer, Call.resume_nil]
  exact hreports _

/-- Whoever is about to create has not created yet. -/
theorem Bears.ne_call {entity : Entity} {draft : Draft} {e : Surroundings} {b' : Birth}
    {c' : Progress} (h : w.Bears event b c entity draft e) (h' : Creation w b' c') :
    b'.call ≠ b.call := by
  intro heq
  obtain ⟨next, hrest⟩ := h.asks
  obtain rfl : c = c' := Option.some.inj (h.call.symm.trans (heq ▸ h'.call))
  obtain ⟨ds, hreports⟩ := h'.reports
  rw [hrest] at hreports
  cases hreports with
  | tell tells => cases tells

theorem staffed_step
    (h : Staffed ((quiet store).births s events) ((quiet store).run s events)) (event : Event) :
    Staffed ((quiet store).births s (events ++ [event])) ((quiet store).run s (events ++ [event])) := by
  rw [births_append, run_append]
  show Staffed (_ ++ ((((quiet store).run s events).birth? event).toList ++ []))
    (((quiet store).run s events).step s event)
  rw [List.append_nil]
  have hearlier : ∀ b ∈ (quiet store).births s events,
      ∃ c, Creation (((quiet store).run s events).step s event) b c := by
    intro b hb
    obtain ⟨c, hc⟩ := h.creation b hb
    exact hc.step s event
  cases hbirth : ((quiet store).run s events).birth? event with
  | none => exact ⟨by simpa using hearlier, by simpa using h.distinct⟩
  | some b =>
    obtain ⟨c, entity, draft, e, hbears⟩ := exists_bears hbirth
    refine ⟨fun b' hb' => ?_, ?_⟩
    · rcases List.mem_append.1 hb' with hb' | hb'
      · exact hearlier b' hb'
      · obtain rfl : b = b' := Option.some.inj (Option.mem_toList.1 hb')
        exact hbears.creation
    · rw [List.map_append, Option.toList_some, List.map_singleton]
      refine List.nodup_append.2 ⟨h.distinct, List.nodup_singleton _, fun i hi j hj => ?_⟩
      obtain ⟨b', hb', rfl⟩ := List.mem_map.1 hi
      rw [List.mem_singleton.1 hj]
      obtain ⟨c', hc'⟩ := h.creation b' hb'
      exact hbears.ne_call hc'

/-- **Births and creations belong together**, in every run. -/
theorem staffed_run (s : Service) (store : Store) (events : List Event) :
    Staffed ((quiet store).births s events) ((quiet store).run s events) := by
  induction events using List.reverseRecOn with
  | nil => exact ⟨by simp [births], List.nodup_nil⟩
  | append_singleton events event ih => exact staffed_step ih event

/-- A creation that has ended well has borne a record. -/
theorem exists_birth {i : Nat} {reply : ServiceReply}
    (hc : ((quiet store).run s events).calls[i]? = some c)
    (hcreates : c.request.operation.effect = .creates) (hdone : c.rest = .done (.ok reply)) :
    ∃ b ∈ (quiet store).births s events, b.call = i := by
  rw [rest_eq_resume hc] at hdone
  cases hfind : s.schema.find c.request.entity with
  | error error =>
    rw [c.request.call_unknown s hfind, Call.resume_done] at hdone
    cases hdone
  | ok entity =>
    obtain ⟨draft, m, r, hasks, hanswer⟩ :=
      (c.request.call_owes s hfind).exists_create hcreates hdone
    obtain ⟨pre, e, post, c', next, rfl, rfl, hc', -, hrest⟩ := exists_step_of_asksAt hc hasks
    refine ⟨⟨i, r⟩, ?_, rfl⟩
    have hbirth : ((quiet store).run s pre).birth? (.proceed i e) = some ⟨i, r⟩ := by
      rw [Moment.answer, Surroundings.answer] at hanswer
      simp [birth?, hc', hrest, Call.taken?, hanswer, Except.toOption]
    rw [births_append, births, hbirth]
    simp

theorem births_length (store : Store)
    (hsettled : ∀ c ∈ ((quiet store).run s events).calls,
      c.request.operation.effect = .creates → ∃ result, c.rest = .done result) :
    ((quiet store).births s events).length =
      ((quiet store).run s events).calls.countP (·.hasCreated) := by
  have hstaffed := staffed_run s store events
  rw [List.countP_eq_length_places, ← List.length_map]
  refine List.Perm.length_eq ((List.perm_ext_iff_of_nodup hstaffed.distinct
    (List.nodup_range.filter _)).2 fun i => ?_)
  rw [List.mem_map, List.mem_filter, List.mem_range]
  constructor
  · rintro ⟨b, hb, rfl⟩
    obtain ⟨c, hc⟩ := hstaffed.creation b hb
    refine ⟨(List.getElem?_eq_some_iff.1 hc.call).1, ?_⟩
    obtain ⟨result, hresult⟩ := hsettled c (List.mem_of_getElem? hc.call) hc.creates
    obtain ⟨ds, hreports⟩ := hc.reports
    rw [hresult] at hreports
    cases hreports
    simp [hc.call, Progress.hasCreated, hc.creates, hresult]
  · rintro ⟨-, hcreated⟩
    obtain ⟨c, hc, hcreated⟩ := (Option.any_eq_true ..).1 hcreated
    obtain ⟨hcreates, reply, hdone⟩ := c.hasCreated_iff.1 hcreated
    exact exists_birth hc hcreates hdone

end World

end Dossier
