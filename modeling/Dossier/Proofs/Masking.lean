import Dossier.Proofs.Interleaving
import Dossier.Proofs.Listing
import Dossier.Proofs.Union

/-!
# Replies show only what the caller may read

Every object in a reply went through the caller's mask for reading last, whatever the store held, what
references were resolved to, and what other calls did in between. A mask lets through the system fields
and the declared fields that some role lets the caller read (`Access.Reads`); it knows no other keys.

**One call** (`call_enters_masked`). Each of the six operations ends in a reply as `ServiceRequest.Shows`
says. Operations that read need the permission to; a deletion or a restoration is told with nothing but
the identifier and the mark to those who may not read.

**A run** (`Progress.Masked`). This is kept from step to step, whichever calls go on.

Main result: `replies_masked`.
-/

namespace Dossier

/-! ## What may be shown -/

/-- A role that allows reading an entity gives at least `read_only` access to a field, which is to say
that the greatest access of all such roles is one for reading. -/
def Access.Reads (a : Access) (entity field : String) : Prop :=
  ∃ p, a.Allows entity .read p ∧ (p.access field).canRead = true

/-- An object that has, beside system fields, only declared fields that the caller may read. -/
def Json.IsReadable (access : Access) (entity : Entity) (shown : Json) : Prop :=
  ∃ members, shown = .object members ∧ ∀ m ∈ members,
    isSystemField m.1 = true ∨ ∃ f ∈ entity.fields, f.name = m.1 ∧ access.Reads entity.name f.name

def ServiceReply.objects : ServiceReply → List Json
  | .object shown => [shown]
  | .page p => p.rows

/-- What the reply to a request shows of an entity. -/
structure ServiceRequest.Shows (q : ServiceRequest) (entity : Entity) (access : Access)
    (reply : ServiceReply) : Prop where
  readable : ∀ shown ∈ reply.objects, shown.IsReadable access entity
  /-- Without leave to read, only deletions and restorations end well, and show nothing of the data. -/
  unread : (∀ p, ¬ access.Allows entity.name .read p) →
    (∃ id, q.operation = .delete id ∨ q.operation = .restore id) ∧
      ∃ deleted id, reply = .object (.object [("deleted", deleted), ("id", id)])

/-! ## Masks -/

section Masks

variable {access : Access} {entity : Entity} {mask : FieldMask}

/-- A mask can be had by those who may read the entity. -/
theorem Access.exists_allows_of_readMask (h : access.readMask entity = .ok mask) :
    ∃ p, access.Allows entity.name .read p := by
  by_contra hnone
  have hdenied : access.authorize entity.name .read = .error (.actionDenied .read entity.name) :=
    Access.authorize_eq_error.2 ⟨rfl, fun p hp => hnone ⟨p, hp⟩⟩
  rw [Access.readMask, hdenied] at h
  cases h

/-- **A mask lets through declared fields only**, and of these what some role lets be read. -/
theorem Access.reads_of_canRead (h : access.readMask entity = .ok mask) {key : String}
    (hkey : mask.canRead key = true) :
    ∃ f ∈ entity.fields, f.name = key ∧ access.Reads entity.name f.name := by
  cases hauth : access.authorize entity.name .read with
  | error fault =>
    rw [Access.readMask, hauth] at h
    cases h
  | ok permission =>
    rw [Access.readMask, hauth] at h
    cases h
    obtain ⟨given, hgiven⟩ : ∃ given,
        (FieldMask.ofPermission entity permission).fields.get? key = some given := by
      rw [← Option.isSome_iff_exists, Option.isSome_iff_ne_none]
      intro hnone
      rw [FieldMask.canRead, FieldMask.access, hnone] at hkey
      cases hkey
    obtain ⟨f, hf, rfl⟩ := FieldMask.exists_field_of_get? hgiven
    refine ⟨f, hf, rfl, ?_⟩
    obtain ⟨hne, -, -, hrules⟩ := Permission.union_eq_some (Access.authorize_eq_ok.1 hauth)
    obtain ⟨p, hp, hgreatest⟩ := Permission.exists_access_eq_unionAccess hne f.name
    refine ⟨p, Access.mem_allowing.1 hp, ?_⟩
    rwa [hgreatest, ← Permission.access_unionRules hne hrules, ← FieldMask.access_ofPermission hf]

/-- Whatever has been worked out for a record, what is shown of it is readable. -/
theorem Service.isReadable_shown (h : access.readMask entity = .ok mask)
    (members : List (String × Json)) : (Service.shown mask members).IsReadable access entity := by
  refine ⟨_, rfl, fun m hm => ?_⟩
  obtain ⟨-, hlet⟩ := List.mem_filter.1 hm
  exact (Bool.or_eq_true_iff.1 hlet).imp_right (Access.reads_of_canRead h)

end Masks

/-! ## Operations -/

namespace ServiceRequest

open Service

variable {s : Service} {q : ServiceRequest} {α : Type}

/-- A call that has entered and ends, if it ends well, with a result of some kind. -/
def Yields (s : Service) (q : ServiceRequest) (T : Entity → Access → α → Prop) (access : Access)
    (c : Call α) : Prop :=
  ∃ entity, s.schema.find q.entity = .ok entity ∧ c.Obeys (fun _ => True) (WhenOk (T entity access))

/-- Objects for callers who may read the entity. -/
def ShowsReaders (objects : α → List Json) (entity : Entity) (access : Access) (result : α) : Prop :=
  (∃ p, access.Allows entity.name .read p) ∧ ∀ shown ∈ objects result, shown.IsReadable access entity

theorem Yields.shows {objects : α → List Json} {f : α → ServiceReply} {access : Access} {c : Call α}
    (h : q.Yields s (ShowsReaders objects) access c) (hf : ∀ a, (f a).objects = objects a) :
    q.Yields s q.Shows access (do return f (← c)) := by
  obtain ⟨entity, hfind, hobeys⟩ := h
  refine ⟨entity, hfind, hobeys.bind' fun a ⟨⟨p, hp⟩, hreadable⟩ => Call.obeys_pure ?_⟩
  exact ⟨by rwa [hf], fun hnone => absurd hp (hnone p)⟩

theorem create_shows (payload : Json) :
    (s.create q.ctx q.entity payload).Enters q.ctx.toCaller
      (q.Yields s (ShowsReaders fun shown => [shown])) := by
  refine enter_enters fun entity access hfind => ⟨entity, hfind, ?_⟩
  refine Call.obeys_done_bind' fun permission _ => Call.obeys_done_bind' fun mask hmask => ?_
  refine (newData_obeys (fun _ _ _ _ => trivial) _ entity payload).bind' fun data _ => ?_
  refine Call.obeys_approval_bind trivial fun state => ?_
  refine Call.obeys_store_bind trivial fun created => ?_
  refine Call.obeys_demand_bind trivial fun _ => Call.obeys_demand_bind trivial fun _ => ?_
  refine Call.obeys_pure ⟨Access.exists_allows_of_readMask hmask, ?_⟩
  exact List.forall_mem_singleton.2 (isReadable_shown hmask created.members)

theorem get_shows (text : String) :
    (s.get q.ctx q.entity text).Enters q.ctx.toCaller
      (q.Yields s (ShowsReaders fun shown => [shown])) := by
  refine enter_enters fun entity access hfind => ⟨entity, hfind, ?_⟩
  refine Call.obeys_done_bind' fun forced _ => Call.obeys_done_bind' fun mask hmask => ?_
  refine Call.obeys_done_bind' fun id _ => (fetchOne_obeys trivial).bind' fun r _ => ?_
  have hreads : ReadsReferences s q.ctx fun _ => True := ⟨fun _ _ _ _ => trivial, fun _ => trivial⟩
  refine (populate_obeys hreads entity [r]).whenOk.bind' fun views _ => ?_
  refine Call.obeys_pure ⟨Access.exists_allows_of_readMask hmask, ?_⟩
  exact List.forall_mem_singleton.2 (isReadable_shown hmask _)

theorem list_shows (request : ListRequest) :
    (s.list q.ctx q.entity request).Enters q.ctx.toCaller (q.Yields s (ShowsReaders Page.rows)) := by
  refine enter_enters fun entity access hfind => ⟨entity, hfind, ?_⟩
  refine Call.obeys_done_bind' fun ⟨mask, query⟩ hquery => ?_
  obtain ⟨permission, _, _, _, hauth, -, -, -, -, rfl, -⟩ := listQuery_ok hquery
  have hmask : access.readMask entity = .ok (.ofPermission entity permission) := by
    rw [Access.readMask, hauth]
    rfl
  refine Call.obeys_store_bind trivial fun total => Call.obeys_store_bind trivial fun records => ?_
  have hreads : ReadsReferences s q.ctx fun _ => True := ⟨fun _ _ _ _ => trivial, fun _ => trivial⟩
  refine (populate_obeys hreads entity records).whenOk.bind' fun views _ => ?_
  refine Call.obeys_pure ⟨Access.exists_allows_of_readMask hmask, fun shown hshown => ?_⟩
  obtain ⟨v, -, rfl⟩ := List.mem_map.1 hshown
  exact isReadable_shown hmask v.members

theorem update_shows (text : String) (payload : Json) :
    (s.update q.ctx q.entity text payload).Enters q.ctx.toCaller
      (q.Yields s (ShowsReaders fun shown => [shown])) := by
  refine enter_enters fun entity access hfind => ⟨entity, hfind, ?_⟩
  refine Call.obeys_done_bind' fun permission _ => Call.obeys_done_bind' fun forced _ => ?_
  refine Call.obeys_done_bind' fun mask hmask => Call.obeys_done_bind' fun id _ => ?_
  refine (fetchUnlocked_obeys trivial).bind' fun before _ => ?_
  refine Call.obeys_done_bind' fun members _ => ?_
  refine (gather_obeys (P := fun _ => True) (fun _ _ _ _ => trivial) members entity.fields [] ∅
    .nil).bind' fun changes _ => ?_
  refine (commit_obeys trivial trivial).bind' fun after _ => ?_
  refine Call.obeys_demand_bind trivial fun _ => Call.obeys_demand_bind trivial fun _ => ?_
  refine Call.obeys_pure ⟨Access.exists_allows_of_readMask hmask, ?_⟩
  exact List.forall_mem_singleton.2 (isReadable_shown hmask after.members)

/-- After a write that takes no leave to read, the record is shown to those who have it. -/
theorem shows_shownAfterWrite (access : Access) (entity : Entity) (r : Record)
    (hop : ∃ id, q.operation = .delete id ∨ q.operation = .restore id) :
    q.Shows entity access (.object (shownAfterWrite access entity r)) := by
  unfold shownAfterWrite
  cases hmask : access.readMask entity with
  | ok mask =>
    refine ⟨List.forall_mem_singleton.2 (isReadable_shown hmask r.members), fun hnone => ?_⟩
    obtain ⟨p, hp⟩ := Access.exists_allows_of_readMask hmask
    exact absurd hp (hnone p)
  | error fault =>
    refine ⟨List.forall_mem_singleton.2 ⟨_, rfl, fun m hm => .inl ?_⟩, fun _ => ⟨hop, _, _, rfl⟩⟩
    have hkeys : m ∈ [("deleted", Json.bool r.deleted), ("id", .string r.id.text)] := hm
    simp only [List.mem_cons, List.not_mem_nil, or_false] at hkeys
    rcases hkeys with rfl | rfl <;> rfl

theorem mark_shows (text : String) (deleted : Bool) (w : Write) (logged : Action)
    (hop : ∃ id, q.operation = .delete id ∨ q.operation = .restore id) :
    (s.mark q.ctx q.entity text deleted w logged).Enters q.ctx.toCaller
      (q.Yields s fun entity access shown => q.Shows entity access (.object shown)) := by
  refine enter_enters fun entity access hfind => ⟨entity, hfind, ?_⟩
  refine Call.obeys_done_bind' fun forced _ => Call.obeys_done_bind' fun id _ => ?_
  refine (fetchUnlocked_obeys trivial).bind' fun before _ => ?_
  refine (commit_obeys trivial trivial).bind' fun after _ => ?_
  refine Call.obeys_demand_bind trivial fun _ => ?_
  exact Call.obeys_pure (shows_shownAfterWrite access entity after hop)

/-- **Whatever is answered to the demands of a request, its reply shows what may be read.** -/
theorem call_enters_masked (s : Service) (q : ServiceRequest) :
    (q.call s).Enters q.ctx.toCaller (q.Yields s q.Shows) := by
  have hmark {c : Call Json}
      (h : c.Enters q.ctx.toCaller
        (q.Yields s fun entity access shown => q.Shows entity access (.object shown))) :
      (do return .object (← c) : Call ServiceReply).Enters q.ctx.toCaller (q.Yields s q.Shows) := by
    refine h.bind fun access c ⟨entity, hfind, hobeys⟩ => ⟨entity, hfind, ?_⟩
    exact hobeys.bind' fun shown hshown => Call.obeys_pure hshown
  unfold call
  split <;> rename_i hop
  · exact (create_shows _).bind fun _ _ h => h.shows fun _ => rfl
  · exact (get_shows _).bind fun _ _ h => h.shows fun _ => rfl
  · exact (list_shows _).bind fun _ _ h => h.shows fun _ => rfl
  · exact (update_shows _ _).bind fun _ _ h => h.shows fun _ => rfl
  · exact hmark (mark_shows _ _ _ _ ⟨_, .inl hop⟩)
  · exact hmark (mark_shows _ _ _ _ ⟨_, .inr hop⟩)

end ServiceRequest

/-! ## Runs -/

namespace Progress

def reply? (c : Progress) : Option ServiceReply :=
  match c.rest with
  | .done (.ok reply) => some reply
  | _ => none

/-- A call that has yet to enter, or ends in what the access that it was granted lets be read. -/
inductive Masked (s : Service) : Progress → Prop
  | outside {q : ServiceRequest} {rest : Call ServiceReply}
      (h : rest.Enters q.ctx.toCaller (q.Yields s q.Shows)) : Masked s ⟨q, none, rest⟩
  | inside {q : ServiceRequest} {access : Access} {rest : Call ServiceReply}
      (h : q.Yields s q.Shows access rest) : Masked s ⟨q, some access, rest⟩

variable {s : Service} {c : Progress}

theorem Masked.proceed (h : c.Masked s) (hsound : c.Sound s) (e : Surroundings) (store : Store) :
    (c.proceed e store).1.Masked s := by
  cases h with
  | @outside q rest h =>
    cases h with
    | refused fault => exact .outside (.refused fault)
    | @asks next ok error =>
      show Masked s ⟨q, (Demand.granted? (.access _) (e.access _)).or none, next (e.access _)⟩
      cases e.access q.ctx.toCaller with
      | ok access => exact .inside (ok access)
      | error fault =>
        rw [error]
        exact .outside (.refused fault)
  | @inside q access rest h =>
    cases rest with
    | done result => exact .inside h
    | ask d next =>
      obtain ⟨entity, hfind, hobeys⟩ := h
      cases hsound with
      | inside hproceeds =>
      obtain ⟨_, -, hmakes⟩ := hproceeds
      have hgranted : d.granted? (e.answer store d).1 = none := hmakes.demand.granted?_eq_none _
      show Masked s ⟨q, (d.granted? (e.answer store d).1).or (some access),
        next (e.answer store d).1⟩
      rw [hgranted]
      exact .inside ⟨entity, hfind, hobeys.next _⟩

theorem Masked.shows (h : c.Masked s) {reply : ServiceReply} (hreply : c.reply? = some reply) :
    ∃ access entity, c.granted = some access ∧ s.schema.find c.request.entity = .ok entity ∧
      c.request.Shows entity access reply := by
  have hdone : c.rest = .done (.ok reply) := by
    unfold reply? at hreply
    split at hreply
    · cases hreply
      assumption
    · cases hreply
  cases h with
  | outside h =>
    cases hdone
    cases h
  | @inside q access rest h =>
    cases hdone
    obtain ⟨entity, hfind, hobeys⟩ := h
    exact ⟨access, entity, rfl, hfind, hobeys.result⟩

end Progress

namespace World

variable {s : Service} {w : World}

def Masked (s : Service) (w : World) : Prop := ∀ c ∈ w.calls, c.Masked s

theorem Masked.step (h : w.Masked s) (hsound : w.Sound s) (event : Event) :
    (w.step s event).Masked s := by
  cases event with
  | arrive q =>
    intro c hc
    rcases List.mem_append.1 hc with hc | hc
    · exact h c hc
    · rw [List.mem_singleton.1 hc]
      exact .outside (q.call_enters_masked s)
  | proceed i e =>
    show (w.proceed i e).Masked s
    unfold World.proceed
    split
    · rename_i c hi
      intro c' hc'
      rcases List.mem_or_eq_of_mem_set hc' with hc' | rfl
      · exact h c' hc'
      · have hmem := List.mem_of_getElem? hi
        exact (h c hmem).proceed (hsound c hmem) e w.store
    · exact h
  | approval entity id state => exact h

theorem Masked.run (h : w.Masked s) (hsound : w.Sound s) (events : List Event) :
    (w.run s events).Masked s :=
  hsound.run_keeps h (fun _ hsound h event => h.step hsound event) events

/-- **Unreadable data never reaches a reply.**

Whatever the store holds at the beginning, and whichever calls and workflows go on in between, a call
that ends well shows objects with no other keys than system fields and those declared fields that some
role of its caller lets be read. A reference that may not be read is left out like any other field,
though it had been resolved. A caller who may not read the entity at all gets to the end of deletions
and restorations only, and is told the identifier and the mark. -/
theorem replies_masked (s : Service) (store : Store) (events : List Event) {c : Progress}
    (hc : c ∈ ((quiet store).run s events).calls) {reply : ServiceReply}
    (hreply : c.reply? = some reply) :
    ∃ access entity, c.granted = some access ∧ s.schema.find c.request.entity = .ok entity ∧
      c.request.Shows entity access reply ∧
      (s.schema.Registered → ∀ f ∈ entity.fields, ¬ access.Reads entity.name f.name →
        ∀ members, .object members ∈ reply.objects → Entries.get? f.name members = none) := by
  have hquiet : (quiet store).Masked s := fun _ hc => nomatch hc
  obtain ⟨access, entity, hgranted, hfind, hshows⟩ :=
    (hquiet.run (sound_quiet store) events c hc).shows hreply
  refine ⟨access, entity, hgranted, hfind, hshows, fun hs f hf hhidden members hmembers => ?_⟩
  obtain ⟨_, heq, hkeys⟩ := hshows.readable _ hmembers
  cases heq
  refine Entries.get?_eq_none.2 fun m hm hname => ?_
  rcases hkeys m hm with hsystem | ⟨g, -, hg, hreads⟩
  · rw [hname, (hs.sound hfind).2.notSystem f hf] at hsystem
    cases hsystem
  · rw [hg, hname] at hreads
    exact hhidden hreads

end World

/-! ## A lead -/

namespace Sample

def leads : Service := { schema := ⟨(∅ : Dict String Entity).insert lead.name lead⟩ }

theorem leads_registered : leads.schema.Registered := .register (e := lead) .empty rfl

/-- A lead with a salary, and with something that no field declares. -/
def ann : Record :=
  .create .nil "acme" lead.name ⟨"ann", .epoch⟩
    (((∅ : Dict String Value).insert "ghost" (.text "?")).insert "salary" (.bool true)
      |>.insert "name" (.text "Ann"))

/-- The lead is shown to someone of whom salaries are kept. -/
def viewing : List Event :=
  let e : Surroundings := { surroundings .nil with access := fun _ => .ok ⟨[sales]⟩ }
  [.arrive ⟨ctx, lead.name, .get Uuid.nil.text⟩, .proceed 0 e, .proceed 0 e]

theorem unread_salary : ¬ Access.Reads ⟨[sales]⟩ lead.name "salary" := by
  rintro ⟨p, hp, hread⟩
  obtain rfl := List.mem_singleton.1 (Access.mem_allowing.2 hp)
  revert hread
  decide +kernel

end Sample

open Sample in
theorem World.salary_masked : ∃ c reply,
    c ∈ ((World.quiet (Store.empty.put ann)).run leads viewing).calls ∧ c.reply? = some reply ∧
      (ann.data.get? "salary").isSome = true ∧
      ∀ members, .object members ∈ reply.objects → Entries.get? "salary" members = none := by
  have hended : (((World.quiet (Store.empty.put ann)).run leads viewing).calls[0]?.bind
      Progress.reply?).isSome = true := by
    decide +kernel
  have hcall : ((World.quiet (Store.empty.put ann)).run leads viewing).calls[0]?.map
      (fun c => (c.request.entity, c.granted)) = some (lead.name, some ⟨[sales]⟩) := rfl
  obtain ⟨reply, hended⟩ := Option.isSome_iff_exists.1 hended
  obtain ⟨c, hc, hreply⟩ := Option.bind_eq_some_iff.1 hended
  rw [hc] at hcall
  obtain ⟨hentity, hgranted⟩ := Prod.mk.inj (Option.some.inj hcall)
  have hmem := List.mem_of_getElem? hc
  obtain ⟨access, entity, haccess, hfind, -, hhidden⟩ :=
    World.replies_masked leads _ viewing hmem hreply
  rw [hgranted] at haccess
  cases haccess
  rw [hentity] at hfind
  cases hfind
  refine ⟨c, reply, hmem, hreply, by decide +kernel, ?_⟩
  exact hhidden leads_registered (.plain "salary" .number) (by decide) unread_salary

end Dossier
