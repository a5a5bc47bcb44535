import Dossier.Proofs.TypedStore

/-!
# Where stored values come from

No value comes into a store but through a payload: in a store that came about through the service, each
value of a record is what its field made of a member of a payload that some request sent for the entity of
the record (`Field.Made`). If the field is required, this member was not blank.

**Requests.** The requests that a world has seen are those of its calls; they are those that arrived
(`World.requests_run`), and none is ever forgotten.

Main result: `World.run_stores_sent_values`.
-/

namespace Dossier

/-! ## What requests send -/

def ServiceOperation.payload? : ServiceOperation → Option Json
  | .create payload => some payload
  | .update _ payload => some payload
  | .get _ | .list _ | .delete _ | .restore _ => none

def ServiceRequest.Sends (q : ServiceRequest) (name : String) (raw : Json) : Prop :=
  ∃ members, q.operation.payload? = some (.object members) ∧ Entries.get? name members = some raw

/-- A field of an entity made a value out of what one of some requests sent for it. -/
structure Field.Made (s : Service) (requests : List ServiceRequest) (entity : Entity) (f : Field)
    (v : Value) (q : ServiceRequest) (raw : Json) : Prop where
  asked : q ∈ requests
  find : s.schema.find q.entity = .ok entity
  sends : q.Sends f.name raw
  converts : f.convert raw = .ok (some v)
  present : f.required = true → raw.isBlank = false

/-- Each value of a record was made by its field out of what one of some requests sent. -/
def Record.Drawn (s : Service) (requests : List ServiceRequest) (r : Record) : Prop :=
  ∀ entity, s.schema.find r.entity = .ok entity → ∀ f ∈ entity.fields, ∀ v,
    r.data.get? f.name = some v → ∃ q raw, f.Made s requests entity v q raw

variable {s : Service} {seen more : List ServiceRequest}

theorem Record.Drawn.mono {r : Record} (h : r.Drawn s seen) (hsubset : seen ⊆ more) :
    r.Drawn s more := by
  intro entity hfind f hf v hv
  obtain ⟨q, raw, hmade⟩ := h entity hfind f hf v hv
  exact ⟨q, raw, { hmade with asked := hsubset hmade.asked }⟩

/-- What a payload asks for is made out of what it sends. -/
theorem Gathered.made {members : List (String × Json)} {entity : Entity} {changes : Changes}
    (h : Gathered members entity.fields changes) (hs : entity.Sound) {q : ServiceRequest}
    (hq : q ∈ seen) (hfind : s.schema.find q.entity = .ok entity)
    (hpayload : q.operation.payload? = some (.object members)) {f : Field} (hf : f ∈ entity.fields)
    {v : Value} (hv : changes.get? f.name = some (some v)) :
    ∃ q raw, f.Made s seen entity v q raw := by
  obtain ⟨g, hg, hname, raw, hraw, hconverts, hpresent⟩ := h.sound hv
  obtain rfl : g = f := hs.eq_of_name hg hf hname
  exact ⟨q, raw, hq, hfind, ⟨members, hpayload, hraw⟩, hconverts, hpresent⟩

/-! ## Stores -/

/-- A change of a request leaves records whose values were sent, by it or before it. -/
theorem ServiceRequest.Changes.drawn {q : ServiceRequest} {access : Access} {e : Surroundings}
    {store after : Store} (h : q.Changes s access e store after) (hs : s.schema.Registered)
    (hq : q ∈ seen) (hdrawn : ∀ id r, store.find? id = some r → r.Drawn s seen) (id : Uuid)
    (r : Record) (hr : after.find? id = some r) : r.Drawn s seen := by
  cases h with
  | @create entity draft hfind hmakes hfree =>
    rw [Store.find?_put] at hr
    split at hr
    · cases hr
      cases hmakes with
      | @create payload members changes hoperation hsubmits hrequired =>
        intro entity' hfind' f hf v hv
        obtain rfl : entity = entity' := by
          have hname := hs.find_name hfind
          exact Except.ok.inj (hname.symm.trans hfind')
        rw [show (Draft.record _ e.newId e.time).data.get? f.name = changes.values.get? f.name from rfl,
          Changes.get?_values, Option.join_eq_some_iff] at hv
        refine hsubmits.gathered.made (hs.sound hfind).2 hq hfind ?_ hf hv
        rw [hoperation, ← hsubmits.object]
        rfl
    · exact hdrawn id r hr
  | @write entity id' guard w actor before hfind hmakes hfound hguard =>
    rw [Store.find?_insert] at hr
    split at hr
    · cases hr
      have hbefore := hdrawn id' before hfound
      cases hmakes with
      | @write _ forced _ _ hwrites =>
        cases w with
        | delete => exact hbefore
        | restore => exact hbefore
        | update changes =>
          obtain ⟨text, payload, members, hoperation, hsubmits⟩ := hwrites
          intro entity' hfind' f hf v hv
          obtain rfl : entity = entity' := by
            have hname := hs.find_name hfind
            rw [← (Store.concerns_iff.1 hguard).1] at hname
            exact Except.ok.inj (hname.symm.trans hfind')
          change (before.update changes _).data.get? f.name = some v at hv
          rw [Record.get?_update] at hv
          cases hchange : changes.get? f.name with
          | none =>
            rw [hchange] at hv
            exact hbefore entity hfind' f hf v hv
          | some change =>
            rw [hchange] at hv
            cases hv
            refine hsubmits.gathered.made (hs.sound hfind).2 hq hfind ?_ hf hchange
            rw [hoperation, ← hsubmits.object]
            rfl
    · exact hdrawn id r hr

/-! ## Runs -/

def Event.request? : Event → Option ServiceRequest
  | .arrive q => some q
  | .proceed .. | .approval .. => none

namespace World

variable {w : World}

def requests (w : World) : List ServiceRequest := w.calls.map (·.request)

theorem request_proceed (c : Progress) (e : Surroundings) (store : Store) :
    (c.proceed e store).1.request = c.request := by
  unfold Progress.proceed
  split <;> rfl

theorem requests_step (s : Service) (w : World) (event : Event) :
    (w.step s event).requests = w.requests ++ event.request?.toList := by
  cases event with
  | arrive q => simp [requests, step, Event.request?, Progress.start]
  | approval entity id state => simp [requests, step, Event.request?]
  | proceed i e =>
    show (w.proceed i e).requests = w.requests ++ []
    rw [List.append_nil]
    unfold World.proceed
    split
    · next c hc =>
      obtain ⟨hi, rfl⟩ := List.getElem?_eq_some_iff.1 hc
      show (w.calls.set i _).map Progress.request = w.calls.map Progress.request
      have hlt : i < (w.calls.map Progress.request).length := by rwa [List.length_map]
      have hrequest : (w.calls.map Progress.request)[i] = w.calls[i].request := List.getElem_map ..
      rw [List.map_set, request_proceed, ← hrequest, List.set_getElem_self]
    · rfl

theorem requests_run (s : Service) (w : World) (events : List Event) :
    (w.run s events).requests = w.requests ++ events.filterMap Event.request? := by
  induction events generalizing w with
  | nil => exact (List.append_nil _).symm
  | cons event rest ih =>
    show ((w.step s event).run s rest).requests = _
    rw [ih, requests_step, List.append_assoc, List.filterMap_cons]
    cases event.request? <;> rfl

/-- Every value in the store was made out of what a request sent. -/
def Drawn (s : Service) (w : World) : Prop :=
  ∀ id r, w.store.find? id = some r → r.Drawn s w.requests

theorem Sound.step_drawn (h : w.Sound s) (hs : s.schema.Registered) (hdrawn : w.Drawn s)
    (event : Event) : (w.step s event).Drawn s := by
  have hmore : w.requests ⊆ (w.step s event).requests := by
    rw [requests_step]
    exact List.subset_append_left ..
  intro id r hr
  cases event with
  | arrive q => exact (hdrawn id r hr).mono hmore
  | approval entity id' state =>
    change (w.store.setApproval entity id' state).2.find? id = some r at hr
    unfold Store.setApproval at hr
    rcases w.store.change_cases entity id' .always fun r => r.withApproval state with
      ⟨before, hfound, -, hchange⟩ | ⟨-, hchange⟩
    · rw [hchange, Store.find?_insert] at hr
      split at hr
      · cases hr
        exact hdrawn id' before hfound
      · exact hdrawn id r hr
    · rw [hchange] at hr
      exact hdrawn id r hr
  | proceed i e =>
    change (w.proceed i e).store.find? id = some r at hr
    unfold World.proceed at hr
    split at hr
    · next c hc =>
      have hmem : c ∈ w.calls := List.mem_of_getElem? hc
      refine Record.Drawn.mono ?_ hmore
      rcases (h c hmem).proceed_store e w.store with hsame | ⟨access, -, hchanges⟩
      · change (c.proceed e w.store).2.find? id = some r at hr
        rw [hsame] at hr
        exact hdrawn id r hr
      · exact hchanges.drawn hs (List.mem_map_of_mem hmem) hdrawn id r hr
    · exact (hdrawn id r hr).mono hmore

theorem Sound.run_drawn (h : w.Sound s) (hs : s.schema.Registered) (hdrawn : w.Drawn s)
    (events : List Event) : (w.run s events).Drawn s :=
  h.run_keeps hdrawn (fun _ h hdrawn event => h.step_drawn hs hdrawn event) events

theorem mem_requests {events : List Event} {q : ServiceRequest} :
    q ∈ events.filterMap Event.request? ↔ .arrive q ∈ events := by
  rw [List.mem_filterMap]
  constructor
  · rintro ⟨event, hmem, hrequest⟩
    cases event <;> cases hrequest
    exact hmem
  · exact fun hmem => ⟨.arrive q, hmem, rfl⟩

/-- **Whatever is asked of a service, every value it stores was sent**: it is what its field makes of a
member of the payload of a request that arrived for the entity of the record, and of one that is not blank
where the field is required. -/
theorem run_stores_sent_values (hs : s.schema.Registered) (events : List Event) {id : Uuid} {r : Record}
    (hr : ((quiet .empty).run s events).store.find? id = some r) {entity : Entity}
    (hfind : s.schema.find r.entity = .ok entity) {f : Field} (hf : f ∈ entity.fields) {v : Value}
    (hv : r.data.get? f.name = some v) :
    ∃ q raw, f.Made s (events.filterMap Event.request?) entity v q raw := by
  have hempty : (quiet .empty).Drawn s := fun _ _ h => nomatch h
  have hdrawn := (sound_quiet .empty).run_drawn hs hempty events id r hr
  rw [requests_run] at hdrawn
  exact hdrawn entity hfind f hf v hv

end World

end Dossier
