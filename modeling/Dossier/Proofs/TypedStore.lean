import Dossier.Proofs.Interleaving
import Dossier.Proofs.TypedValue

/-!
# Stored data is typed

Every record in a store that came about through the service fits the entity it belongs to
(`Record.Typed`): its keys are declared, its required fields are there, and each value is of the
kind of its field.

**Changes.** What a payload asks for is typed before it is written (`Gathered.allowed`); it never
clears a required field, since what clears a field is blank. Changes that an entity allows keep
data that fits fitting (`Entity.Fits.update`), in whatever order the writes of several calls come.

Main result: `run_stores_typed_records`.
-/

namespace Dossier

/-! ## Data that fits an entity -/

/-- Data as an entity declares it. -/
structure Entity.Fits (e : Entity) (data : Dict String Value) : Prop where
  declared : ∀ name v, data.get? name = some v → ∃ f ∈ e.fields, f.name = name
  required : ∀ f ∈ e.fields, f.required = true → (data.get? f.name).isSome
  holds : ∀ f ∈ e.fields, ∀ v, data.get? f.name = some v → f.Holds v

/-- Changes that leave data fitting. -/
structure Entity.Allows (e : Entity) (changes : Changes) : Prop where
  declared : ∀ name change, changes.get? name = some change → ∃ f ∈ e.fields, f.name = name
  keeps : ∀ f ∈ e.fields, f.required = true → changes.get? f.name ≠ some none
  holds : ∀ f ∈ e.fields, ∀ v, changes.get? f.name = some (some v) → f.Holds v

/-- A record of an entity of the schema, with data as it declares. -/
def Record.Typed (schema : Schema) (r : Record) : Prop :=
  ∃ entity, schema.find r.entity = .ok entity ∧ entity.Fits r.data

theorem Entity.Sound.eq_of_name {e : Entity} (he : e.Sound) {f g : Field} (hf : f ∈ e.fields)
    (hg : g ∈ e.fields) (h : f.name = g.name) : f = g :=
  List.inj_on_of_nodup_map he.distinct hf hg h

theorem Entity.Fits.get?_eq_none {e : Entity} {data : Dict String Value} (h : e.Fits data)
    {name : String} (hname : e.find? name = none) : data.get? name = none := by
  rw [Option.eq_none_iff_forall_ne_some]
  intro v hv
  obtain ⟨f, hf, rfl⟩ := h.declared name v hv
  have hfound : (e.find? f.name).isSome := List.find?_isSome.2 ⟨f, hf, by simp⟩
  rw [hname] at hfound
  cases hfound

theorem Entity.Fits.empty {e : Entity} (h : ∀ f ∈ e.fields, f.required = false) : e.Fits ∅ where
  declared _ _ hv := nomatch hv
  required f hf hrequired := by
    rw [h f hf] at hrequired
    cases hrequired
  holds _ _ _ hv := nomatch hv

theorem Entity.Fits.insert {e : Entity} (he : e.Sound) {data : Dict String Value} (h : e.Fits data)
    {f : Field} (hf : f ∈ e.fields) {v : Value} (hv : f.Holds v) : e.Fits (data.insert f.name v) where
  declared name w hw := by
    rw [Dict.get?_insert] at hw
    split at hw
    · rename_i hname
      exact ⟨f, hf, hname.symm⟩
    · exact h.declared name w hw
  required g hg hrequired := by
    rw [Dict.get?_insert]
    split
    · rfl
    · exact h.required g hg hrequired
  holds g hg w hw := by
    rw [Dict.get?_insert] at hw
    split at hw
    · rename_i hname
      cases he.eq_of_name hg hf hname
      cases hw
      exact hv
    · exact h.holds g hg w hw

/-! ## Changes -/

/-- **What a payload asks for is allowed.** -/
theorem Gathered.allowed {members : List (String × Json)} {e : Entity} {changes : Changes}
    (he : e.Sound) (h : Gathered members e.fields changes) : e.Allows changes where
  declared name change hc := by
    obtain ⟨f, hf, hname, -⟩ := h.sound hc
    exact ⟨f, hf, hname⟩
  keeps f hf hrequired hc := by
    obtain ⟨g, hg, hname, raw, -, hconv, hblank⟩ := h.sound hc
    rw [he.eq_of_name hg hf hname] at hconv hblank
    rw [Field.isBlank_of_absent hconv] at hblank
    exact Bool.noConfusion (hblank hrequired)
  holds f hf v hc := by
    obtain ⟨g, hg, hname, raw, -, hconv, -⟩ := h.sound hc
    rw [he.eq_of_name hg hf hname] at hconv
    exact Field.convert_holds hconv

/-- New data, with something for each required field, fits. -/
theorem Gathered.fits {members : List (String × Json)} {e : Entity} {changes : Changes}
    (he : e.Sound) (h : Gathered members e.fields changes)
    (hrequired : ∀ f ∈ e.fields, f.required = true → Service.lacks members f = false) :
    e.Fits changes.values where
  declared name v hv := by
    rw [Changes.get?_values, Option.join_eq_some_iff] at hv
    exact (h.allowed he).declared name _ hv
  required f hf hreq := by
    have hmember : (Entries.get? f.name members).isSome := by
      have hlacks := hrequired f hf hreq
      unfold Service.lacks at hlacks
      cases hget : Entries.get? f.name members with
      | some raw => rfl
      | none =>
        rw [hget] at hlacks
        cases hlacks
    obtain ⟨change, hchange⟩ := Option.isSome_iff_exists.1 (h.complete f hf hmember)
    rw [Changes.get?_values, hchange]
    cases change with
    | some v => rfl
    | none => exact absurd hchange ((h.allowed he).keeps f hf hreq)
  holds f hf v hv := by
    rw [Changes.get?_values, Option.join_eq_some_iff] at hv
    exact (h.allowed he).holds f hf v hv

namespace Record

theorem get?_applyChange (data : Dict String Value) (field name : String) (change : Option Value) :
    (applyChange data field change).get? name =
      if name = field then change else data.get? name := by
  cases change with
  | some v => exact Dict.get?_insert ..
  | none => exact Dict.get?_erase ..

/-- After an update a field has its new value if there is a change for it, and else its old one. -/
theorem get?_update (r : Record) (changes : Changes) (stamp : Stamp) (name : String) :
    (r.update changes stamp).data.get? name = (changes.get? name).getD (r.data.get? name) := by
  have hs := changes.sorted
  unfold update Dict.get?
  simp only
  generalize changes.entries = entries at hs
  generalize r.data = data
  induction entries generalizing data with
  | nil => rfl
  | cons entry rest ih =>
    obtain ⟨field, change⟩ := entry
    have hrest := List.pairwise_cons.1 hs
    rw [List.foldl_cons, ih hrest.2]
    show (Entries.get? name rest).getD ((applyChange data field change).get? name) = _
    rw [get?_applyChange, Entries.get?]
    by_cases hname : name = field
    · have hlater : Entries.get? name rest = none := by
        rw [Entries.get?_eq_none]
        intro other hmem
        rw [hname]
        exact (Entries.ne_of_compare_ne (by simp [hrest.1 other hmem])).symm
      rw [if_pos hname, if_pos hname, hlater]
      rfl
    · rw [if_neg hname, if_neg hname]
      rfl

end Record

/-- **Allowed changes keep fitting data fitting.** -/
theorem Entity.Fits.update {e : Entity} {r : Record} (h : e.Fits r.data) {changes : Changes}
    (hc : e.Allows changes) (stamp : Stamp) : e.Fits (r.update changes stamp).data where
  declared name v hv := by
    rw [Record.get?_update] at hv
    cases hchange : changes.get? name with
    | some change => exact hc.declared name change hchange
    | none =>
      rw [hchange] at hv
      exact h.declared name v hv
  required f hf hreq := by
    rw [Record.get?_update]
    cases hchange : changes.get? f.name with
    | some change =>
      cases change with
      | some v => rfl
      | none => exact absurd hchange (hc.keeps f hf hreq)
    | none => exact h.required f hf hreq
  holds f hf v hv := by
    rw [Record.get?_update] at hv
    cases hchange : changes.get? f.name with
    | some change =>
      rw [hchange] at hv
      cases hv
      exact hc.holds f hf v hchange
    | none =>
      rw [hchange] at hv
      exact h.holds f hf v hv

/-! ## Typed stores -/

/-- A store whose records stand under their own identifiers and are typed. -/
structure Store.Typed (schema : Schema) (store : Store) : Prop where
  keyed : ∀ id r, store.find? id = some r → r.id = id
  typed : ∀ id r, store.find? id = some r → r.Typed schema

namespace Store.Typed

variable {schema : Schema} {store : Store}

theorem empty (schema : Schema) : Store.empty.Typed schema where
  keyed _ _ h := nomatch h
  typed _ _ h := nomatch h

theorem nodup_ids (h : store.Typed schema) : (store.records.values.map (·.id)).Nodup := by
  unfold Dict.values List.Nodup
  rw [List.pairwise_map, List.pairwise_map]
  have hkey {entry : Uuid × Record} (hmem : entry ∈ store.records.entries) : entry.2.id = entry.1 :=
    h.keyed entry.1 entry.2 (Dict.mem_entries.1 hmem)
  refine List.Pairwise.imp_of_mem (fun {a b} ha hb hab => ?_) store.records.sorted
  rw [hkey ha, hkey hb]
  exact Entries.ne_of_compare_ne (by simp [hab])

theorem insert (h : store.Typed schema) {r : Record} (hr : r.Typed schema) :
    (⟨store.records.insert r.id r⟩ : Store).Typed schema where
  keyed id r' h' := by
    rw [Store.find?_insert] at h'
    split at h'
    · cases h'
      symm
      assumption
    · exact h.keyed id r' h'
  typed id r' h' := by
    rw [Store.find?_insert] at h'
    split at h'
    · cases h'
      exact hr
    · exact h.typed id r' h'

theorem setApproval (h : store.Typed schema) (entity : Entity) (id : Uuid)
    (state : Option Approval) :
    (store.setApproval entity id state).2.Typed schema := by
  unfold Store.setApproval
  rcases store.change_cases entity id .always fun r => r.withApproval state with
    ⟨before, hfound, -, hchange⟩ | ⟨-, hchange⟩
  · rw [hchange]
    have hid := h.keyed id before hfound
    have htyped : (before.withApproval state).Typed schema := h.typed id before hfound
    subst hid
    exact h.insert htyped
  · rw [hchange]
    exact h

end Store.Typed

/-- The records of an entity that match a predicate are typed by it, and distinct. -/
theorem Store.Typed.fits_of_matching {schema : Schema} {store : Store} (hstore : store.Typed schema)
    {entity : Entity} (hfind : schema.find entity.name = .ok entity) {p : Predicate} :
    (∀ r ∈ store.matching entity p, entity.Fits r.data) ∧
      ((store.matching entity p).map (·.id)).Nodup := by
  constructor
  · intro r hr
    obtain ⟨hvalue, hconcerns⟩ := List.mem_filter.1 hr
    obtain ⟨id, hid⟩ := Store.mem_values.1 hvalue
    obtain ⟨entity', hfind', hfits⟩ := hstore.typed id r hid
    rw [(Store.concerns_iff.1 hconcerns).1, hfind] at hfind'
    cases hfind'
    exact hfits
  · exact (List.filter_sublist.map _).nodup hstore.nodup_ids

/-! ## Keyed stores -/

theorem Write.apply_id (w : Write) (stamp : Stamp) (r : Record) : (w.apply stamp r).id = r.id := by
  cases w <;> rfl

theorem Write.apply_tenant (w : Write) (stamp : Stamp) (r : Record) :
    (w.apply stamp r).tenant = r.tenant := by
  cases w <;> rfl

/-- A store whose records stand under their own identifiers. -/
def Store.Keyed (store : Store) : Prop := ∀ id r, store.find? id = some r → r.id = id

theorem Store.Keyed.empty : Store.empty.Keyed := fun _ _ h => nomatch h

theorem Store.Keyed.insert {store : Store} (hkeyed : store.Keyed) {id : Uuid} {r : Record}
    (hid : r.id = id) : (⟨store.records.insert id r⟩ : Store).Keyed := by
  intro id' r' hr'
  rw [Store.find?_insert] at hr'
  by_cases h : id' = id
  · rw [if_pos h] at hr'
    cases hr'
    exact hid.trans h.symm
  · rw [if_neg h] at hr'
    exact hkeyed id' r' hr'

theorem Store.Keyed.put {store : Store} (hkeyed : store.Keyed) (r : Record) : (store.put r).Keyed :=
  hkeyed.insert rfl

theorem Store.Keyed.setApproval {store : Store} (hkeyed : store.Keyed) (entity : Entity) (id : Uuid)
    (state : Option Approval) : (store.setApproval entity id state).2.Keyed := by
  unfold Store.setApproval
  rcases store.change_cases entity id .always (·.withApproval state) with
    ⟨before, hfind, -, h⟩ | ⟨-, h⟩ <;> rw [h]
  · exact hkeyed.insert (hkeyed id before hfind)
  · exact hkeyed

/-- Whatever is asked of it, a store stays keyed. -/
theorem Store.Keyed.answer {store : Store} (hkeyed : store.Keyed) (e : Surroundings) (d : Demand) :
    (e.answer store d).2.Keyed := by
  rcases e.answer_store store d with hsame | ⟨entity, draft, -, -, hput⟩ |
    ⟨entity, id, guard, w, actor, before, -, hbefore, -, hwritten⟩
  · rwa [hsame]
  · rw [hput]
    exact hkeyed.put _
  · rw [hwritten]
    exact hkeyed.insert ((Write.apply_id ..).trans (hkeyed id before hbefore))

theorem Store.Keyed.serve {α : Type} {store : Store} (hkeyed : store.Keyed) (e : Surroundings)
    (c : Call α) : (c.serve e store).2.Keyed := by
  induction c generalizing store with
  | done result => exact hkeyed
  | ask d next ih => exact ih _ (hkeyed.answer e d)

/-! ## Runs -/

theorem ServiceRequest.Writes.typed {schema : Schema} {q : ServiceRequest} {entity : Entity}
    {access : Access}
    {w : Write} (h : q.Writes entity access w) (he : entity.Sound) (stamp : Stamp) {before : Record}
    (hfind : schema.find before.entity = .ok entity) (hfits : entity.Fits before.data) :
    (w.apply stamp before).Typed schema := by
  cases w with
  | update changes =>
    obtain ⟨id, payload, members, -, hsubmits⟩ := h
    exact ⟨entity, hfind, hfits.update (hsubmits.gathered.allowed he) stamp⟩
  | delete => exact ⟨entity, hfind, hfits⟩
  | restore => exact ⟨entity, hfind, hfits⟩

/-- No change of a request leaves anything that is not typed. -/
theorem ServiceRequest.Changes.typed {s : Service} {q : ServiceRequest} {access : Access}
    {e : Surroundings}
    {store after : Store} (h : q.Changes s access e store after) (hs : s.schema.Registered)
    (htyped : store.Typed s.schema) : after.Typed s.schema := by
  cases h with
  | @create entity draft hfind hmakes hfree =>
    cases hmakes with
    | @create payload members changes _ hsubmits hrequired =>
      refine htyped.insert ⟨entity, hs.find_name hfind, ?_⟩
      exact hsubmits.gathered.fits (hs.sound hfind).2 hrequired
  | @write entity id guard w actor before hfind hmakes hfound hguard =>
    cases hmakes with
    | @write _ forced _ _ hwrites =>
      have hfind' : s.schema.find before.entity = .ok entity := by
        rw [(Store.concerns_iff.1 hguard).1]
        exact hs.find_name hfind
      obtain ⟨entity', hfind'', hfits⟩ := htyped.typed id before hfound
      rw [hfind'] at hfind''
      cases hfind''
      have hid := htyped.keyed id before hfound
      have hafter := htyped.insert
        (hwrites.typed (hs.sound hfind).2 ⟨q.ctx.user, e.time⟩ hfind' hfits)
      rw [Write.apply_id, hid] at hafter
      exact hafter

namespace World

variable {s : Service} {w : World}

theorem Sound.step_typed (h : w.Sound s) (hs : s.schema.Registered)
    (htyped : w.store.Typed s.schema) (event : Event) : (w.step s event).store.Typed s.schema := by
  cases event with
  | arrive q => exact htyped
  | approval entity id state => exact htyped.setApproval entity id state
  | proceed i e =>
    show (w.proceed i e).store.Typed s.schema
    unfold World.proceed
    split
    · rename_i c hi
      rcases (h c (List.mem_of_getElem? hi)).proceed_store e w.store with
        hsame | ⟨access, -, hchanges⟩
      · rw [hsame]
        exact htyped
      · exact hchanges.typed hs htyped
    · exact htyped

theorem Sound.run_typed (h : w.Sound s) (hs : s.schema.Registered) (htyped : w.store.Typed s.schema)
    (events : List Event) : (w.run s events).store.Typed s.schema :=
  h.run_keeps (P := fun w => w.store.Typed s.schema) htyped
    (fun _ h htyped event => h.step_typed hs htyped event) events

/-- The stores that come about through a service, whatever is asked of it. -/
theorem typed_of_run (hs : s.schema.Registered) (events : List Event) :
    ((quiet .empty).run s events).store.Typed s.schema :=
  (sound_quiet .empty).run_typed hs (.empty _) events

/-- **Whatever is asked of a service, every record it stores is typed**: it belongs to an entity of
the schema, each of its keys is a field of this entity, its required fields are there, and each
value is of the kind of its field, hence never null. -/
theorem run_stores_typed_records (hs : s.schema.Registered) (events : List Event) (id : Uuid)
    (r : Record) (hr : ((quiet .empty).run s events).store.find? id = some r) :
    ∃ entity, s.schema.find r.entity = .ok entity ∧
      (∀ name v, r.data.get? name = some v → ∃ f ∈ entity.fields, f.name = name) ∧
      (∀ f ∈ entity.fields, f.required = true → (r.data.get? f.name).isSome) ∧
      (∀ f ∈ entity.fields, ∀ v, r.data.get? f.name = some v → f.Holds v) ∧
      ∀ name v, r.data.get? name = some v → v ≠ .null := by
  obtain ⟨entity, hfind, hfits⟩ := (typed_of_run hs events).typed id r hr
  refine ⟨entity, hfind, hfits.declared, hfits.required, hfits.holds, ?_⟩
  intro name v hv
  obtain ⟨f, hf, rfl⟩ := hfits.declared name v hv
  exact (hfits.holds f hf v hv).ne_null

open Sample in
/-- The records of a store that has taken in a task have what is required. -/
theorem created_task_has_required : service.schema.Registered ∧ ∃ r entity,
    ((quiet .empty).run service creation).store.find? .nil = some r ∧
      service.schema.find r.entity = .ok entity ∧
      ∀ f ∈ entity.fields, f.required = true → (r.data.get? f.name).isSome := by
  have hstored : (((quiet .empty).run service creation).store.find? .nil).isSome := by
    decide +kernel
  obtain ⟨r, hr⟩ := Option.isSome_iff_exists.1 hstored
  obtain ⟨entity, hfind, -, hrequired, -⟩ := run_stores_typed_records registered creation .nil r hr
  exact ⟨registered, r, entity, hr, hfind, hrequired⟩

end World

end Dossier
