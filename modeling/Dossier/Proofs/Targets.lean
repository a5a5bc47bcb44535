import Dossier.Proofs.Alike
import Dossier.Proofs.Patch
import Dossier.Proofs.WriteBack
import Mathlib.Data.List.Perm.Subperm

/-!
# References are shown as they are checked

The targets of a lookup field are read at once for all records that are shown, and joined with them by
their identifiers. A value that is written is checked by itself, by counting the records that it refers to.
Both come to the same.

**Targets** (`Service.Refers`). An identifier refers to a live record of the target's entity, of the tenant
of the caller. A field accepts it just when there is such a record (`Service.accepts_iff`), and shows the
label of this record (`Service.resolution_lookup`).

**The limit.** No more records are asked for than there are identifiers. This cuts nothing off: different
targets have different identifiers, all of them among those asked for. Only a limit that is beyond the
bound of limits would.

**All fields** (`Shown.resolveAll`). The identifiers of a field are read off the records and not off what is
shown of them, so the fields do not get into each other's way.

Main result: `Service.populate_as_checked`.
-/

namespace Dossier

/-! ## Labels -/

theorem Value.render_of_text? {value : Value} {text : String} (h : value.text? = some text) :
    value.render = .string text := by
  cases value <;> cases h <;> rfl

/-- What a record is called by a field of it, or by its identifier. -/
def Record.label (r : Record) (field : String) : Json :=
  ((r.data.get? field).map Value.render).getD (.string r.id.text)

def Record.asTarget (r : Record) (labelField : String) : Json :=
  .ofMembers [("id", .string r.id.text), ("display_label", r.label labelField)]

namespace Service

theorem get?_labels {labelField : String} {targets : List Record}
    (hids : (targets.map (·.id)).Nodup) {id : String} {label : Json} :
    (labels labelField targets).get? id = some label ↔
      ∃ t ∈ targets, t.id.text = id ∧ t.label labelField = label := by
  have hentry {label : Json} (h : (labels labelField targets).get? id = some label) :
      ∃ t ∈ targets, t.id.text = id ∧ t.label labelField = label := by
    rw [labels, Dict.get?_ofList] at h
    obtain ⟨t, ht, hpair⟩ := List.mem_map.1 (List.mem_reverse.1 (Entries.mem_of_get? h))
    obtain ⟨hid, hlabel⟩ := Prod.mk.inj hpair
    exact ⟨t, ht, hid, hlabel⟩
  refine ⟨hentry, ?_⟩
  rintro ⟨t, ht, rfl, rfl⟩
  obtain ⟨label, hlabel⟩ : ∃ label, (labels labelField targets).get? t.id.text = some label :=
    Dict.exists_get?_ofList.2 ⟨_, List.mem_map_of_mem ht, rfl⟩
  obtain ⟨t', ht', hid, rfl⟩ := hentry hlabel
  obtain rfl : t' = t := List.inj_on_of_nodup_map hids ht' ht (Uuid.text_injective hid)
  exact hlabel

end Service

/-! ## Targets -/

theorem Store.Keyed.nodup_ids {store : Store} (hkeyed : store.Keyed) :
    (store.records.values.map (·.id)).Nodup := by
  rw [hkeyed.ids_values]
  exact Dict.nodup_keys _

theorem Record.meets_amongIds (r : Record) (ids : List String) :
    r.meets (.among "id" (ids.map .ref) false) = true ↔ r.id.text ∈ ids := by
  show ((ids.map Value.ref).any fun v => Predicate.fieldEq (r.field "id") v) != false ↔ _
  simp [Predicate.fieldEq, field]

namespace Service

variable {s : Service} {ctx : Context} {e : Surroundings} {store : Store} {f : Field}
  {target : LookupTarget} {ids : List String}

/-- An identifier refers to a live record of the target's entity, of a tenant. -/
structure Refers (s : Service) (store : Store) (tenant : String) (target : LookupTarget) (id : Uuid)
    (t : Record) : Prop where
  find : ∃ entity, s.schema.find target.entity = .ok entity ∧ t.entity = entity.name
  found : store.find? id = some t
  tenant : t.tenant = tenant
  live : t.deleted = false

/-- What a target that is asked for is. -/
theorem concerns_targetQuery {entity : Entity} {t : Record} :
    Store.concerns entity (targetQuery ctx entity ids).predicate t = true ↔
      t.entity = entity.name ∧ t.tenant = ctx.tenant ∧ t.deleted = false ∧ t.id.text ∈ ids := by
  rw [Store.concerns_iff, ListQuery.predicate, t.meets_both, Bool.and_eq_true, targetQuery,
    t.meets_amongIds, scope, t.meets_scopeWhere]
  simp only [Bool.and_eq_true, beq_iff_eq]
  constructor
  · rintro ⟨hentity, ⟨htenant, -, hlive⟩, hid⟩
    exact ⟨hentity, htenant, hlive, hid⟩
  · rintro ⟨hentity, htenant, hlive, hid⟩
    exact ⟨hentity, ⟨htenant, hentity, hlive⟩, hid⟩

/-- **The limit cuts no target off.** -/
theorem targets_perm (hkeyed : store.Keyed) (hfew : ids.length < ListQuery.bound) {name : String}
    {entity : Entity} (hfind : s.schema.find name = .ok entity) :
    (s.targets ctx e store name ids).Perm ((e.order store.records.values).filter
      (Store.concerns entity (targetQuery ctx entity ids).predicate)) := by
  unfold targets
  rw [hfind]
  dsimp only
  generalize hmatching : (e.order store.records.values).filter
    (Store.concerns entity (targetQuery ctx entity ids).predicate) = matching
  have hnodup : (matching.map fun t => t.id.text).Nodup := by
    have hids : (matching.map (·.id)).Nodup := by
      rw [← hmatching]
      refine (List.filter_sublist.map _).nodup ?_
      exact ((e.order_perm _).map _).nodup_iff.2 hkeyed.nodup_ids
    have htexts := hids.map fun _ _ => Uuid.text_injective
    rwa [List.map_map] at htexts
  have hlength : matching.length ≤ ids.length := by
    rw [← List.length_map (fun t : Record => t.id.text)]
    refine (List.subperm_of_subset hnodup fun id hid => ?_).length_le
    obtain ⟨t, ht, rfl⟩ := List.mem_map.1 hid
    rw [← hmatching] at ht
    exact (concerns_targetQuery.1 (List.mem_filter.1 ht).2).2.2.2
  have hall : (targetQuery ctx entity ids).page matching = sorted [] matching := by
    refine List.take_of_length_le ?_
    show ((sorted [] matching).drop 0).length ≤ ids.length % ListQuery.bound
    rw [List.drop_zero, (sorted_perm _ _).length_eq, Nat.mod_eq_of_lt hfew]
    exact hlength
  rw [hall]
  exact sorted_perm _ _

/-- Each target that an identifier among those asked for refers to is found, and nothing else. -/
theorem mem_targets (hkeyed : store.Keyed) (hfew : ids.length < ListQuery.bound) {id : Uuid}
    (hid : id.text ∈ ids) {t : Record} :
    (t ∈ s.targets ctx e store target.entity ids ∧ t.id = id) ↔
      s.Refers store ctx.tenant target id t := by
  cases hfind : s.schema.find target.entity with
  | error error =>
    constructor
    · rintro ⟨ht, -⟩
      rw [targets, hfind] at ht
      cases ht
    · rintro ⟨⟨entity, hentity, -⟩, -, -, -⟩
      cases hfind.symm.trans hentity
  | ok entity =>
    rw [(targets_perm hkeyed hfew hfind).mem_iff, List.mem_filter, (e.order_perm _).mem_iff,
      Store.mem_values, concerns_targetQuery]
    constructor
    · rintro ⟨⟨⟨key, hkey⟩, hentity, htenant, hlive, -⟩, rfl⟩
      exact ⟨⟨entity, hfind, hentity⟩, by rw [hkeyed key t hkey, hkey], htenant, hlive⟩
    · rintro ⟨⟨entity', hfind', hentity⟩, hfound, htenant, hlive⟩
      obtain rfl : entity = entity' := Except.ok.inj (hfind.symm.trans hfind')
      have hown := hkeyed id t hfound
      exact ⟨⟨⟨id, hfound⟩, hentity, htenant, hlive, hown ▸ hid⟩, hown⟩

/-- **What a lookup field shows of a text** is the record that it is the identifier of. -/
theorem resolution_lookup (hkeyed : store.Keyed) (hkind : f.kind = .lookup)
    (hlookup : f.lookup = some target) (hfew : ids.length < ListQuery.bound) {text : String}
    (htext : text ∈ ids) {shown : Json} :
    s.resolution ctx e store f ids text = some shown ↔ ∃ id t, id.text = text ∧
      s.Refers store ctx.tenant target id t ∧ t.asTarget target.labelField = shown := by
  have hnodup : ((s.targets ctx e store target.entity ids).map (·.id)).Nodup := by
    cases hfind : s.schema.find target.entity with
    | error error =>
      rw [targets, hfind]
      exact .nil
    | ok entity =>
      refine ((targets_perm hkeyed hfew hfind).map _).nodup_iff.2 ((List.filter_sublist.map _).nodup ?_)
      exact ((e.order_perm _).map _).nodup_iff.2 hkeyed.nodup_ids
  rw [resolution, if_pos hkind, hlookup]
  simp only [Shown.labelled, Option.map_eq_some_iff, get?_labels hnodup]
  constructor
  · rintro ⟨_, ⟨t, ht, rfl, rfl⟩, rfl⟩
    exact ⟨t.id, t, rfl, (mem_targets hkeyed hfew htext).1 ⟨ht, rfl⟩, rfl⟩
  · rintro ⟨id, t, rfl, hrefers, rfl⟩
    obtain ⟨ht, rfl⟩ := (mem_targets (e := e) hkeyed hfew htext).2 hrefers
    exact ⟨_, ⟨t, ht, rfl, rfl⟩, rfl⟩

/-! ## Checks -/

/-- A field accepts a document when the service converts it. -/
def Accepts (s : Service) (ctx : Context) (e : Surroundings) (store : Store) (f : Field) (raw : Json) :
    Prop :=
  ∃ value, ((s.convert ctx f raw).serve e store).1 = .ok value

theorem exists_refers_of_checkTarget (hkeyed : store.Keyed) {id : Uuid} {after : Store}
    (h : (s.checkTarget ctx f target id.text).serve e store = (.ok (), after)) :
    ∃ t, s.Refers store ctx.tenant target id t := by
  obtain ⟨entity, hentity, h⟩ := Call.exists_ok_of_bind h
  have hfind : s.schema.find target.entity = .ok entity := by
    cases hfind : s.schema.find target.entity <;> rw [hfind] at hentity <;> cases hentity
    rfl
  rw [id.read?_text] at h
  dsimp only at h
  rw [Call.serve_bind_ok (serve_count e store entity _)] at h
  split at h
  · cases h
  · rename_i hcount
    obtain ⟨t, ht⟩ := List.exists_mem_of_length_pos (Nat.pos_of_ne_zero hcount)
    obtain ⟨hstored, hconcerns⟩ := List.mem_filter.1 ht
    obtain ⟨key, hkey⟩ := Store.mem_values.1 hstored
    rw [scope, Store.concerns_iff, t.meets_both, t.meets_scopeWhere, t.meets_byId] at hconcerns
    simp only [Bool.and_eq_true, beq_iff_eq, decide_eq_true_iff] at hconcerns
    obtain ⟨hbelongs, ⟨htenant, -, hlive⟩, rfl⟩ := hconcerns
    exact ⟨t, ⟨entity, hfind, hbelongs⟩, by rw [hkeyed key t hkey, hkey], htenant, hlive⟩

/-- **A lookup field accepts an identifier that refers to a record.** -/
theorem accepts_iff (hkeyed : store.Keyed) (hkind : f.kind = .lookup) (hlookup : f.lookup = some target)
    (id : Uuid) : s.Accepts ctx e store f (.string id.text) ↔
      ∃ t, s.Refers store ctx.tenant target id t := by
  have hconvert : f.convert (.string id.text) = .ok (some (.ref id.text)) := by
    obtain ⟨w, hconvert, hw⟩ := Field.stable_lookup hkind id
    rw [Value.render] at hconvert
    cases w <;> simp [Value.same] at hw
    rw [hconvert, hw]
  constructor
  · rintro ⟨value, hvalue⟩
    obtain ⟨after, hserve⟩ : ∃ after,
        (s.convert ctx f (.string id.text)).serve e store = (.ok value, after) := by
      rw [← hvalue]
      exact ⟨_, Prod.mk.eta.symm⟩
    unfold convert at hserve
    obtain ⟨_, hdone, hserve⟩ := Call.exists_ok_of_bind hserve
    rw [hconvert] at hdone
    cases hdone
    simp only [hkind, hlookup] at hserve
    obtain ⟨_, _, hcheck, -⟩ := Call.exists_serve_of_bind hserve
    exact exists_refers_of_checkTarget hkeyed hcheck
  · rintro ⟨t, ⟨entity, hfind, hbelongs⟩, hfound, htenant, hlive⟩
    refine ⟨some (.ref id.text), ?_⟩
    rw [serve_convert hkeyed hconvert fun target' _ hlookup' id' hid' => ?_]
    obtain rfl : target = target' := Option.some.inj (hlookup.symm.trans hlookup')
    obtain rfl : id.text = id' := Value.ref.inj (Option.some.inj hid')
    exact ⟨entity, id, t, hfind, id.read?_text, hfound, htenant, hbelongs, hlive⟩

end Service

/-! ## All fields -/

namespace Shown

/-- A view in which each of some fields shows what its identifier is resolved to, if to anything. -/
def resolveAll (content : Field → String → Option Json) (fields : List Field) (v : Shown) : Shown :=
  fields.foldl (fun v f => v.resolve f.name (content f)) v

variable {content : Field → String → Option Json} {fields : List Field} {f : Field}

theorem resolveAll_record (v : Shown) : (v.resolveAll content fields).record = v.record := by
  induction fields generalizing v with
  | nil => rfl
  | cons f rest ih => exact (ih _).trans (resolve_record _)

theorem reference?_resolve (v : Shown) (field name : String) (content : String → Option Json) :
    (v.resolve field content).reference? name = v.reference? name := by
  rw [reference?, resolve_record, reference?]

theorem get?_resolveAll_of_notMem {key : String} (h : ∀ f ∈ fields, f.name ≠ key) (v : Shown) :
    Entries.get? key (v.resolveAll content fields).members = Entries.get? key v.members := by
  induction fields generalizing v with
  | nil => rfl
  | cons f rest ih =>
    obtain ⟨hne, hrest⟩ := List.forall_mem_cons.1 h
    rw [resolveAll, List.foldl_cons, ← resolveAll, ih hrest, get?_resolve, if_neg hne.symm]

theorem get?_resolveAll_of_mem (hnames : (fields.map (·.name)).Nodup) (hf : f ∈ fields) (v : Shown) :
    Entries.get? f.name (v.resolveAll content fields).members =
      ((v.reference? f.name).bind (content f) <|> Entries.get? f.name v.members) := by
  induction fields generalizing v with
  | nil => cases hf
  | cons g rest ih =>
    obtain ⟨hnew, hrest⟩ := List.nodup_cons.1 hnames
    rw [resolveAll, List.foldl_cons, ← resolveAll]
    rcases List.mem_cons.1 hf with rfl | hf
    · have hothers : ∀ g ∈ rest, g.name ≠ f.name := fun g hg hname =>
        hnew (List.mem_map.2 ⟨g, hg, hname⟩)
      rw [get?_resolveAll_of_notMem hothers, get?_resolve, if_pos rfl]
    · have hne : f.name ≠ g.name := ne_of_mem_of_not_mem (List.mem_map_of_mem hf) hnew
      rw [ih hrest hf, reference?_resolve, get?_resolve, if_neg hne]

end Shown

namespace Service

variable {s : Service} {ctx : Context} {e : Surroundings} {store : Store} {entity : Entity}

theorem references_eq_of_records (field : String) (views : List Shown) :
    references field views = references field ((views.map (·.record)).map Shown.ofRecord) := by
  unfold references
  rw [List.map_map, List.filterMap_map]
  rfl

theorem mem_references {field id : String} {views : List Shown} :
    id ∈ references field views ↔ ∃ v ∈ views, v.reference? field = some id := by
  rw [references, Dict.mem_keys, Dict.exists_get?_ofList]
  simp

/-- What each identifier of a field of some records is resolved to. -/
def contents (s : Service) (ctx : Context) (e : Surroundings) (store : Store) (records : List Record)
    (f : Field) : String → Option Json :=
  s.resolution ctx e store f (references f.name (records.map Shown.ofRecord))

/-- **All fields are resolved by what the records refer to**, whatever has been resolved before. -/
theorem serve_populateFields (fields : List Field) (views : List Shown) :
    (s.populateFields ctx fields views).serve e store =
      (.ok (views.map (Shown.resolveAll (s.contents ctx e store (views.map (·.record))) fields)),
        store) := by
  induction fields generalizing views with
  | nil =>
    have hid : Shown.resolveAll (s.contents ctx e store (views.map (·.record))) [] = id := rfl
    rw [hid, List.map_id]
    rfl
  | cons f rest ih =>
    have hcontent : s.resolution ctx e store f (references f.name views) =
        s.contents ctx e store (views.map (·.record)) f := by
      rw [contents, ← references_eq_of_records]
    have hrecords (content : String → Option Json) :
        (views.map (Shown.resolve f.name content)).map (·.record) = views.map (·.record) := by
      rw [List.map_map]
      exact List.map_congr_left fun v _ => v.resolve_record content
    rw [populateFields, Call.serve_bind_ok (serve_populateField f views), hcontent, ih, hrecords,
      List.map_map]
    rfl

/-- A view of a record in which references are resolved as they would be checked. -/
structure Populated (s : Service) (ctx : Context) (e : Surroundings) (store : Store) (entity : Entity)
    (r : Record) (v : Shown) : Prop where
  record : v.record = r
  /-- An identifier that would be accepted is shown with the label of its target. -/
  accepted : ∀ f ∈ entity.fields, f.kind = .lookup → ∀ value (id : Uuid),
    r.data.get? f.name = some value → value.text? = some id.text →
      s.Accepts ctx e store f value.render →
        ∃ target t, f.lookup = some target ∧ s.Refers store ctx.tenant target id t ∧
          Entries.get? f.name v.members = some (t.asTarget target.labelField)
  /-- A lookup that would not be accepted, or is no identifier, is shown as it is stored. -/
  refused : ∀ f ∈ entity.fields, f.kind = .lookup → ∀ value, r.data.get? f.name = some value →
    (s.Accepts ctx e store f value.render → ∀ id : Uuid, value.text? ≠ some id.text) →
      Entries.get? f.name v.members = some value.render
  /-- A file is shown as what is known about it, if anything is. -/
  file : ∀ f ∈ entity.fields, f.kind = .file ∨ f.kind = .image → ∀ value id,
    r.data.get? f.name = some value → value.text? = some id →
      Entries.get? f.name v.members =
        some (((e.file ctx.tenant id).map StoredFile.shown).getD value.render)
  /-- All else is shown as the record has it. -/
  others : ∀ key, (∀ f ∈ entity.fields, f.kind.isReference = true → f.name = key →
    (r.data.get? key).bind Value.text? = none) →
      Entries.get? key v.members = Entries.get? key r.members

theorem get?_populated (he : entity.Sound) {f : Field} (hf : f ∈ entity.fields) (records : List Record)
    (r : Record) :
    Entries.get? f.name
        ((Shown.ofRecord r).resolveAll (s.contents ctx e store records) entity.fields).members =
      (((r.data.get? f.name).bind Value.text?).bind (s.contents ctx e store records f) <|>
        (r.data.get? f.name).map Value.render) := by
  rw [Shown.get?_resolveAll_of_mem he.distinct hf]
  show (_ <|> Entries.get? f.name r.members) = _
  rw [r.get?_members_data (he.notSystem f hf)]
  rfl

/-- The text of a lookup is resolved to the record that it is the identifier of. -/
theorem contents_lookup (he : entity.Sound) (hkeyed : store.Keyed) {records : List Record} {f : Field}
    (hf : f ∈ entity.fields) (hkind : f.kind = .lookup)
    (hfew : (references f.name (records.map Shown.ofRecord)).length < ListQuery.bound) {r : Record}
    (hr : r ∈ records) {value : Value} (hvalue : r.data.get? f.name = some value) {text : String}
    (htext : value.text? = some text) : ∃ target, f.lookup = some target ∧
      ∀ shown, s.contents ctx e store records f text = some shown ↔ ∃ id t, id.text = text ∧
        s.Refers store ctx.tenant target id t ∧ t.asTarget target.labelField = shown := by
  obtain ⟨target, htarget⟩ := Option.ne_none_iff_exists'.1 (he.targets f hf hkind)
  have hmem : text ∈ references f.name (records.map Shown.ofRecord) := by
    refine mem_references.2 ⟨.ofRecord r, List.mem_map_of_mem hr, ?_⟩
    show (r.data.get? f.name).bind Value.text? = _
    rw [hvalue, Option.bind_some, htext]
  exact ⟨target, htarget, fun shown => resolution_lookup hkeyed hkind htarget hfew hmem⟩

theorem contents_file (records : List Record) {f : Field} (hkind : f.kind = .file ∨ f.kind = .image)
    (id : String) :
    s.contents ctx e store records f id = (e.file ctx.tenant id).map StoredFile.shown := by
  unfold contents resolution
  rcases hkind with hkind | hkind <;> rw [hkind] <;> rfl

/-- A field that refers to nothing is shown as it is. -/
theorem contents_of_not_reference (records : List Record) {f : Field} (href : f.kind.isReference = false) :
    s.contents ctx e store records f = fun _ => none := by
  have hkind : f.kind ≠ .lookup := by
    intro hkind
    rw [hkind] at href
    cases href
  unfold contents resolution
  rw [if_neg hkind, href]
  rfl

theorem contents_refused (hkeyed : store.Keyed) {records : List Record} {f : Field} {target : LookupTarget}
    (hkind : f.kind = .lookup) (htarget : f.lookup = some target) {value : Value} {text : String}
    (htext : value.text? = some text)
    (hshown : ∀ shown, s.contents ctx e store records f text = some shown ↔ ∃ id t, id.text = text ∧
      s.Refers store ctx.tenant target id t ∧ t.asTarget target.labelField = shown)
    (hrefused : s.Accepts ctx e store f value.render → ∀ id : Uuid, value.text? ≠ some id.text) :
    s.contents ctx e store records f text = none := by
  refine Option.eq_none_iff_forall_ne_some.2 fun shown h => ?_
  obtain ⟨id, t, rfl, hrefers, -⟩ := (hshown shown).1 h
  rw [Value.render_of_text? htext] at hrefused
  exact hrefused ((accepts_iff hkeyed hkind htarget id).2 ⟨t, hrefers⟩) id htext

theorem populated_resolveAll (he : entity.Sound) (hkeyed : store.Keyed) {records : List Record}
    (hfew : ∀ f ∈ entity.fields, f.kind = .lookup →
      (references f.name (records.map Shown.ofRecord)).length < ListQuery.bound)
    {r : Record} (hr : r ∈ records) :
    s.Populated ctx e store entity r
      ((Shown.ofRecord r).resolveAll (s.contents ctx e store records) entity.fields) := by
  constructor
  case record => exact Shown.resolveAll_record _
  case accepted =>
    intro f hf hkind value id hvalue htext haccepts
    obtain ⟨target, htarget, hshown⟩ :=
      contents_lookup he hkeyed hf hkind (hfew f hf hkind) hr hvalue htext
    rw [Value.render_of_text? htext] at haccepts
    obtain ⟨t, hrefers⟩ := (accepts_iff hkeyed hkind htarget id).1 haccepts
    refine ⟨target, t, htarget, hrefers, ?_⟩
    rw [get?_populated he hf, hvalue, Option.bind_some, htext, Option.bind_some,
      (hshown _).2 ⟨id, t, rfl, hrefers, rfl⟩]
    rfl
  case refused =>
    intro f hf hkind value hvalue hrefused
    rw [get?_populated he hf, hvalue, Option.bind_some]
    cases htext : value.text? with
    | none => rfl
    | some text =>
      obtain ⟨target, htarget, hshown⟩ :=
        contents_lookup he hkeyed hf hkind (hfew f hf hkind) hr hvalue htext
      rw [Option.bind_some, contents_refused hkeyed hkind htarget htext hshown hrefused]
      rfl
  case file =>
    intro f hf hkind value id hvalue htext
    rw [get?_populated he hf, hvalue, Option.bind_some, htext, Option.bind_some,
      contents_file records hkind]
    cases e.file ctx.tenant id <;> rfl
  case others =>
    intro key hkey
    by_cases hfield : ∃ f ∈ entity.fields, f.name = key
    · obtain ⟨f, hf, rfl⟩ := hfield
      have hnone : ((r.data.get? f.name).bind Value.text?).bind (s.contents ctx e store records f) =
          none := by
        cases href : f.kind.isReference with
        | true => rw [hkey f hf href rfl, Option.bind_none]
        | false => simp [contents_of_not_reference records href]
      rw [get?_populated he hf, hnone, r.get?_members_data (he.notSystem f hf)]
      rfl
    · push Not at hfield
      exact Shown.get?_resolveAll_of_notMem hfield _

/-- **References are shown as they are checked.**

Records of a registered entity are populated, with fewer different references in each lookup field than the
bound of limits, from a store that keeps its records under their own identifiers, as every typed store does.
Each is shown in its place. An identifier in a lookup field is shown with the label of its target just when
the same store would accept it for the field, a file shows what is known about it if anything is, and
everything else is shown as it is stored. -/
theorem populate_as_checked (hs : s.schema.Registered) {name : String}
    (hfind : s.schema.find name = .ok entity) (hkeyed : store.Keyed) {records : List Record}
    (hfew : ∀ f ∈ entity.fields, f.kind = .lookup →
      (references f.name (records.map Shown.ofRecord)).length < ListQuery.bound) :
    ∃ views, (s.populate ctx entity records).serve e store = (.ok views, store) ∧
      List.Forall₂ (s.Populated ctx e store entity) records views := by
  have hrecords : (records.map Shown.ofRecord).map (·.record) = records := by
    rw [List.map_map]
    exact List.map_id records
  refine ⟨_, serve_populateFields entity.fields (records.map Shown.ofRecord), ?_⟩
  rw [hrecords, List.map_map, List.forall₂_map_right_iff, List.forall₂_same]
  exact fun r hr => populated_resolveAll (hs.sound hfind).2 hkeyed hfew hr

open Sample in
/-- Of the vouchers that are filed, the second refers to the first. They are shown as they are checked. -/
theorem vouchers_populated : vouchers.schema.Registered ∧ filed.Keyed ∧
    (filed.find? second).any (fun r => (r.data.get? "after").bind Value.text? == some Uuid.nil.text) =
      true ∧
    (∀ f ∈ voucher.fields, f.kind = .lookup →
      (references f.name (filed.records.values.map Shown.ofRecord)).length < ListQuery.bound) ∧
    ∃ views, (vouchers.populate Sample.ctx voucher filed.records.values).serve archive filed =
        (.ok views, filed) ∧
      List.Forall₂ (vouchers.Populated Sample.ctx archive filed voucher) filed.records.values views := by
  have hregistered : vouchers.schema.Registered := .register (e := voucher) .empty rfl
  have hkeyed : filed.Keyed := (World.typed_of_run hregistered issued).keyed
  have hfew : ∀ f ∈ voucher.fields, f.kind = .lookup →
      (references f.name (filed.records.values.map Shown.ofRecord)).length < ListQuery.bound := by
    decide +kernel
  have hfind : vouchers.schema.find voucher.name = .ok voucher := rfl
  exact ⟨hregistered, hkeyed, by decide +kernel, hfew,
    populate_as_checked hregistered hfind hkeyed hfew⟩

end Service

end Dossier
