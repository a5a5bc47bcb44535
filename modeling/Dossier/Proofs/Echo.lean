import Dossier.Proofs.Listing
import Dossier.Proofs.Rendering
import Dossier.Proofs.Resolution

/-!
# What is read can be sent back

Each field of a record that is shown to a caller can be converted again, and its value is the same as
before, also where it is shown with what it refers to.

**Echoes** (`Shown.Echoes`). A view shows each declared field as the record has it, or in place of a
reference an object whose identifier is that reference.

**Resolved references.** Every object that a reference is resolved to carries the identifier that it was
resolved from, if files are known under their own identifiers (`Service.refers_of_resolution`). A field makes
of such an object what it makes of the identifier (`Field.convert_object`).

Main results: `Service.serve_get` and `Shown.Echoes.reads`.
-/

namespace Dossier

/-- A view of a record that shows each field of it, or an object that refers to the same. -/
structure Shown.Echoes (entity : Entity) (r : Record) (v : Shown) : Prop where
  record : v.record = r
  sorted : Entries.Sorted v.members
  members : ∀ f ∈ entity.fields,
    Entries.get? f.name v.members = (r.data.get? f.name).map Value.render ∨
      (f.kind.isReference = true ∧ ∃ id members, (r.data.get? f.name).bind Value.text? = some id ∧
        Entries.get? f.name v.members = some (.object members) ∧
        (Json.object members).asReference? = some id)

/-- Files are known under the identifiers that they are asked for by. -/
def Surroundings.NamesFiles (e : Surroundings) (tenant : String) : Prop :=
  ∀ id file, e.file tenant id = some file → file.id = id

/-! ## Resolved references -/

theorem Json.asReference?_ofMembers (id : String) (rest : List (String × Json))
    (h : ∀ m ∈ rest, m.1 ≠ "id") :
    ∃ members, Json.ofMembers (("id", .string id) :: rest) = .object members ∧
      (Json.object members).asReference? = some id := by
  refine ⟨_, rfl, ?_⟩
  have hid : Entries.get? "id" (Entries.ofList (("id", Json.string id) :: rest)) = some (.string id) := by
    have hrest : Entries.get? "id" rest.reverse = none :=
      Entries.get?_eq_none.2 fun m hm => h m (List.mem_reverse.1 hm)
    rw [Entries.get?_ofList, List.reverse_cons, Entries.get?_append, hrest]
    rfl
  rw [asReference?, hid]
  rfl

namespace Service

variable {s : Service} {ctx : Context} {e : Surroundings} {store : Store} {entity : Entity} {r : Record}

/-- **What an identifier is resolved to refers to it.** -/
theorem refers_of_resolution (hfiles : e.NamesFiles ctx.tenant) {f : Field} {ids : List String}
    {id : String} {shown : Json} (h : s.resolution ctx e store f ids id = some shown) :
    f.kind.isReference = true ∧
      ∃ members, shown = .object members ∧ (Json.object members).asReference? = some id := by
  unfold resolution at h
  split at h
  · next hkind =>
    refine ⟨by rw [hkind]; rfl, ?_⟩
    cases hlookup : f.lookup with
    | none => simp [hlookup] at h
    | some target =>
      simp only [hlookup] at h
      obtain ⟨label, -, rfl⟩ := Option.map_eq_some_iff.1 h
      exact Json.asReference?_ofMembers id _ (by simp)
  · split at h
    · next href =>
      refine ⟨href, ?_⟩
      obtain ⟨file, hfile, rfl⟩ := Option.map_eq_some_iff.1 h
      obtain ⟨members, hobject, hrefers⟩ := Json.asReference?_ofMembers file.id
        [("original_name", .string file.originalName), ("url", .string file.url)] (by simp)
      exact ⟨members, hobject, by rw [hrefers, hfiles id file hfile]⟩
    · cases h

end Service

namespace Shown.Echoes

variable {entity : Entity} {r : Record} {v : Shown}

theorem ofRecord (he : entity.Sound) (r : Record) : (Shown.ofRecord r).Echoes entity r where
  record := rfl
  sorted := Entries.Sorted.ofList _
  members f hf := .inl (r.get?_members_data (he.notSystem f hf))

theorem resolve (h : v.Echoes entity r) (he : entity.Sound) {f : Field} (hf : f ∈ entity.fields)
    {content : String → Option Json}
    (hcontent : ∀ id shown, content id = some shown → f.kind.isReference = true ∧
      ∃ members, shown = .object members ∧ (Json.object members).asReference? = some id) :
    (v.resolve f.name content).Echoes entity r where
  record := (resolve_record content).trans h.record
  sorted := sorted_resolve h.sorted content
  members g hg := by
    rw [get?_resolve]
    split
    · next hname =>
      obtain rfl : g = f := he.eq_of_name hg hf hname
      cases hresolved : (v.reference? g.name).bind content with
      | none => exact h.members g hg
      | some shown =>
        obtain ⟨id, hid, hshown⟩ := Option.bind_eq_some_iff.1 hresolved
        obtain ⟨href, members, rfl, hrefers⟩ := hcontent id shown hshown
        rw [reference?, h.record] at hid
        exact .inr ⟨href, id, members, hid, rfl, hrefers⟩
    · exact h.members g hg

theorem isSome (h : v.Echoes entity r) {f : Field} (hf : f ∈ entity.fields)
    (hsome : (r.data.get? f.name).isSome) : (Entries.get? f.name v.members).isSome := by
  rcases h.members f hf with hsame | ⟨-, _, members, -, hobject, -⟩
  · rw [hsame, Option.isSome_map, hsome]
  · rw [hobject]
    rfl

end Shown.Echoes

/-! ## The response to a request for one record -/

namespace Service

variable {s : Service} {ctx : Context} {e : Surroundings} {store : Store} {entity : Entity} {r : Record}

theorem echoes_populateFields (s : Service) (store : Store) (he : entity.Sound)
    (hfiles : e.NamesFiles ctx.tenant) {fields : List Field} (hfields : ∀ f ∈ fields, f ∈ entity.fields) {v : Shown} (hv : v.Echoes entity r) :
    ∃ v' : Shown, v'.Echoes entity r ∧
      (s.populateFields ctx fields [v]).serve e store = (.ok [v'], store) := by
  induction fields generalizing v with
  | nil => exact ⟨v, hv, rfl⟩
  | cons f rest ih =>
    have hnext : (v.resolve f.name (s.resolution ctx e store f (references f.name [v]))).Echoes entity r :=
      hv.resolve he (hfields f List.mem_cons_self) fun _ _ h => refers_of_resolution hfiles h
    obtain ⟨v', hv', hserve⟩ := ih (fun g hg => hfields g (List.mem_cons_of_mem _ hg)) hnext
    refine ⟨v', hv', ?_⟩
    rw [populateFields, Call.serve_bind_ok (serve_populateField f [v])]
    exact hserve

/-- **A record that a caller may read is served as an echo of it**, as far as it may be read. -/
theorem serve_get {access : Access} {condition : Predicate} {mask : FieldMask} {name text : String}
    {id : Uuid} (he : entity.Sound) (hfiles : e.NamesFiles ctx.tenant)
    (hfind : s.schema.find name = .ok entity) (hgranted : e.access ctx.toCaller = .ok access)
    (hforced : forced ctx access entity .read = .ok condition) (hmask : access.readMask entity = .ok mask)
    (hid : recordId entity text = .ok id)
    (hfound : (e.order store.records.values).find?
      (Store.concerns entity (reachable ctx entity false id condition)) = some r) :
    ∃ v : Shown, v.Echoes entity r ∧
      (s.get ctx name text).serve e store = (.ok (shown mask v.members), store) := by
  obtain ⟨v, hv, hpopulate⟩ := echoes_populateFields s store he hfiles (fun _ hf => hf)
    (Shown.Echoes.ofRecord he r)
  have hfetch : (fetchOne entity id (reachable ctx entity false id condition)).serve e store =
      (.ok r, store) := by
    have hask : (Call.fetch entity (reachable ctx entity false id condition)).serve e store =
        (.ok (some r), store) := by
      rw [← hfound]
      rfl
    exact Call.serve_bind_ok hask
  refine ⟨v, hv, ?_⟩
  rw [get, Call.serve_bind_ok (serve_enter hfind hgranted)]
  dsimp only
  rw [hforced, hmask, hid]
  refine (Call.serve_bind_ok hfetch).trans ((Call.serve_bind_ok hpopulate).trans ?_)
  show (Except.ok (shown mask (v.members ++ [])), store) = _
  rw [List.append_nil]

end Service

/-! ## Converting an echo -/

namespace Field

variable {f : Field} {v : Value}

/-- A reference field makes of an object what it makes of the identifier in it. -/
theorem convert_object (href : f.kind.isReference = true) {id : String} {members : List (String × Json)}
    (hid : id ≠ "") (h : (Json.object members).asReference? = some id) :
    f.convert (.object members) = f.convert (.string id) := by
  have hpresent : f.convertPresent (.object members) = f.convertPresent (.string id) := by
    unfold convertPresent
    cases hk : f.kind <;> simp [hk, FieldKind.isReference] at href ⊢ <;> rw [h] <;> rfl
  rw [convert, convert, hpresent, isAbsent_string hid]
  rfl

theorem Holds.reference (href : f.kind.isReference = true) (h : f.Holds v) :
    ∃ id, v = .ref id ∧ id ≠ "" := by
  unfold Holds at h
  cases hk : f.kind <;> simp [hk, FieldKind.isReference] at href h
  case lookup =>
    obtain ⟨id, rfl⟩ := h
    exact ⟨id.text, rfl, id.text_ne_empty⟩
  case file | image =>
    obtain ⟨id, rfl, hid⟩ := h
    exact ⟨id, rfl, fun hempty => hid (by rw [hempty]; rfl)⟩

end Field

/-- A field makes of a document the same as a value. -/
def Field.Reads (f : Field) (raw : Json) (v : Value) : Prop :=
  ∃ w, f.convert raw = .ok (some w) ∧ v.same w = true

/-- **What a view shows of a field is read as the value that the record has in it.** -/
theorem Shown.Echoes.reads {entity : Entity} {r : Record} {v : Shown} (h : v.Echoes entity r)
    {f : Field} (hf : f ∈ entity.fields)
    (hstable : ∀ value, r.data.get? f.name = some value → f.Holds value ∧ f.Stable value) {raw : Json}
    (hraw : Entries.get? f.name v.members = some raw) :
    ∃ value, r.data.get? f.name = some value ∧ f.Reads raw value ∧
      (raw = value.render ∨ ∃ members, raw = .object members) := by
  rcases h.members f hf with hsame | ⟨href, id, members, hid, hobject, hrefers⟩
  · rw [hraw] at hsame
    obtain ⟨value, hvalue, rfl⟩ := Option.map_eq_some_iff.1 hsame.symm
    exact ⟨value, hvalue, (hstable value hvalue).2, .inl rfl⟩
  · obtain ⟨value, hvalue, htext⟩ := Option.bind_eq_some_iff.1 hid
    obtain ⟨hholds, w, hconvert, hw⟩ := hstable value hvalue
    obtain ⟨id', rfl, hne⟩ := hholds.reference href
    obtain rfl : id' = id := Option.some.inj htext
    rw [hraw] at hobject
    obtain rfl : raw = .object members := Option.some.inj hobject
    refine ⟨.ref id', hvalue, ⟨w, ?_, hw⟩, .inr ⟨members, rfl⟩⟩
    rw [Field.convert_object href hne hrefers]
    exact hconvert

end Dossier
