import Dossier.Proofs.Listing
import Dossier.Proofs.TextOrder
import Dossier.Proofs.TypedStore
import Dossier.Proofs.Union

/-!
# Writes touch only what the caller may write

**What a payload may name** (`Access.MayWrite`). A declared field, none of the system's, with full access
both for reading and for the action of the write. This is what the mask of a write comes down to
(`mayWrite_iff`).

**What a write changes.** A creation that ends well adds one record (`Created`), an update changes one
record (`Updated`), and in both the data under each key is what the payload says of it, or what it was
before if the payload does not name the key (`Entity.TakesIn`). Nothing else in the store changes.

**What is refused** (`Refuses`). Once everything before the payload has been checked, a payload that
names anything else is refused for the first such key in the order of bytes. What is checked before it
does not depend on the payload.

Main result: `writes_frame`.
-/

namespace Dossier

/-! ## What may be written -/

/-- A field that payloads of an action may name. Full access is what some role gives that allows
reading, and some role that allows the action. -/
structure Access.MayWrite (access : Access) (entity : Entity) (action : Action) (field : String) :
    Prop where
  declared : ∃ f ∈ entity.fields, f.name = field
  notSystem : isSystemField field = false
  read : ∃ p, access.Allows entity.name .read p ∧ p.access field = .readWrite
  write : ∃ p, access.Allows entity.name action p ∧ p.access field = .readWrite

namespace Access

variable {access : Access} {entity : Entity} {action : Action} {u : Permission} {mask : FieldMask}
  {field : String}

/-- Roles together give full access to a field when one of them does. -/
theorem access_eq_readWrite {entity : String} (h : access.authorize entity action = .ok u) :
    u.access field = .readWrite ↔ ∃ p, access.Allows entity action p ∧ p.access field = .readWrite := by
  obtain ⟨hne, -, -, hrules⟩ := Permission.union_eq_some (authorize_eq_ok.1 h)
  rw [Permission.access_unionRules hne hrules]
  constructor
  · intro hfull
    obtain ⟨p, hp, hgreatest⟩ := Permission.exists_access_eq_unionAccess hne field
    exact ⟨p, mem_allowing.1 hp, hgreatest.trans hfull⟩
  · rintro ⟨p, hp, hfull⟩
    have hle := Permission.access_le_unionAccess (mem_allowing.2 hp) field
    rw [hfull] at hle
    generalize Permission.unionAccess _ field = best at hle ⊢
    cases best with
    | readWrite => rfl
    | none | readOnly => exact absurd hle (by decide)

theorem readMask_ok (h : access.readMask entity = .ok mask) :
    ∃ read, access.authorize entity.name .read = .ok read ∧ mask = .ofPermission entity read :=
  map_ok h

/-- **A mask for writing lets through what may be written.** -/
theorem mayWrite_iff (hauth : access.authorize entity.name action = .ok u)
    (hmask : access.readMask entity = .ok mask) :
    access.MayWrite entity action field ↔
      isSystemField field = false ∧ (mask.restrict u).canWrite field = true := by
  obtain ⟨read, hread, rfl⟩ := readMask_ok hmask
  have hfull {f : Field} (hf : f ∈ entity.fields) :
      ((FieldMask.ofPermission entity read).restrict u).canWrite f.name = true ↔
        (∃ p, access.Allows entity.name .read p ∧ p.access f.name = .readWrite) ∧
          ∃ p, access.Allows entity.name action p ∧ p.access f.name = .readWrite := by
    rw [FieldMask.canWrite, FieldMask.access_restrict hf, FieldAccess.canWrite, beq_iff_eq,
      FieldAccess.min_eq_readWrite, access_eq_readWrite hread, access_eq_readWrite hauth]
  constructor
  · rintro ⟨⟨f, hf, rfl⟩, hsystem, hreads, hwrites⟩
    exact ⟨hsystem, (hfull hf).2 ⟨hreads, hwrites⟩⟩
  · rintro ⟨hsystem, hcan⟩
    obtain ⟨given, hgiven⟩ : ∃ given,
        (FieldMask.ofPermission entity read).fields.get? field = some given := by
      rw [← Option.isSome_iff_exists, Option.isSome_iff_ne_none]
      intro hnone
      rw [FieldMask.canWrite, FieldMask.access, FieldMask.restrict, Dict.get?_mapEntries, hnone] at hcan
      cases hcan
    obtain ⟨f, hf, rfl⟩ := FieldMask.exists_field_of_get? hgiven
    obtain ⟨hreads, hwrites⟩ := (hfull hf).1 hcan
    exact ⟨⟨f, hf, rfl⟩, hsystem, hreads, hwrites⟩

end Access

/-! ## The check of a payload -/

namespace FieldMask

variable {mask : FieldMask} {members : List (String × Json)}

theorem checkWritable_eq_ok : mask.checkWritable members = .ok () ↔
    ∀ m ∈ members, isSystemField m.1 = false ∧ mask.canWrite m.1 = true := by
  induction members with
  | nil => simp [checkWritable]
  | cons m rest ih =>
    rw [checkWritable, List.forall_mem_cons, ← ih]
    cases isSystemField m.1 <;> cases mask.canWrite m.1 <;> simp

/-- A payload is refused for the first of its keys that may not be written. -/
theorem checkWritable_error {m : String × Json} (hm : m ∈ members)
    (hbad : ¬ (isSystemField m.1 = false ∧ mask.canWrite m.1 = true)) :
    ∃ earlier key raw later, members = earlier ++ (key, raw) :: later ∧
      mask.checkWritable members = .error (.notWritable key) ∧
      ¬ (isSystemField key = false ∧ mask.canWrite key = true) ∧
      ∀ m ∈ earlier, isSystemField m.1 = false ∧ mask.canWrite m.1 = true := by
  induction members with
  | nil => cases hm
  | cons first rest ih =>
    obtain ⟨key, raw⟩ := first
    by_cases hfirst : isSystemField key = false ∧ mask.canWrite key = true
    · have hrest : m ∈ rest := by
        rcases List.mem_cons.1 hm with rfl | hm
        · exact absurd hfirst hbad
        · exact hm
      obtain ⟨earlier, key', raw', later, rfl, herror, hkey, hearlier⟩ := ih hrest
      refine ⟨(key, raw) :: earlier, key', raw', later, rfl, ?_, hkey,
        List.forall_mem_cons.2 ⟨hfirst, hearlier⟩⟩
      rw [checkWritable, hfirst.1, hfirst.2]
      exact herror
    · refine ⟨[], key, raw, rest, rfl, ?_, hfirst, by simp⟩
      rw [checkWritable, if_pos]
      revert hfirst
      cases isSystemField key <;> cases mask.canWrite key <;> simp

end FieldMask

/-- The first key of a payload, in the order of bytes, that may not be written. -/
structure Access.FirstRefused (access : Access) (entity : Entity) (action : Action)
    (payload : Dict String Json) (key : String) : Prop where
  named : (payload.get? key).isSome = true
  refused : ¬ access.MayWrite entity action key
  first : ∀ other, (payload.get? other).isSome = true → ¬ access.MayWrite entity action other →
    compare (utf8 key) (utf8 other) ≠ .gt

/-- **A payload that names what may not be written is refused for the first such key.** -/
theorem Service.payloadMembers_error {access : Access} {entity : Entity} {action : Action}
    {u : Permission} {mask : FieldMask} {payload : Dict String Json}
    (hauth : access.authorize entity.name action = .ok u) (hmask : access.readMask entity = .ok mask)
    (h : ∃ key, (payload.get? key).isSome = true ∧ ¬ access.MayWrite entity action key) :
    ∃ key, access.FirstRefused entity action payload key ∧
      payloadMembers (mask.restrict u) (.ofDict payload) = .error (.notWritable key) := by
  obtain ⟨bad, hnamed, hbad⟩ := h
  obtain ⟨raw, hraw⟩ := Option.isSome_iff_exists.1 hnamed
  rw [Access.mayWrite_iff hauth hmask] at hbad
  obtain ⟨earlier, key, raw', later, hsplit, herror, hkey, hearlier⟩ :=
    FieldMask.checkWritable_error (Dict.mem_entries.2 hraw) hbad
  have hsorted := payload.sorted
  rw [hsplit] at hsorted
  refine ⟨key, ⟨?_, ?_, fun other hother hrefused => ?_⟩, ?_⟩
  · have hmem : (key, raw') ∈ payload.entries := by
      rw [hsplit]
      simp
    rw [Dict.mem_entries.1 hmem]
    rfl
  · rwa [Access.mayWrite_iff hauth hmask]
  · rw [compare_utf8]
    rw [Access.mayWrite_iff hauth hmask] at hrefused
    obtain ⟨value, hvalue⟩ := Option.isSome_iff_exists.1 hother
    have hmem := Dict.mem_entries.2 hvalue
    rw [hsplit, List.mem_append, List.mem_cons] at hmem
    rcases hmem with hmem | heq | hmem
    · exact absurd (hearlier _ hmem) hrefused
    · cases heq
      rw [compare_eq_iff_eq.2 rfl]
      exact Ordering.noConfusion
    · have hlater := (List.pairwise_cons.1 (List.pairwise_append.1 hsorted).2.1).1 _ hmem
      rw [hlater]
      exact Ordering.noConfusion
  · rw [Json.ofDict, payloadMembers, herror]
    rfl

/-! ## Data after a write -/

/-- Data after a payload has been taken in. Under each key that the payload names is what its field makes
of it, which may be nothing; under every other key is what was there before. -/
structure Entity.TakesIn (entity : Entity) (members : List (String × Json))
    (before after : Dict String Value) : Prop where
  named : ∀ key raw, Entries.get? key members = some raw → ∃ f ∈ entity.fields, f.name = key ∧
    ∃ change, f.convert raw = .ok change ∧ after.get? key = change
  unnamed : ∀ key, Entries.get? key members = none → after.get? key = before.get? key

section TakesIn

variable {entity : Entity} {members : List (String × Json)} {changes : Changes}

/-- Changes that were gathered from a payload are one for each declared key of it. -/
theorem Gathered.get?_eq (h : Gathered members entity.fields changes) {key : String} {raw : Json}
    (hraw : Entries.get? key members = some raw) (hdeclared : ∃ f ∈ entity.fields, f.name = key) :
    ∃ f ∈ entity.fields, f.name = key ∧
      ∃ change, f.convert raw = .ok change ∧ changes.get? key = some change := by
  obtain ⟨f, hf, rfl⟩ := hdeclared
  obtain ⟨change, hchange⟩ := Option.isSome_iff_exists.1 (h.complete f hf (by rw [hraw]; rfl))
  obtain ⟨g, hg, hname, raw', hraw', hconvert, -⟩ := h.sound hchange
  rw [hraw] at hraw'
  cases hraw'
  exact ⟨g, hg, hname, change, hconvert, hchange⟩

theorem Gathered.get?_eq_none (h : Gathered members entity.fields changes) {key : String}
    (hnone : Entries.get? key members = none) : changes.get? key = none := by
  cases hchange : changes.get? key with
  | none => rfl
  | some change =>
    obtain ⟨_, -, -, raw, hraw, -⟩ := h.sound hchange
    rw [hnone] at hraw
    cases hraw

variable (hdeclared : ∀ m ∈ members, ∃ f ∈ entity.fields, f.name = m.1)

include hdeclared

theorem Gathered.takesIn_values (h : Gathered members entity.fields changes) :
    entity.TakesIn members ∅ changes.values where
  named key raw hraw := by
    obtain ⟨f, hf, hname, change, hconvert, hchange⟩ :=
      h.get?_eq hraw (hdeclared _ (Entries.mem_of_get? hraw))
    refine ⟨f, hf, hname, change, hconvert, ?_⟩
    rw [Changes.get?_values, hchange]
    rfl
  unnamed key hnone := by
    rw [Changes.get?_values, h.get?_eq_none hnone]
    rfl

theorem Gathered.takesIn_update (h : Gathered members entity.fields changes) (r : Record)
    (stamp : Stamp) : entity.TakesIn members r.data (r.update changes stamp).data where
  named key raw hraw := by
    obtain ⟨f, hf, hname, change, hconvert, hchange⟩ :=
      h.get?_eq hraw (hdeclared _ (Entries.mem_of_get? hraw))
    refine ⟨f, hf, hname, change, hconvert, ?_⟩
    rw [Record.get?_update, hchange]
    rfl
  unnamed key hnone := by
    rw [Record.get?_update, h.get?_eq_none hnone]
    rfl

end TakesIn

/-! ## Parts of a call that write nothing -/

namespace Service

variable {s : Service} {ctx : Context} {name : String} {e : Surroundings} {store after : Store}

theorem enter_ok {entity : Entity} {access : Access}
    (h : (s.enter ctx name).serve e store = (.ok (entity, access), after)) :
    s.schema.find name = .ok entity ∧ e.access ctx.toCaller = .ok access ∧ store = after := by
  unfold enter at h
  obtain ⟨found, hfind, h⟩ := Call.exists_ok_of_bind h
  obtain ⟨granted, mid, haccess, h⟩ := Call.exists_serve_of_bind h
  obtain ⟨hgranted, rfl⟩ := Prod.mk.inj haccess
  cases h
  refine ⟨?_, hgranted, rfl⟩
  cases hschema : s.schema.find name <;> rw [hschema] at hfind <;> cases hfind
  rfl

theorem enter_obeys {P : Demand → Prop} (s : Service) (name : String) (haccess : P (.access ctx.toCaller)) :
    (s.enter ctx name).Obeys P (WhenOk fun _ => True) := by
  refine Call.obeys_done_bind' fun entity _ => .ask haccess fun answer => ?_
  cases answer with
  | ok access => exact .done trivial
  | error fault => exact .done trivial

theorem newData_ok {mask : FieldMask} {entity : Entity} {payload : Json} {data : Dict String Value}
    (h : (s.newData ctx mask entity payload).serve e store = (.ok data, after)) :
    store = after ∧ ∃ members changes, payload = .object members ∧
      mask.checkWritable members = .ok () ∧ Gathered members entity.fields changes ∧
      data = changes.values := by
  have hreads : ChecksTargets s ctx Demand.ReadOnly := fun _ _ _ _ => trivial
  obtain ⟨hsame, hdata⟩ := (newData_obeys hreads mask entity payload).serve_readOnly e store
  rw [h] at hsame hdata
  obtain ⟨members, changes, hmembers, -, hgathered, rfl⟩ := hdata
  obtain ⟨hobject, hwritable⟩ := payloadMembers_ok hmembers
  exact ⟨hsame.symm, members, changes, hobject, hwritable, hgathered, rfl⟩

theorem gather_ok {entity : Entity} {members : List (String × Json)} {changes : Changes}
    (h : (s.gather ctx members entity.fields ∅).serve e store = (.ok changes, after)) :
    store = after ∧ Gathered members entity.fields changes := by
  have hreads : ChecksTargets s ctx Demand.ReadOnly := fun _ _ _ _ => trivial
  obtain ⟨hsame, hgathered⟩ :=
    (gather_obeys hreads members entity.fields [] ∅ .nil).serve_readOnly e store
  rw [h] at hsame hgathered
  exact ⟨hsame.symm, hgathered⟩

/-- What reading a record to be written comes to. -/
theorem serve_fetchUnlocked (entity : Entity) (id : Uuid) (p : Predicate) (e : Surroundings)
    (store : Store) :
    (fetchUnlocked entity id p).serve e store =
      (match (e.order store.records.values).find? (Store.concerns entity p) with
        | some r => if r.isLocked then .error (.locked id) else .ok r
        | none => .error (.recordNotFound entity.name id.text), store) := by
  show ((Call.fetch entity p >>= fun found =>
    match found with
      | some r => pure r
      | none => Call.fail _) >>= fun r => _).serve e store = _
  show (((match (e.order store.records.values).find? (Store.concerns entity p) with
    | some r => pure r
    | none => Call.fail _) : Call Record) >>= fun r => _).serve e store = _
  cases (e.order store.records.values).find? (Store.concerns entity p) with
  | none => rfl
  | some r =>
    show ((if r.isLocked then Call.fail _ else pure r : Call Record)).serve e store = _
    cases hlocked : r.isLocked <;> simp [hlocked] <;> rfl

theorem approval_ok {workflows : Workflows} {caller : Caller} {entity : Entity} {draft : Draft}
    {state : Option Approval}
    (h : (Call.approval workflows caller entity draft).serve e store = (.ok state, after)) :
    store = after ∧ workflows.approval caller entity (draft.record e.newId e.time) = .ok state := by
  obtain ⟨hstate, hsame⟩ := Prod.mk.inj h
  refine ⟨hsame, ?_⟩
  dsimp only [Surroundings.answer] at hstate
  cases hanswer : workflows.approval caller entity (draft.record e.newId e.time) with
  | ok state' =>
    rw [hanswer] at hstate
    cases hstate
    rfl
  | error error =>
    rw [hanswer] at hstate
    cases hstate

/-- A record that was created stands under an identifier that was free. -/
theorem created_ok {entity : Entity} {draft : Draft} {created : Record}
    (h : (Call.create entity draft).serve e store = (.ok created, after)) :
    created = draft.record e.newId e.time ∧ store.find? e.newId = none ∧ after = store.put created := by
  have hserve : (Call.create entity draft).serve e store =
      ((e.create store draft).1.mapError Fault.ofStoreError, (e.create store draft).2) := rfl
  rw [hserve] at h
  rcases e.create_cases store draft with ⟨hfree, hcreate⟩ | ⟨-, hcreate⟩
  · rw [hcreate] at h
    cases h
    exact ⟨rfl, hfree, rfl⟩
  · rw [hcreate] at h
    cases h

theorem serve_write (entity : Entity) (id : Uuid) (guard : Predicate) (w : Write) (actor : String)
    (e : Surroundings) (store : Store) :
    (Call.write entity id guard w actor).serve e store =
      (.ok (store.write entity id guard w ⟨actor, e.time⟩).1,
        (store.write entity id guard w ⟨actor, e.time⟩).2) := rfl

/-- A missed write is explained without writing, and never ends well. -/
theorem explainMiss_fails (ctx : Context) (entity : Entity) (deleted : Bool) (id : Uuid) :
    (explainMiss ctx entity deleted id : Call Record).Obeys Demand.ReadOnly (WhenOk fun _ => False) := by
  refine Call.obeys_store_bind trivial fun found => ?_
  split
  · split <;> exact Call.obeys_fail
  · exact Call.obeys_fail

/-- A write that is committed has been applied to the record under the identifier, which met the
guard. -/
theorem commit_ok {entity : Entity} {id : Uuid} {p : Predicate} {w : Write} {deleted : Bool}
    {written : Record}
    (h : (commit ctx entity deleted id p w).serve e store = (.ok written, after)) :
    ∃ before, store.find? id = some before ∧
      Store.concerns entity (p.both unlocked) before = true ∧
      written = w.apply ⟨ctx.user, e.time⟩ before ∧ after = ⟨store.records.insert id written⟩ := by
  unfold commit at h
  obtain ⟨found, mid, hwrite, h⟩ := Call.exists_serve_of_bind h
  rw [serve_write, Store.write] at hwrite
  rcases store.change_cases entity id (p.both unlocked) (w.apply ⟨ctx.user, e.time⟩) with
    ⟨before, hfind, hguard, hchange⟩ | ⟨-, hchange⟩
  · rw [hchange] at hwrite
    cases hwrite
    cases h
    exact ⟨before, hfind, hguard, rfl, rfl⟩
  · rw [hchange] at hwrite
    cases hwrite
    have hmissed : (explainMiss ctx entity deleted id : Call Record).serve e store =
      (.ok written, after) := h
    have hfails := ((explainMiss_fails ctx entity deleted id).serve_readOnly e store).2
    rw [hmissed] at hfails
    exact hfails.elim

end Service

/-! ## Creations -/

/-- Each payload that names a key that may not be written is refused for the first such key, and changes
nothing. -/
def Refuses {α : Type} (call : Json → Call α) (access : Access) (entity : Entity) (action : Action)
    (e : Surroundings) (store : Store) : Prop :=
  ∀ payload : Dict String Json,
    (∃ key, (payload.get? key).isSome = true ∧ ¬ access.MayWrite entity action key) →
      ∃ key, access.FirstRefused entity action payload key ∧
        (call (.ofDict payload)).serve e store = (.error (.notWritable key), store)

namespace Service

/-- What a creation does: it puts a record with the data that the payload names, in the state of approval
that is decided for it, under an identifier that was free. -/
structure Created (s : Service) (ctx : Context) (e : Surroundings) (entity : Entity) (access : Access)
    (members : List (String × Json)) (store after : Store) : Prop where
  writable : ∀ m ∈ members, access.MayWrite entity .create m.1
  added : ∃ data state r, entity.TakesIn members ∅ data ∧
    s.workflows.approval ctx.toCaller entity
      (Draft.record ⟨ctx.tenant, entity.name, ctx.user, data, none⟩ e.newId e.time) = .ok state ∧
    r = Draft.record ⟨ctx.tenant, entity.name, ctx.user, data, state⟩ e.newId e.time ∧
    store.find? e.newId = none ∧ ∀ id, after.find? id = if id = e.newId then some r else store.find? id

/-- What is checked before a creation looks at its payload. -/
structure ClearedToCreate (s : Service) (ctx : Context) (name : String) (e : Surroundings)
    (entity : Entity) (access : Access) : Prop where
  find : s.schema.find name = .ok entity
  granted : e.access ctx.toCaller = .ok access
  permission : ∃ u, access.authorize entity.name .create = .ok u
  mask : ∃ mask, access.readMask entity = .ok mask

/-- The part of a creation that comes before its payload. -/
def createClearance (s : Service) (ctx : Context) (name : String) :
    Call (Entity × Access × Permission × FieldMask) := do
  let (entity, access) ← s.enter ctx name
  let permission ← .done (access.authorize entity.name .create)
  let mask ← .done (access.readMask entity)
  return (entity, access, permission, mask)

/-- The part of a creation that is about its payload. -/
def createCleared (s : Service) (ctx : Context) (payload : Json) :
    Entity × Access × Permission × FieldMask → Call Json
  | (entity, _, permission, mask) => do
    let data ← s.newData ctx (mask.restrict permission) entity payload
    let draft : Draft := { tenant := ctx.tenant, entity := entity.name, author := ctx.user, data }
    let approval ← Call.approval s.workflows ctx.toCaller entity draft
    let created ← Call.create entity { draft with approval }
    Call.audit (.of ctx.toCaller .create entity.name created.id created.additions)
    Call.notify (.of .created ctx.toCaller created created.additions)
    return shown mask created.members

section Create

variable (s : Service) (ctx : Context) (name : String) {e : Surroundings} {store after : Store}
  {entity : Entity} {access : Access} {u : Permission} {mask : FieldMask}

theorem create_eq (payload : Json) :
    s.create ctx name payload = s.createClearance ctx name >>= s.createCleared ctx payload := by
  rw [create, createClearance, Call.bind_assoc]
  exact congrArg (_ >>= ·) (funext fun ⟨entity, access⟩ => by simp only [Call.bind_assoc]; rfl)

theorem createClearance_readOnly :
    (s.createClearance ctx name).Obeys Demand.ReadOnly (WhenOk fun _ => True) := by
  refine (enter_obeys s name trivial).bind' fun x _ => Call.obeys_done_bind' fun permission _ => ?_
  exact Call.obeys_done_bind' fun mask _ => Call.obeys_pure trivial

variable {s ctx name}

theorem createClearance_ok
    (h : (s.createClearance ctx name).serve e store = (.ok (entity, access, u, mask), after)) :
    s.schema.find name = .ok entity ∧ e.access ctx.toCaller = .ok access ∧
      access.authorize entity.name .create = .ok u ∧ access.readMask entity = .ok mask ∧
      store = after := by
  obtain ⟨⟨entity', access'⟩, _, henter, h⟩ := Call.exists_serve_of_bind h
  obtain ⟨hfind, hgranted, rfl⟩ := enter_ok henter
  dsimp only at h
  obtain ⟨permission, hauth, h⟩ := Call.exists_ok_of_bind h
  obtain ⟨mask', hmask, h⟩ := Call.exists_ok_of_bind h
  cases h
  exact ⟨hfind, hgranted, hauth, hmask, rfl⟩

theorem serve_createClearance (hfind : s.schema.find name = .ok entity)
    (hgranted : e.access ctx.toCaller = .ok access)
    (hauth : access.authorize entity.name .create = .ok u) (hmask : access.readMask entity = .ok mask) :
    (s.createClearance ctx name).serve e store = (.ok (entity, access, u, mask), store) := by
  rw [createClearance, Call.serve_bind_ok (serve_enter hfind hgranted)]
  dsimp only
  rw [hauth, hmask]
  rfl

theorem createCleared_ok {payload shown : Json}
    (hauth : access.authorize entity.name .create = .ok u) (hmask : access.readMask entity = .ok mask)
    (h : (s.createCleared ctx payload (entity, access, u, mask)).serve e store = (.ok shown, after)) :
    ∃ members, payload = .object members ∧ s.Created ctx e entity access members store after := by
  obtain ⟨data, _, hdata, h⟩ := Call.exists_serve_of_bind h
  obtain ⟨rfl, members, changes, hobject, hwritable, hgathered, rfl⟩ := newData_ok hdata
  obtain ⟨state, _, hdecided, h⟩ := Call.exists_serve_of_bind h
  obtain ⟨rfl, hstate⟩ := approval_ok hdecided
  obtain ⟨created, _, hcreate, h⟩ := Call.exists_serve_of_bind h
  obtain ⟨rfl, hfree, rfl⟩ := created_ok hcreate
  have hmay : ∀ m ∈ members, access.MayWrite entity .create m.1 := fun m hm =>
    (Access.mayWrite_iff hauth hmask).2 (FieldMask.checkWritable_eq_ok.1 hwritable m hm)
  have hdata := hgathered.takesIn_values fun m hm => (hmay m hm).declared
  refine ⟨members, hobject, hmay, _, state, _, hdata, hstate, rfl, hfree, fun id => ?_⟩
  cases h
  exact Store.find?_put ..

theorem create_ok {payload shown : Json}
    (h : (s.create ctx name payload).serve e store = (.ok shown, after)) :
    ∃ entity access members, s.schema.find name = .ok entity ∧ e.access ctx.toCaller = .ok access ∧
      payload = .object members ∧ s.Created ctx e entity access members store after := by
  rw [create_eq] at h
  obtain ⟨⟨entity, access, u, mask⟩, _, hclear, h⟩ := Call.exists_serve_of_bind h
  obtain ⟨hfind, hgranted, hauth, hmask, rfl⟩ := createClearance_ok hclear
  obtain ⟨members, hobject, hcreated⟩ := createCleared_ok hauth hmask h
  exact ⟨entity, access, members, hfind, hgranted, hobject, hcreated⟩

theorem create_refuses (h : s.ClearedToCreate ctx name e entity access) (store : Store) :
    Refuses (s.create ctx name) access entity .create e store := by
  intro payload hbad
  obtain ⟨hfind, hgranted, ⟨u, hauth⟩, mask, hmask⟩ := h
  obtain ⟨key, hfirst, herror⟩ := payloadMembers_error hauth hmask hbad
  refine ⟨key, hfirst, ?_⟩
  rw [create_eq, Call.serve_bind_ok (serve_createClearance hfind hgranted hauth hmask)]
  refine Call.serve_bind_error (Call.serve_bind_error ?_)
  rw [herror]
  rfl

/-- A creation is cleared, or refused without regard to its payload. -/
theorem cleared_or_refused_create (s : Service) (ctx : Context) (name : String) (e : Surroundings)
    (store : Store) :
    (∃ entity access, s.ClearedToCreate ctx name e entity access) ∨
      ∃ fault, ∀ payload, (s.create ctx name payload).serve e store = (.error fault, store) := by
  simp only [create_eq]
  refine ((createClearance_readOnly s ctx name).serve_or_refused _ e store).imp_left ?_
  rintro ⟨⟨entity, access, u, mask⟩, hclear⟩
  obtain ⟨hfind, hgranted, hauth, hmask, -⟩ := createClearance_ok hclear
  exact ⟨entity, access, hfind, hgranted, ⟨u, hauth⟩, mask, hmask⟩

end Create

end Service

/-! ## Updates -/

/-- A record that is singled out by its identifier is found under it, in whatever order the store is
walked. -/
theorem Store.Keyed.find?_reachable {store : Store} (hkeyed : store.Keyed) (e : Surroundings)
    (ctx : Context) (entity : Entity) (deleted : Bool) (id : Uuid) (condition : Predicate) :
    (e.order store.records.values).find?
        (Store.concerns entity (Service.reachable ctx entity deleted id condition)) =
      (store.find? id).filter
        (Store.concerns entity (Service.reachable ctx entity deleted id condition)) := by
  cases hfound : (e.order store.records.values).find?
      (Store.concerns entity (Service.reachable ctx entity deleted id condition)) with
  | none =>
    rw [List.find?_eq_none] at hfound
    symm
    rw [Option.filter_eq_none_iff]
    intro r hr
    exact hfound r ((e.order_perm _).mem_iff.2 (Store.mem_values.2 ⟨id, hr⟩))
  | some r =>
    obtain ⟨hstored, hconcerns⟩ := e.mem_of_found hfound
    obtain ⟨key, hkey⟩ := Store.mem_values.1 hstored
    have hid : r.id = id := ((r.meets_reachable ..).1 (Store.concerns_iff.1 hconcerns).2).2.2.2.1
    have hfind : store.find? id = some r := by rw [← hid, hkeyed key r hkey, hkey]
    rw [hfind, Option.filter_some, if_pos hconcerns]

namespace Service

/-- What an update does: in the record of an identifier it changes the data that the payload names, and
notes who changed it and when. -/
structure Updated (ctx : Context) (e : Surroundings) (entity : Entity) (access : Access) (id : Uuid)
    (members : List (String × Json)) (store after : Store) : Prop where
  writable : ∀ m ∈ members, access.MayWrite entity .update m.1
  changed : ∃ before data, store.find? id = some before ∧ entity.TakesIn members before.data data ∧
    ∀ other, after.find? other =
      if other = id then some { before with data, updatedAt := e.time, updatedBy := ctx.user }
      else store.find? other

/-- What is checked before an update looks at its payload: that the record is there for the caller and
not locked comes last. -/
structure ClearedToUpdate (s : Service) (ctx : Context) (name text : String) (e : Surroundings)
    (store : Store) (entity : Entity) (access : Access) : Prop where
  find : s.schema.find name = .ok entity
  granted : e.access ctx.toCaller = .ok access
  permission : ∃ u, access.authorize entity.name .update = .ok u
  mask : ∃ mask, access.readMask entity = .ok mask
  target : ∃ id condition r, recordId entity text = .ok id ∧
    forced ctx access entity .update = .ok condition ∧ store.find? id = some r ∧
    Store.concerns entity (reachable ctx entity false id condition) r = true ∧ r.isLocked = false

/-- What an update has established once it comes to its payload. -/
structure UpdateClearance where
  entity : Entity
  access : Access
  permission : Permission
  condition : Predicate
  mask : FieldMask
  id : Uuid
  before : Record

/-- The part of an update that comes before its payload. -/
def updateClearance (s : Service) (ctx : Context) (name text : String) : Call UpdateClearance := do
  let (entity, access) ← s.enter ctx name
  let permission ← .done (access.authorize entity.name .update)
  let condition ← .done (forced ctx access entity .update)
  let mask ← .done (access.readMask entity)
  let id ← .done (recordId entity text)
  let before ← fetchUnlocked entity id (reachable ctx entity false id condition)
  return ⟨entity, access, permission, condition, mask, id, before⟩

/-- The part of an update that is about its payload. -/
def updateCleared (s : Service) (ctx : Context) (payload : Json) (c : UpdateClearance) : Call Json := do
  let members ← .done (payloadMembers (c.mask.restrict c.permission) payload)
  let changes ← s.gather ctx members c.entity.fields ∅
  let after ← commit ctx c.entity false c.id (reachable ctx c.entity false c.id c.condition)
    (.update changes)
  Call.audit (.of ctx.toCaller .update c.entity.name c.id (c.before.changes after))
  Call.notify (.of .updated ctx.toCaller after (c.before.changes after))
  return shown c.mask after.members

section Update

variable (s : Service) (ctx : Context) (name text : String) {e : Surroundings} {store after : Store}
  {entity : Entity} {access : Access} {c : UpdateClearance}

theorem update_eq (payload : Json) :
    s.update ctx name text payload = s.updateClearance ctx name text >>= s.updateCleared ctx payload := by
  rw [update, updateClearance, Call.bind_assoc]
  exact congrArg (_ >>= ·) (funext fun ⟨entity, access⟩ => by simp only [Call.bind_assoc]; rfl)

/-- Before its payload an update asks for the access of its caller and for one record. -/
theorem updateClearance_obeys {P : Demand → Prop} (haccess : P (.access ctx.toCaller))
    (hfetch : ∀ entity p, P (.fetch entity p)) :
    (s.updateClearance ctx name text).Obeys P (WhenOk fun _ => True) := by
  refine (enter_obeys s name haccess).bind' fun x _ => Call.obeys_done_bind' fun permission _ => ?_
  refine Call.obeys_done_bind' fun condition _ => Call.obeys_done_bind' fun mask _ => ?_
  refine Call.obeys_done_bind' fun id _ => (fetchUnlocked_obeys (hfetch ..)).bind' fun before _ => ?_
  exact Call.obeys_pure trivial

variable {s ctx name text}

/-- What an update establishes before it comes to its payload. -/
structure UpdateClearance.Holds (s : Service) (ctx : Context) (name text : String) (e : Surroundings)
    (store : Store) (c : UpdateClearance) : Prop where
  find : s.schema.find name = .ok c.entity
  granted : e.access ctx.toCaller = .ok c.access
  permission : c.access.authorize c.entity.name .update = .ok c.permission
  condition : forced ctx c.access c.entity .update = .ok c.condition
  mask : c.access.readMask c.entity = .ok c.mask
  id : recordId c.entity text = .ok c.id
  found : (e.order store.records.values).find?
    (Store.concerns c.entity (reachable ctx c.entity false c.id c.condition)) = some c.before
  unlocked : c.before.isLocked = false

theorem updateClearance_ok
    (h : (s.updateClearance ctx name text).serve e store = (.ok c, after)) :
    store = after ∧ c.Holds s ctx name text e store := by
  obtain ⟨⟨entity, access⟩, _, henter, h⟩ := Call.exists_serve_of_bind h
  obtain ⟨hfind, hgranted, rfl⟩ := enter_ok henter
  dsimp only at h
  obtain ⟨permission, hauth, h⟩ := Call.exists_ok_of_bind h
  obtain ⟨condition, hcondition, h⟩ := Call.exists_ok_of_bind h
  obtain ⟨mask, hmask, h⟩ := Call.exists_ok_of_bind h
  obtain ⟨id, hid, h⟩ := Call.exists_ok_of_bind h
  obtain ⟨before, _, hfetch, h⟩ := Call.exists_serve_of_bind h
  rw [serve_fetchUnlocked] at hfetch
  obtain ⟨hread, rfl⟩ := Prod.mk.inj hfetch
  cases h
  have hfound : (e.order store.records.values).find?
      (Store.concerns entity (reachable ctx entity false id condition)) = some before ∧
        before.isLocked = false := by
    cases hr : (e.order store.records.values).find?
        (Store.concerns entity (reachable ctx entity false id condition)) with
    | none =>
      rw [hr] at hread
      cases hread
    | some r =>
      rw [hr] at hread
      cases hlocked : r.isLocked with
      | true =>
        simp only [hlocked] at hread
        cases hread
      | false =>
        simp only [hlocked] at hread
        cases hread
        exact ⟨rfl, hlocked⟩
  exact ⟨rfl, hfind, hgranted, hauth, hcondition, hmask, hid, hfound.1, hfound.2⟩

theorem serve_updateClearance (h : c.Holds s ctx name text e store) :
    (s.updateClearance ctx name text).serve e store = (.ok c, store) := by
  have hfetch : (fetchUnlocked c.entity c.id (reachable ctx c.entity false c.id c.condition)).serve e
      store = (.ok c.before, store) := by
    rw [serve_fetchUnlocked, h.found]
    simp only [h.unlocked]
    rfl
  rw [updateClearance, Call.serve_bind_ok (serve_enter h.find h.granted)]
  dsimp only
  rw [h.permission, h.condition, h.mask, h.id]
  exact Call.serve_bind_ok hfetch

theorem updateCleared_ok {payload shown : Json} (hc : c.Holds s ctx name text e store)
    (h : (s.updateCleared ctx payload c).serve e store = (.ok shown, after)) :
    ∃ members, payload = .object members ∧ Updated ctx e c.entity c.access c.id members store after := by
  obtain ⟨members, hmembers, h⟩ := Call.exists_ok_of_bind h
  obtain ⟨hobject, hwritable⟩ := payloadMembers_ok hmembers
  obtain ⟨changes, _, hgather, h⟩ := Call.exists_serve_of_bind h
  obtain ⟨rfl, hgathered⟩ := gather_ok hgather
  obtain ⟨written, _, hcommit, h⟩ := Call.exists_serve_of_bind h
  obtain ⟨before, hbefore, -, rfl, rfl⟩ := commit_ok hcommit
  have hmay : ∀ m ∈ members, c.access.MayWrite c.entity .update m.1 := fun m hm =>
    (Access.mayWrite_iff hc.permission hc.mask).2 (FieldMask.checkWritable_eq_ok.1 hwritable m hm)
  have hdata := hgathered.takesIn_update (fun m hm => (hmay m hm).declared) before ⟨ctx.user, e.time⟩
  refine ⟨members, hobject, hmay, before, _, hbefore, hdata, fun other => ?_⟩
  cases h
  exact Store.find?_insert ..

theorem update_ok {payload shown : Json}
    (h : (s.update ctx name text payload).serve e store = (.ok shown, after)) :
    ∃ entity access members id, s.schema.find name = .ok entity ∧ e.access ctx.toCaller = .ok access ∧
      payload = .object members ∧ Uuid.read? (trimmed text) = some id ∧
      Updated ctx e entity access id members store after := by
  rw [update_eq] at h
  obtain ⟨c, _, hclear, h⟩ := Call.exists_serve_of_bind h
  obtain ⟨rfl, hc⟩ := updateClearance_ok hclear
  obtain ⟨members, hobject, hupdated⟩ := updateCleared_ok hc h
  exact ⟨c.entity, c.access, members, c.id, hc.find, hc.granted, hobject, recordId_ok hc.id, hupdated⟩

/-- An update is cleared when it establishes all that it asks for before its payload. -/
theorem ClearedToUpdate.holds (h : s.ClearedToUpdate ctx name text e store entity access)
    (hkeyed : store.Keyed) :
    ∃ c : UpdateClearance, c.Holds s ctx name text e store ∧ c.entity = entity ∧ c.access = access := by
  obtain ⟨hfind, hgranted, ⟨u, hauth⟩, ⟨mask, hmask⟩, id, condition, r, hid, hcondition, hr, hreach,
    hunlocked⟩ := h
  refine ⟨⟨entity, access, u, condition, mask, id, r⟩, ?_, rfl, rfl⟩
  refine ⟨hfind, hgranted, hauth, hcondition, hmask, hid, ?_, hunlocked⟩
  rw [hkeyed.find?_reachable, hr, Option.filter_some, if_pos hreach]

/-- What an update is about to change stands in the store, within reach. -/
theorem UpdateClearance.Holds.stored (h : c.Holds s ctx name text e store) (hkeyed : store.Keyed) :
    store.find? c.id = some c.before ∧
      Store.concerns c.entity (reachable ctx c.entity false c.id c.condition) c.before = true := by
  have hfound := h.found
  rwa [hkeyed.find?_reachable, Option.filter_eq_some_iff] at hfound

theorem UpdateClearance.Holds.cleared (h : c.Holds s ctx name text e store) (hkeyed : store.Keyed) :
    s.ClearedToUpdate ctx name text e store c.entity c.access := by
  obtain ⟨hfound, hreach⟩ := h.stored hkeyed
  exact ⟨h.find, h.granted, ⟨_, h.permission⟩, ⟨_, h.mask⟩, c.id, c.condition, c.before, h.id,
    h.condition, hfound, hreach, h.unlocked⟩

theorem update_refuses (hkeyed : store.Keyed)
    (h : s.ClearedToUpdate ctx name text e store entity access) :
    Refuses (s.update ctx name text) access entity .update e store := by
  intro payload hbad
  obtain ⟨c, hc, rfl, rfl⟩ := h.holds hkeyed
  obtain ⟨key, hfirst, herror⟩ := payloadMembers_error hc.permission hc.mask hbad
  refine ⟨key, hfirst, ?_⟩
  rw [update_eq, Call.serve_bind_ok (serve_updateClearance hc)]
  refine Call.serve_bind_error ?_
  rw [herror]
  rfl

/-- An update is cleared, or refused without regard to its payload. -/
theorem cleared_or_refused_update (s : Service) (ctx : Context) (name text : String) (e : Surroundings)
    (hkeyed : store.Keyed) :
    (∃ entity access, s.ClearedToUpdate ctx name text e store entity access) ∨
      ∃ fault, ∀ payload, (s.update ctx name text payload).serve e store = (.error fault, store) := by
  simp only [update_eq]
  have hreads : (s.updateClearance ctx name text).Obeys Demand.ReadOnly (WhenOk fun _ => True) :=
    updateClearance_obeys s ctx name text trivial fun _ _ => trivial
  refine (hreads.serve_or_refused _ e store).imp_left ?_
  rintro ⟨c, hclear⟩
  exact ⟨c.entity, c.access, (updateClearance_ok hclear).2.cleared hkeyed⟩

end Update

/-! ## Frame -/

/-- **Writes touch only what the caller may write.**

A creation that ends well adds one record to the store and an update changes one, each in the data that
the payload names, and every key that is named may be written by the caller. Where a payload names any
other key it is refused for the first such key, and the store stays as it is, once entity, access,
permission, and for an update the identifier, the reach and the lock of the record have been checked. If
that check fails the answer is the same for every payload. -/
theorem writes_frame (s : Service) (ctx : Context) (name : String) (e : Surroundings) (store : Store) :
    (∀ payload shown after, (s.create ctx name payload).serve e store = (.ok shown, after) →
      ∃ entity access members, s.schema.find name = .ok entity ∧ e.access ctx.toCaller = .ok access ∧
        payload = .object members ∧ s.Created ctx e entity access members store after) ∧
    (∀ text payload shown after, (s.update ctx name text payload).serve e store = (.ok shown, after) →
      ∃ entity access members id, s.schema.find name = .ok entity ∧
        e.access ctx.toCaller = .ok access ∧ payload = .object members ∧
        Uuid.read? (trimmed text) = some id ∧ Updated ctx e entity access id members store after) ∧
    (∀ entity access, s.ClearedToCreate ctx name e entity access →
      Refuses (s.create ctx name) access entity .create e store) ∧
    ((¬ ∃ entity access, s.ClearedToCreate ctx name e entity access) →
      ∃ fault, ∀ payload, (s.create ctx name payload).serve e store = (.error fault, store)) ∧
    (store.Keyed → ∀ text,
      (∀ entity access, s.ClearedToUpdate ctx name text e store entity access →
        Refuses (s.update ctx name text) access entity .update e store) ∧
      ((¬ ∃ entity access, s.ClearedToUpdate ctx name text e store entity access) →
        ∃ fault, ∀ payload, (s.update ctx name text payload).serve e store = (.error fault, store))) := by
  refine ⟨fun _ _ _ => create_ok, fun _ _ _ _ => update_ok, fun _ _ h => create_refuses h store,
    (cleared_or_refused_create s ctx name e store).resolve_left, fun hkeyed text => ?_⟩
  exact ⟨fun _ _ => update_refuses hkeyed,
    (cleared_or_refused_update s ctx name text e hkeyed).resolve_left⟩

end Service

/-! ## A task -/

namespace Sample

/-- The store after a task has been created. -/
def planned : Store :=
  ((service.create ctx task.name (.object [("title", .string "Plan")])).serve (surroundings .nil)
    Store.empty).2

/-- A payload that only a workflow could mean. -/
def approving : Dict String Json := (∅ : Dict String Json).insert "approval" .null

theorem approving_refused (action : Action) :
    ∃ key, (approving.get? key).isSome = true ∧ ¬ staff.MayWrite task action key :=
  ⟨"approval", rfl, fun h => absurd h.notSystem (by decide)⟩

/-- The task can be changed by everyone on the staff. -/
theorem planned_cleared : service.ClearedToUpdate ctx task.name Uuid.nil.text (surroundings .nil) planned
    task staff := by
  have hfound : (planned.find? .nil).any (fun r =>
      Store.concerns task (Service.reachable ctx task false .nil .always) r && !r.isLocked) = true := by
    decide +kernel
  obtain ⟨r, hr, hopen⟩ := (Option.any_eq_true ..).1 hfound
  rw [Bool.and_eq_true, Bool.not_eq_true'] at hopen
  exact ⟨rfl, rfl, ⟨_, rfl⟩, ⟨_, rfl⟩, .nil, .always, r, by decide +kernel, rfl, hr, hopen⟩

end Sample

open Sample in
theorem Service.task_framed : ∃ created updated after key key',
    service.Created Sample.ctx (surroundings .nil) task staff created Store.empty planned ∧
      Updated Sample.ctx (surroundings .nil) task staff .nil updated planned after ∧
      (service.create Sample.ctx task.name (.ofDict approving)).serve (surroundings .nil) Store.empty =
        (.error (.notWritable key), Store.empty) ∧
      (service.update Sample.ctx task.name Uuid.nil.text (.ofDict approving)).serve (surroundings .nil)
        planned = (.error (.notWritable key'), planned) := by
  have hended {x : Except Fault Json × Store} (h : x.1.toOption.isSome = true) :
      ∃ shown, x = (.ok shown, x.2) := by
    obtain ⟨result, after⟩ := x
    cases result with
    | ok shown => exact ⟨shown, rfl⟩
    | error fault => cases h
  obtain ⟨hcreate, -, hrefuse, -⟩ :=
    writes_frame service Sample.ctx task.name (surroundings .nil) Store.empty
  obtain ⟨-, hupdate, -, -, hkeyed⟩ :=
    writes_frame service Sample.ctx task.name (surroundings .nil) planned
  obtain ⟨_, hcreation⟩ := hended (x := (service.create Sample.ctx task.name
    (.object [("title", .string "Plan")])).serve (surroundings .nil) Store.empty) (by decide +kernel)
  obtain ⟨_, _, created, hfind, hgranted, -, hcreated⟩ := hcreate _ _ _ hcreation
  cases hfind
  cases hgranted
  obtain ⟨_, hchange⟩ := hended (x := (service.update Sample.ctx task.name Uuid.nil.text
    (.object [("title", .string "Act")])).serve (surroundings .nil) planned) (by decide +kernel)
  obtain ⟨_, _, updated, id, hfind, hgranted, -, hid, hupdated⟩ := hupdate _ _ _ _ hchange
  cases hfind
  cases hgranted
  have hnil : Uuid.read? (trimmed Uuid.nil.text) = some .nil := by decide +kernel
  rw [hnil] at hid
  cases hid
  have hplanned : planned.Keyed := Store.Keyed.empty.serve (surroundings .nil) _
  have hcleared : service.ClearedToCreate Sample.ctx task.name (surroundings .nil) task staff :=
    ⟨rfl, rfl, ⟨_, rfl⟩, _, rfl⟩
  obtain ⟨key, -, hrefused⟩ := hrefuse _ _ hcleared _ (approving_refused .create)
  obtain ⟨key', -, hrefused'⟩ :=
    (hkeyed hplanned Uuid.nil.text).1 _ _ planned_cleared _ (approving_refused .update)
  exact ⟨created, updated, _, key, key', hcreated, hupdated, hrefused, hrefused'⟩

end Dossier
