import Dossier.Proofs.Echo
import Dossier.Proofs.GuardedWrites
import Dossier.Proofs.Origin
import Dossier.Proofs.Report
import Dossier.Proofs.SameForm
import Dossier.Proofs.WriteFrame

/-!
# Writing back what was read changes nothing

A caller reads a record and sends it back as it was shown, as far as the caller may write it. The update is
served, no value of the record is another one afterwards, and the audit trail and the notifiers are told of
an update that changed nothing.

**Who and what** (`Service.Editable`, `Service.Presentable`). The caller may read the record and change it.
Its dates are of years with four digits, as others are refused; the targets of its lookups are there; files
are known under their own identifiers; and nothing that is required is blank.

**On the way.** A payload becomes changes when each of its members is converted and each target found
(`Service.serve_gather`). The guard of the write holds of a record that is as it was read
(`Service.serve_commit`). What is told is followed along the call (`Call.Obeys.tellsIn_bind`), and what is
told of changes that leave every value the same is that there are none
(`Service.serve_update_unchanging`).

Main result: `World.write_back_changes_nothing`.
-/

namespace Dossier

/-! ## What is told -/

namespace Call

variable {α β : Type}

/-- What a call tells when nothing comes between its demands, in order. -/
def tellsIn (e : Surroundings) : Call α → Store → List Demand
  | .done _, _ => []
  | .ask d next, store =>
    (if d.tells then [d] else []) ++ (next (e.answer store d).1).tellsIn e (e.answer store d).2

/-- A call tells what is left of it after a part that tells nobody anything. -/
theorem Obeys.tellsIn_bind {P : Demand → Prop} {Q : Except Fault α → Prop} {c : Call α}
    (h : c.Obeys P Q) (hP : ∀ d, P d → d.tells = false) {f : α → Call β} {e : Surroundings}
    {store after : Store} {a : α} (hserve : c.serve e store = (.ok a, after)) :
    (c >>= f).tellsIn e store = (f a).tellsIn e after := by
  induction h generalizing store with
  | done h =>
    cases hserve
    rfl
  | @ask d next hd _ ih =>
    show (if d.tells then [d] else []) ++ _ = _
    rw [hP d hd]
    exact ih _ hserve

end Call

namespace Service

variable {s : Service} {ctx : Context} {e : Surroundings} {store : Store} {entity : Entity}

/-! ## Payloads that are taken -/

/-- The target that a lookup field refers to is there: a live record of a tenant. -/
def TargetThere (s : Service) (store : Store) (tenant : String) (target : LookupTarget) (id : String) :
    Prop :=
  ∃ entity uuid t, s.schema.find target.entity = .ok entity ∧ Uuid.read? id = some uuid ∧
    store.find? uuid = some t ∧ t.tenant = tenant ∧ t.entity = entity.name ∧ t.deleted = false

theorem serve_checkTarget (hkeyed : store.Keyed) (f : Field) {target : LookupTarget} {id : String}
    (h : s.TargetThere store ctx.tenant target id) :
    (s.checkTarget ctx f target id).serve e store = (.ok (), store) := by
  obtain ⟨found, uuid, t, hfind, hread, hstored, htenant, hbelongs, hlive⟩ := h
  have hmeets : Store.concerns found ((scope ctx.tenant found.name).both (byId uuid)) t = true := by
    rw [scope, Store.concerns_iff, t.meets_both, t.meets_scopeWhere, t.meets_byId]
    simp [htenant, hbelongs, hlive, hkeyed uuid t hstored]
  have hcount : (store.matching found ((scope ctx.tenant found.name).both (byId uuid))).length ≠ 0 := by
    rw [Ne, List.length_eq_zero_iff]
    exact List.ne_nil_of_mem (List.mem_filter.2 ⟨Store.mem_values.2 ⟨uuid, hstored⟩, hmeets⟩)
  have hentity : (Call.done ((Except.ok found : Except SchemaError Entity).mapError
      Fault.ofSchemaError)).serve e store = (.ok found, store) := rfl
  rw [checkTarget, hfind, Call.serve_bind_ok hentity, hread]
  dsimp only
  rw [Call.serve_bind_ok (serve_count e store found _), if_neg hcount]
  rfl

theorem serve_convert (hkeyed : store.Keyed) {f : Field} {raw : Json} {value : Option Value}
    (hconvert : f.convert raw = .ok value)
    (htarget : ∀ target, f.kind = .lookup → f.lookup = some target → ∀ id, value = some (.ref id) →
      s.TargetThere store ctx.tenant target id) :
    (s.convert ctx f raw).serve e store = (.ok value, store) := by
  have hdone : (Call.done ((f.convert raw).mapError Fault.invalid)).serve e store =
      (.ok value, store) := by
    rw [hconvert]
    rfl
  refine (Call.serve_bind_ok hdone).trans ?_
  dsimp only
  split
  · next target id hkind hlookup =>
    rw [Call.serve_bind_ok (serve_checkTarget hkeyed f (htarget target hkind hlookup id rfl))]
    rfl
  · rfl

/-- **A payload of which each member is converted becomes changes.** -/
theorem serve_gather {members : List (String × Json)} {fields : List Field}
    (h : ∀ f ∈ fields, ∀ raw, Entries.get? f.name members = some raw →
      (f.required = true → raw.isBlank = false) ∧
        ∃ value, (s.convert ctx f raw).serve e store = (.ok value, store)) (changes : Changes) :
    ∃ changes', (s.gather ctx members fields changes).serve e store = (.ok changes', store) := by
  induction fields generalizing changes with
  | nil => exact ⟨changes, rfl⟩
  | cons f rest ih =>
    have hrest := ih fun g hg => h g (List.mem_cons_of_mem _ hg)
    rw [gather]
    cases hraw : Entries.get? f.name members with
    | none => exact hrest changes
    | some raw =>
      obtain ⟨hpresent, value, hvalue⟩ := h f List.mem_cons_self raw hraw
      have hfield : (s.gatherField ctx f raw changes).serve e store =
          (.ok (changes.insert f.name value), store) := by
        have hnot : ¬ (f.required && raw.isBlank) = true := by
          rw [Bool.and_eq_true]
          rintro ⟨hrequired, hblank⟩
          rw [hpresent hrequired] at hblank
          cases hblank
        rw [gatherField, if_neg hnot, Call.serve_bind_ok hvalue]
        rfl
      obtain ⟨changes', hchanges'⟩ := hrest (changes.insert f.name value)
      exact ⟨changes', (Call.serve_bind_ok hfield).trans hchanges'⟩

/-! ## Writes that are committed -/

/-- **A record that is within reach and not locked is written.** -/
theorem serve_commit {id : Uuid} {r : Record} {p : Predicate} {deleted : Bool} (w : Write)
    (hfound : store.find? id = some r) (hreach : Store.concerns entity p r = true)
    (hunlocked : r.isLocked = false) :
    (commit ctx entity deleted id p w).serve e store =
      (.ok (w.apply ⟨ctx.user, e.time⟩ r), ⟨store.records.insert id (w.apply ⟨ctx.user, e.time⟩ r)⟩) := by
  have hguard : Store.concerns entity (p.both unlocked) r = true := by
    obtain ⟨hentity, hmeets⟩ := Store.concerns_iff.1 hreach
    rw [Store.concerns_iff, r.meets_both, hmeets, r.meets_unlocked, hunlocked]
    exact ⟨hentity, rfl⟩
  have hwrite : store.write entity id (p.both unlocked) w ⟨ctx.user, e.time⟩ =
      (some (w.apply ⟨ctx.user, e.time⟩ r), ⟨store.records.insert id (w.apply ⟨ctx.user, e.time⟩ r)⟩) := by
    rw [Store.write, Store.change, hfound]
    exact if_pos hguard
  rw [commit, Call.serve_bind_ok (serve_write ..), hwrite]
  rfl

/-! ## Updates -/

/-- **An update whose payload is taken is served**, and tells of the changes that were made. -/
theorem serve_update {name text : String} {c : UpdateClearance} {members : List (String × Json)}
    {changes : Changes} (hkeyed : store.Keyed) (hc : c.Holds s ctx name text e store)
    (hwritable : (c.mask.restrict c.permission).checkWritable members = .ok ())
    (hgather : (s.gather ctx members c.entity.fields ∅).serve e store = (.ok changes, store)) :
    let after := c.before.update changes ⟨ctx.user, e.time⟩
    (s.update ctx name text (.object members)).serve e store =
        (.ok (shown c.mask after.members), ⟨store.records.insert c.id after⟩) ∧
      (s.update ctx name text (.object members)).tellsIn e store =
        [.audit (.of ctx.toCaller .update c.entity.name c.id (c.before.changes after)),
          .notify (.of .updated ctx.toCaller after (c.before.changes after))] := by
  intro after
  obtain ⟨hfound, hreach⟩ := hc.stored hkeyed
  have hclear := serve_updateClearance hc
  have hcommit : (commit ctx c.entity false c.id (reachable ctx c.entity false c.id c.condition)
      (.update changes)).serve e store = (.ok after, ⟨store.records.insert c.id after⟩) :=
    serve_commit (.update changes) hfound hreach hc.unlocked
  have hmembers : payloadMembers (c.mask.restrict c.permission) (.object members) = .ok members := by
    rw [payloadMembers, hwritable]
    rfl
  rw [update_eq]
  constructor
  · rw [Call.serve_bind_ok hclear, updateCleared, hmembers]
    refine (Call.serve_bind_ok hgather).trans ((Call.serve_bind_ok hcommit).trans ?_)
    rfl
  · have hasks : (s.updateClearance ctx name text).Obeys Demand.Silent (WhenOk fun _ => True) :=
      updateClearance_obeys s ctx name text trivial fun _ _ => trivial
    rw [hasks.tellsIn_bind (fun _ => Demand.Silent.tells) hclear, updateCleared, hmembers]
    have hsilent := gather_obeys (silent_targets s ctx) members c.entity.fields [] ∅ .nil
    refine (hsilent.tellsIn_bind (fun _ => Demand.Silent.tells) hgather).trans ?_
    have huntold : (commit ctx c.entity false c.id (reachable ctx c.entity false c.id c.condition)
        (.update changes)).Obeys (fun d => d.tells = false) (WhenOk fun _ => True) :=
      commit_obeys rfl rfl
    exact (huntold.tellsIn_bind (fun _ h => h) hcommit).trans rfl

end Service

/-! ## Writing back -/

/-- Changes that were gathered from documents that are each read as what the record has leave its data the
same. -/
theorem Gathered.sameData {members : List (String × Json)} {entity : Entity} {changes : Changes}
    (h : Gathered members entity.fields changes) {r : Record} (hfits : entity.Fits r.data)
    (hread : ∀ f ∈ entity.fields, ∀ raw, Entries.get? f.name members = some raw →
      ∃ v, r.data.get? f.name = some v ∧ f.Reads raw v)
    (stamp : Stamp) : SameData r.data (r.update changes stamp).data := by
  intro key
  rw [Record.get?_update]
  cases hchange : changes.get? key with
  | none =>
    cases hv : r.data.get? key with
    | none => exact .none
    | some v =>
      obtain ⟨f, hf, rfl⟩ := hfits.declared key v hv
      exact .some (hfits.holds f hf v hv).same_refl
  | some change =>
    obtain ⟨f, hf, rfl, raw, hraw, hconvert, -⟩ := h.sound hchange
    obtain ⟨v, hv, w, hw, hsame⟩ := hread f hf raw hraw
    rw [hconvert] at hw
    rw [hv, Except.ok.inj hw]
    exact .some hsame

theorem Access.MayWrite.canRead {access : Access} {entity : Entity} {action : Action} {field : String}
    {mask : FieldMask} (h : access.MayWrite entity action field)
    (hmask : access.readMask entity = .ok mask) : mask.canRead field = true := by
  obtain ⟨read, hread, rfl⟩ := Access.readMask_ok hmask
  obtain ⟨f, hf, rfl⟩ := h.declared
  rw [FieldMask.canRead, FieldMask.access_ofPermission hf, (Access.access_eq_readWrite hread).2 h.read]
  rfl

namespace Service

/-- A record that a caller may read, and may change by a later request. -/
structure Editable (ctx later : Context) (access : Access) (entity : Entity) (store : Store) (id : Uuid)
    (r : Record) : Prop where
  found : store.find? id = some r
  tenant : r.tenant = ctx.tenant
  belongs : r.entity = entity.name
  live : r.deleted = false
  unlocked : ¬ r.Pending
  readable : ∃ condition, forced ctx access entity .read = .ok condition ∧ r.meets condition = true
  changeable : ∃ condition, forced later access entity .update = .ok condition ∧ r.meets condition = true

/-- A record that can be sent as it is shown: its dates are of years of four digits, the targets of its
lookups are there, files are known under their own identifiers, and nothing that is required is blank. -/
structure Presentable (s : Service) (e : Surroundings) (store : Store) (entity : Entity) (r : Record) :
    Prop where
  dates : ∀ f ∈ entity.fields, ∀ t, r.data.get? f.name = some (.date t) → t.InFourDigitYear
  targets : ∀ f ∈ entity.fields, ∀ target, f.kind = .lookup → f.lookup = some target → ∀ id,
    r.data.get? f.name = some (.ref id) → s.TargetThere store r.tenant target id
  files : e.NamesFiles r.tenant
  present : ∀ f ∈ entity.fields, f.required = true → ∀ v, r.data.get? f.name = some v →
    v.render.isBlank = false

variable {s : Service} {ctx later : Context} {e e' : Surroundings} {store : Store} {entity : Entity}
  {access : Access} {name text : String} {id : Uuid} {r : Record}

theorem Editable.reach (h : Editable ctx later access entity store id r) (hkeyed : store.Keyed)
    {caller : Context} (hcaller : caller.tenant = ctx.tenant) {condition : Predicate}
    (hmeets : r.meets condition = true) (e : Surroundings) :
    (e.order store.records.values).find?
      (Store.concerns entity (reachable caller entity false id condition)) = some r := by
  have hreach : Store.concerns entity (reachable caller entity false id condition) r = true := by
    rw [Store.concerns_iff, r.meets_reachable]
    exact ⟨h.belongs, by rw [h.tenant, hcaller], h.belongs, h.live, hkeyed id r h.found, hmeets⟩
  rw [hkeyed.find?_reachable, h.found, Option.filter_some, if_pos hreach]

/-- What an update has established once it comes to the payload for a record that may be changed. -/
theorem Editable.clearance (h : Editable ctx later access entity store id r) (hkeyed : store.Keyed)
    (hcaller : later.toCaller = ctx.toCaller) (hfind : s.schema.find name = .ok entity)
    (hgranted : e'.access ctx.toCaller = .ok access) (hid : recordId entity text = .ok id)
    {mask : FieldMask} (hmask : access.readMask entity = .ok mask) :
    ∃ permission condition,
      UpdateClearance.Holds s later name text e' store
        ⟨entity, access, permission, condition, mask, id, r⟩ := by
  obtain ⟨condition, hforced, hmeets⟩ := h.changeable
  obtain ⟨permission, hauth, -⟩ := forced_ok hforced
  have hunlocked : r.isLocked = false := by
    rw [Bool.eq_false_iff, Ne, r.isLocked_iff]
    exact h.unlocked
  exact ⟨permission, condition, hfind, hcaller ▸ hgranted, hauth, hforced, hmask, hid,
    h.reach hkeyed (congrArg Caller.tenant hcaller) hmeets e', hunlocked⟩

/-- **A payload that a record has everything of changes nothing in it.** -/
theorem serve_update_unchanging {c : UpdateClearance} {sent : List (String × Json)}
    (hkeyed : store.Keyed) (hc : c.Holds s ctx name text e store) (hfits : c.entity.Fits c.before.data)
    (hwritable : ∀ m ∈ sent, c.access.MayWrite c.entity .update m.1)
    (htargets : ∀ f ∈ c.entity.fields, ∀ target, f.kind = .lookup → f.lookup = some target → ∀ id,
      c.before.data.get? f.name = some (.ref id) → s.TargetThere store ctx.tenant target id)
    (hread : ∀ f ∈ c.entity.fields, ∀ raw, Entries.get? f.name sent = some raw →
      (f.required = true → raw.isBlank = false) ∧
        ∃ v, c.before.data.get? f.name = some v ∧ f.Reads raw v) :
    ∃ shown after, after = { c.before with data := after.data, updatedAt := e.time, updatedBy := ctx.user } ∧
      SameData c.before.data after.data ∧
      (s.update ctx name text (.object sent)).serve e store =
        (.ok shown, ⟨store.records.insert c.id after⟩) ∧
      (s.update ctx name text (.object sent)).tellsIn e store =
        [.audit (.of ctx.toCaller .update c.entity.name c.id []),
          .notify (.of .updated ctx.toCaller after [])] := by
  obtain ⟨changes, hgather⟩ : ∃ changes,
      (s.gather ctx sent c.entity.fields ∅).serve e store = (.ok changes, store) := by
    refine serve_gather (fun f hf raw hraw => ?_) ∅
    obtain ⟨hpresent, v, hv, w, hconvert, hsame⟩ := hread f hf raw hraw
    refine ⟨hpresent, some w, serve_convert hkeyed hconvert fun target hkind hlookup id hid => ?_⟩
    obtain rfl : w = .ref id := Option.some.inj hid
    rw [Value.eq_of_same_ref hsame] at hv
    exact htargets f hf target hkind hlookup id hv
  have hmask : (c.mask.restrict c.permission).checkWritable sent = .ok () :=
    FieldMask.checkWritable_eq_ok.2 fun m hm =>
      (Access.mayWrite_iff hc.permission hc.mask).1 (hwritable m hm)
  have hdata : SameData c.before.data (c.before.update changes ⟨ctx.user, e.time⟩).data :=
    (gather_ok hgather).2.sameData hfits (fun f hf raw hraw => (hread f hf raw hraw).2) _
  obtain ⟨hserve, htells⟩ := serve_update hkeyed hc hmask hgather
  rw [Record.changes_eq_nil hdata rfl] at htells
  exact ⟨_, _, rfl, hdata, hserve, htells⟩

end Service

namespace World

variable {s : Service}

/-- What a store that came about through a service has in a field can be read back. -/
theorem holds_stable_of_run (hs : s.schema.Registered) (events : List Event) {id : Uuid} {r : Record}
    (hr : ((quiet .empty).run s events).store.find? id = some r) {entity : Entity}
    (hfind : s.schema.find r.entity = .ok entity) {f : Field} (hf : f ∈ entity.fields) {v : Value}
    (hv : r.data.get? f.name = some v) (hdate : ∀ t, v = .date t → t.InFourDigitYear) :
    f.Holds v ∧ f.Stable v := by
  obtain ⟨q, raw, hmade⟩ := run_stores_sent_values hs events hr hfind hf hv
  exact ⟨Field.convert_holds hmade.converts, Field.stable_of_convert hmade.converts fun _ => hdate⟩

open Service in
/-- **Writing back what was read changes nothing.**

In every store that came about through the service, a caller is served a record that is within the row
condition for reading. Everything in the response that the caller may write, or any part of it, can be sent
back while nothing else happens: the update is served, each value of the record is the same as before, and
the audit trail and the notifiers are told of no changes. What may be written and has a value is in the
response. -/
theorem write_back_changes_nothing (hs : s.schema.Registered) (events : List Event) {store : Store}
    (hstore : ((quiet .empty).run s events).store = store) {ctx later : Context} {e e' : Surroundings}
    {entity : Entity} {access : Access} {name text : String} {id : Uuid} {r : Record}
    (hcaller : later.toCaller = ctx.toCaller) (hgranted : e.access ctx.toCaller = .ok access)
    (hgranted' : e'.access ctx.toCaller = .ok access) (hfind : s.schema.find name = .ok entity)
    (hid : recordId entity text = .ok id) (hedit : Editable ctx later access entity store id r)
    (hshow : s.Presentable e store entity r) :
    ∃ members, (s.get ctx name text).serve e store = (.ok (.object members), store) ∧
      (∀ field, access.MayWrite entity .update field → (r.data.get? field).isSome →
        (Entries.get? field members).isSome) ∧
      ∀ sent : List (String × Json), sent.Sublist members →
        (∀ m ∈ sent, access.MayWrite entity .update m.1) →
        ∃ shown after,
          after = { r with data := after.data, updatedAt := e'.time, updatedBy := later.user } ∧
          SameData r.data after.data ∧
          (s.update later name text (.object sent)).serve e' store =
            (.ok shown, ⟨store.records.insert id after⟩) ∧
          (s.update later name text (.object sent)).tellsIn e' store =
            [.audit (.of later.toCaller .update entity.name id []),
              .notify (.of .updated later.toCaller after [])] := by
  have htyped := typed_of_run hs events
  rw [hstore] at htyped
  have hkeyed : store.Keyed := htyped.keyed
  have he := (hs.sound hfind).2
  have hfind' : s.schema.find r.entity = .ok entity := by rw [hedit.belongs, hs.find_name hfind]
  have hfits : entity.Fits r.data := by
    obtain ⟨entity', hfind'', hfits⟩ := htyped.typed id r hedit.found
    rwa [Except.ok.inj (hfind'.symm.trans hfind'')]
  obtain ⟨condition, hforced, hmeets⟩ := hedit.readable
  obtain ⟨read, hauth, -⟩ := forced_ok hforced
  have hmask : access.readMask entity = .ok (.ofPermission entity read) := by
    rw [Access.readMask, hauth]
    rfl
  obtain ⟨v, hv, hget⟩ := serve_get he (hedit.tenant ▸ hshow.files) hfind hgranted hforced hmask hid
    (hedit.reach hkeyed rfl hmeets e)
  refine ⟨_, hget, fun field hmay hsome => ?_, fun sent hsent hmay => ?_⟩
  · obtain ⟨f, hf, rfl⟩ := hmay.declared
    rw [FieldMask.get?_apply, hmay.canRead hmask, Bool.or_true, if_pos rfl]
    exact hv.isSome hf hsome
  · obtain ⟨permission, condition', hc⟩ :=
      hedit.clearance hkeyed hcaller hfind hgranted' hid hmask
    refine serve_update_unchanging hkeyed hc hfits hmay (fun f hf target hkind hlookup id hvalue => ?_)
      fun f hf raw hraw => ?_
    · have hthere := hshow.targets f hf target hkind hlookup id hvalue
      rwa [hedit.tenant, ← congrArg Caller.tenant hcaller] at hthere
    · have hmem := List.mem_of_mem_filter (hsent.subset (Entries.mem_of_get? hraw))
      obtain ⟨value, hvalue, hreads, hform⟩ := hv.reads hf (fun value hvalue =>
        holds_stable_of_run hs events (hstore ▸ hedit.found) hfind' hf hvalue fun t ht =>
          hshow.dates f hf t (ht ▸ hvalue)) (hv.sorted.get?_of_mem hmem)
      refine ⟨fun hrequired => ?_, value, hvalue, hreads⟩
      rcases hform with rfl | ⟨members, rfl⟩
      · exact hshow.present f hf hrequired value hvalue
      · rfl

end World

/-! ## A voucher -/

namespace Sample

def voucher : Entity :=
  ⟨"voucher", none, [{ Field.plain "title" .text with required := true }, .plain "price" .currency,
    .plain "due" .date, .plain "scan" .file,
    { Field.plain "after" .lookup with lookup := some ⟨"voucher", "title"⟩ }]⟩

def vouchers : Service := { schema := ⟨(∅ : Dict String Entity).insert voucher.name voucher⟩ }

/-- Surroundings in which there is a file for every identifier. -/
def archive : Surroundings :=
  { surroundings .nil with file := fun _ id => some ⟨id, "scan.pdf", "/files"⟩ }

def second : Uuid := ⟨7, by decide⟩

/-- A call that creates a voucher, and one that creates another that refers to it. -/
def issued : List Event :=
  [.arrive ⟨ctx, "voucher", .create (.object [("title", .string "First")])⟩, .proceed 0 archive,
    .proceed 0 archive, .proceed 0 archive,
    .arrive ⟨ctx, "voucher", .create (.object [("after", .string Uuid.nil.text),
      ("due", .string "2024-02-29T12:00:00+01:00"), ("price", .string "10.50"),
      ("scan", .string "f1"), ("title", .string "Second")])⟩,
    .proceed 1 archive, .proceed 1 archive, .proceed 1 archive,
    .proceed 1 { archive with newId := second }]

def filed : Store := ((World.quiet .empty).run vouchers issued).store

def isVoucher (r : Record) : Bool :=
  r.tenant == ctx.tenant && r.entity == voucher.name && r.deleted == false && r.isLocked == false

def presentable (f : Field) (v : Value) : Bool :=
  v.render.isBlank == false &&
    match v with
    | .date t => decide t.InFourDigitYear
    | .ref id => f.kind != .lookup || id == Uuid.nil.text
    | _ => true

theorem voucher_mayWrite {f : Field} (hf : f ∈ voucher.fields) (action : Action) :
    staff.MayWrite voucher action f.name := by
  have hallows (action : Action) : staff.Allows voucher.name action .allow :=
    ⟨_, List.mem_singleton_self _, _, .inr ⟨rfl, rfl⟩, by cases action <;> rfl, rfl⟩
  refine ⟨⟨f, hf, rfl⟩, ?_, ⟨_, hallows .read, rfl⟩, _, hallows action, rfl⟩
  revert f
  decide

/-- Both vouchers are there, and the second can be sent as it is shown. -/
theorem filed_vouchers : (filed.find? .nil).any isVoucher = true ∧
    (filed.find? second).any (fun r => isVoucher r &&
      voucher.fields.all fun f => (r.data.get? f.name).all (presentable f)) = true := by
  decide +kernel

theorem isVoucher_iff {r : Record} : isVoucher r = true ↔
    r.tenant = ctx.tenant ∧ r.entity = voucher.name ∧ r.deleted = false ∧ r.isLocked = false := by
  simp only [isVoucher, Bool.and_eq_true, beq_iff_eq, and_assoc]

theorem voucher_presentable {r : Record} (htenant : r.tenant = ctx.tenant)
    (hfields : ∀ f ∈ voucher.fields, (r.data.get? f.name).all (presentable f) = true) :
    vouchers.Presentable archive filed voucher r := by
  have hvalue {f : Field} (hf : f ∈ voucher.fields) {v : Value} (hv : r.data.get? f.name = some v) :
      presentable f v = true := by
    have hf := hfields f hf
    rwa [hv] at hf
  constructor
  case dates =>
    intro f hf t ht
    have h := hvalue hf ht
    rw [presentable, Bool.and_eq_true] at h
    exact of_decide_eq_true h.2
  case targets =>
    intro f hf target hkind hlookup id hid
    have h := hvalue hf hid
    rw [presentable, Bool.and_eq_true] at h
    have hnil : id = Uuid.nil.text := by simpa [hkind] using h.2
    obtain ⟨first, hfirst, hisVoucher⟩ := (Option.any_eq_true ..).1 filed_vouchers.1
    obtain ⟨hacme, hentity, hlive, -⟩ := isVoucher_iff.1 hisVoucher
    have htarget : target.entity = voucher.name := by
      have hall : ∀ f ∈ voucher.fields, f.lookup.all (fun t => t.entity == voucher.name) = true := by
        decide
      have h := hall f hf
      rw [hlookup] at h
      exact eq_of_beq h
    refine ⟨voucher, .nil, first, ?_, ?_, hfirst, ?_, hentity, hlive⟩
    · rw [htarget]
      rfl
    · rw [hnil, Uuid.nil.read?_text]
    · rw [htenant, hacme]
  case files =>
    intro id file h
    cases h
    rfl
  case present =>
    intro f hf _ v hv
    have h := hvalue hf hv
    unfold presentable at h
    rw [Bool.and_eq_true] at h
    exact eq_of_beq h.1

end Sample

open Sample in
/-- A voucher with a price, a date, a file and a reference to another one is read and written back. -/
theorem World.voucher_written_back : vouchers.schema.Registered ∧ ∃ r members shown after,
    filed.find? second = some r ∧
    (vouchers.get ctx voucher.name second.text).serve archive filed = (.ok (.object members), filed) ∧
    (vouchers.update ctx voucher.name second.text (.object (members.filter fun m =>
      voucher.fields.any fun f => f.name == m.1))).serve archive filed =
        (.ok shown, ⟨filed.records.insert second after⟩) ∧
    SameData r.data after.data := by
  have hregistered : vouchers.schema.Registered := .register (e := voucher) .empty rfl
  have hid : Service.recordId voucher second.text = .ok second := by
    have hread : Uuid.read? (trimmed second.text) = some second := by decide +kernel
    rw [Service.recordId, hread]
  have hstore : ((World.quiet .empty).run vouchers issued).store = filed := rfl
  have hgranted : archive.access ctx.toCaller = .ok staff := rfl
  have hfind : vouchers.schema.find voucher.name = .ok voucher := rfl
  obtain ⟨r, hr, hfields⟩ := (Option.any_eq_true ..).1 filed_vouchers.2
  rw [Bool.and_eq_true, List.all_eq_true, isVoucher_iff] at hfields
  obtain ⟨⟨htenant, hbelongs, hlive, hunlocked⟩, hfields⟩ := hfields
  have hedit : Service.Editable ctx ctx staff voucher filed second r := by
    refine ⟨hr, htenant, hbelongs, hlive, ?_, ⟨.always, rfl, rfl⟩, .always, rfl, rfl⟩
    rw [← r.isLocked_iff, hunlocked]
    exact Bool.false_ne_true
  obtain ⟨members, hget, -, hback⟩ := write_back_changes_nothing hregistered issued hstore rfl hgranted
    hgranted hfind hid hedit (voucher_presentable htenant hfields)
  have hmay : ∀ m ∈ members.filter (fun m => voucher.fields.any fun f => f.name == m.1),
      staff.MayWrite voucher .update m.1 := by
    intro m hm
    obtain ⟨f, hf, hname⟩ := List.any_eq_true.1 (List.mem_filter.1 hm).2
    rw [← eq_of_beq hname]
    exact voucher_mayWrite hf .update
  obtain ⟨shown, after, -, hsame, hupdate, -⟩ := hback _ List.filter_sublist hmay
  exact ⟨hregistered, r, members, shown, after, hr, hget, hupdate, hsame⟩

end Dossier
