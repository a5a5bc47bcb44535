import Dossier.Proofs.Listing
import Dossier.Proofs.Schema
import Dossier.Proofs.Sql.FilterTypes
import Dossier.Proofs.Sql.Ordering

/-!
# System and data names do not shadow each other

The engine's own fields and the declared fields of an entity share one name space: in filters, in columns
and in the flat object of a record.

**Registration.** A schema after any sequence of attempts holds, under each name, the first definition of
that name that passes its check (`Schema.get?_ofAttempts`). So a refused attempt leaves no trace, and what
was once taken in stays.

**One place for a name.** A declared name is no system field and no column of one, so it is found in the
data and nowhere else (`Sql.field_of_not_system`, `Sql.SystemColumn.ofField?_eq_none`).

**The flat object.** Where no data is under a system name, the object shows under each system name what the
record has there and under each data name the data (`Record.ShowsBoth`). The two sets of names are disjoint,
so both parts can be taken out of the object again (`Record.members_system`, `Record.members_data`).

Main result: `Schema.names_kept_apart`.
-/

namespace Dossier

/-! ## Attempts at registration -/

namespace Schema

/-- The schema after an attempt to register an entity, which a refusal leaves as it is. -/
def attempt (s : Schema) (e : Entity) : Schema :=
  match s.register e with
  | .ok after => after
  | .error _ => s

/-- The schema after a sequence of attempts that starts with an empty one. -/
def ofAttempts (attempts : List Entity) : Schema := attempts.foldl attempt empty

variable {s : Schema} {e : Entity}

theorem ofAttempts_append (attempts more : List Entity) :
    ofAttempts (attempts ++ more) = more.foldl attempt (ofAttempts attempts) :=
  List.foldl_append

theorem attempt_of_error {error : SchemaError} (h : s.register e = .error error) : s.attempt e = s := by
  rw [attempt, h]

theorem Registered.attempt (hs : s.Registered) (e : Entity) : (s.attempt e).Registered := by
  unfold Schema.attempt
  split
  · next after h => exact .register hs h
  · exact hs

theorem registered_ofAttempts (attempts : List Entity) : (ofAttempts attempts).Registered := by
  suffices h : ∀ s : Schema, s.Registered → (attempts.foldl attempt s).Registered from h _ .empty
  induction attempts with
  | nil => exact fun _ hs => hs
  | cons e rest ih => exact fun s hs => ih _ (hs.attempt e)

/-- An attempt adds a definition that passes its check under a name that is free, and nothing else. -/
theorem get?_attempt (s : Schema) (e : Entity) (name : String) :
    (s.attempt e).entities.get? name =
      (s.entities.get? name <|> if e.name = name ∧ e.check.isOk then some e else none) := by
  unfold attempt register
  cases hcheck : e.check with
  | error error => simp [Except.isOk, Except.toBool]
  | ok =>
    cases hfound : s.entities.get? e.name with
    | some old =>
      by_cases hname : e.name = name
      · subst hname
        simp [Dict.contains, hfound]
      · simp [Dict.contains, hfound, hname]
    | none =>
      by_cases hname : e.name = name
      · subst hname
        simp [Dict.contains, hfound, Dict.get?_insert, Except.isOk, Except.toBool]
      · simp [Dict.contains, hfound, Dict.get?_insert, hname, Ne.symm hname]

theorem get?_foldl_attempt (s : Schema) (attempts : List Entity) (name : String) :
    (attempts.foldl attempt s).entities.get? name =
      (s.entities.get? name <|> attempts.find? fun e => e.name = name ∧ e.check.isOk) := by
  induction attempts generalizing s with
  | nil => simp
  | cons e rest ih =>
    rw [List.foldl_cons, ih, get?_attempt, List.find?_cons]
    cases s.entities.get? name with
    | some old => simp
    | none => by_cases h : e.name = name ∧ e.check.isOk <;> simp [h]

/-- **Under each name is the first definition of that name that passes its check.** -/
theorem get?_ofAttempts (attempts : List Entity) (name : String) :
    (ofAttempts attempts).entities.get? name =
      attempts.find? fun e => e.name = name ∧ e.check.isOk := by
  rw [ofAttempts, get?_foldl_attempt]
  exact Option.none_or

end Schema

/-! ## Declared names -/

theorem Entity.Sound.filter_name {e : Entity} (he : e.Sound) {f : Field} (hf : f ∈ e.fields) :
    e.fields.filter (fun g => g.name = f.name) = [f] := by
  have hnodup : e.fields.Nodup := he.distinct.of_map
  refine List.perm_singleton.1 ((List.perm_ext_iff_of_nodup (hnodup.filter _) (List.nodup_singleton f)).2 ?_)
  intro g
  simp only [List.mem_filter, decide_eq_true_eq, List.mem_singleton]
  constructor
  · rintro ⟨hg, hname⟩
    exact List.inj_on_of_nodup_map he.distinct hg hf hname
  · rintro rfl
    exact ⟨hf, rfl⟩

namespace Record

/-- All data of a record is under names that an entity declares. -/
def DeclaredBy (r : Record) (e : Entity) : Prop :=
  ∀ key v, r.data.get? key = some v → ∃ f ∈ e.fields, f.name = key

variable {r r' : Record} {e : Entity}

/-- A record whose data keeps off the system names. -/
def KeepsOff (r : Record) : Prop := ∀ key, isSystemField key = true → r.data.get? key = none

theorem DeclaredBy.keepsOff (h : r.DeclaredBy e) (he : e.Sound) : r.KeepsOff := by
  intro key hkey
  refine Option.eq_none_iff_forall_ne_some.2 fun v hv => ?_
  obtain ⟨f, hf, rfl⟩ := h key v hv
  rw [he.notSystem f hf] at hkey
  cases hkey

/-! ## The flat object -/

theorem isSystemField_of_mem {key : String} (h : key ∈ systemFields) : isSystemField key = true := by
  simp [isSystemField, h]

/-- What the flat object of a record shows, and that no name has two meanings in it. -/
structure ShowsBoth (r : Record) : Prop where
  /-- Under a system name is what filters see of the record. -/
  system : ∀ key ∈ systemFields, key ≠ "approval" →
    Entries.get? key r.members = (r.field key).map Value.render
  approval : Entries.get? "approval" r.members = r.approval.map Approval.render
  data : ∀ key v, r.data.get? key = some v → Entries.get? key r.members = some v.render
  disjoint : ∀ key ∈ systemFields, r.data.get? key = none
  nothingElse : ∀ key, Entries.get? key r.members ≠ none → key ∈ systemFields ∨ r.data.get? key ≠ none

/-- The system members are the system fields in their order, as far as they have a value. -/
theorem systemMembers_eq (r : Record) : r.systemMembers =
    systemFields.filterMap fun key => (Entries.get? key r.systemMembers).map fun value => (key, value) := by
  unfold systemMembers
  cases r.deletedAt <;> cases r.deletedBy <;> cases r.approval <;> rfl

/-- No system member stands in the way of another. -/
theorem get?_systemMembers_reverse (r : Record) {key : String} (h : key ∈ systemFields) :
    Entries.get? key r.systemMembers.reverse = Entries.get? key r.systemMembers := by
  unfold systemMembers
  simp only [systemFields, List.mem_cons, List.not_mem_nil, or_false] at h
  rcases h with rfl | rfl | rfl | rfl | rfl | rfl | rfl | rfl | rfl | rfl | rfl <;>
    cases r.deletedAt <;> cases r.deletedBy <;> cases r.approval <;> rfl

/-- Of the system fields, filters see what the object shows, apart from the approval, of which they see the
status. -/
theorem get?_systemMembers (r : Record) {key : String} (h : key ∈ systemFields) (hne : key ≠ "approval") :
    Entries.get? key r.systemMembers = (r.field key).map Value.render := by
  unfold systemMembers
  simp only [systemFields, List.mem_cons, List.not_mem_nil, or_false] at h
  rcases h with rfl | rfl | rfl | rfl | rfl | rfl | rfl | rfl | rfl | rfl | rfl
  case inr.inr.inr.inr.inr.inr.inr.inr.inr.inr => exact absurd rfl hne
  all_goals
    unfold field
    cases r.deletedAt <;> cases r.deletedBy <;> cases r.approval <;> rfl

/-- **The system part can be taken out of the object.** -/
theorem members_system (hr : r.KeepsOff) {key : String} (h : key ∈ systemFields) :
    Entries.get? key r.members = Entries.get? key r.systemMembers := by
  rw [r.get?_members, hr key (isSystemField_of_mem h), r.get?_systemMembers_reverse h]
  rfl

/-- **The data can be taken out of the object**: it is what is under the other names. -/
theorem members_data (hr : r.KeepsOff) :
    r.members.filter (fun m => !isSystemField m.1) = r.dataMembers.entries := by
  have hsorted : Entries.Sorted (r.members.filter fun m => !isSystemField m.1) :=
    (Entries.Sorted.ofList _).sublist List.filter_sublist
  refine hsorted.ext r.dataMembers.sorted fun key => ?_
  have hdata : Entries.get? key r.dataMembers.entries = (r.data.get? key).map Value.render :=
    Dict.get?_mapEntries ..
  rw [Entries.get?_filter_key (fun key => !isSystemField key), hdata]
  cases hkey : isSystemField key with
  | true => simp [hr key hkey]
  | false => simp [r.get?_members_data hkey]

theorem mem_systemFields {m : String × Json} (h : m ∈ r.systemMembers) : m.1 ∈ systemFields := by
  rw [systemMembers_eq] at h
  obtain ⟨key, hkey, hm⟩ := List.mem_filterMap.1 h
  obtain ⟨value, -, rfl⟩ := Option.map_eq_some_iff.1 hm
  exact hkey

theorem showsBoth (hr : r.KeepsOff) : r.ShowsBoth where
  system key hkey hne := by rw [members_system hr hkey, r.get?_systemMembers hkey hne]
  approval := by
    rw [members_system hr (by decide)]
    unfold systemMembers
    cases r.deletedAt <;> cases r.deletedBy <;> cases r.approval <;> rfl
  data key v hv := by rw [r.get?_members, hv]; rfl
  disjoint key hkey := hr key (isSystemField_of_mem hkey)
  nothingElse key hkey := by
    by_contra! hneither
    obtain ⟨hsystem, hdata⟩ := hneither
    refine hkey ?_
    rw [r.get?_members, hdata]
    refine Entries.get?_eq_none.2 fun m hm heq => hsystem ?_
    exact heq ▸ mem_systemFields (List.mem_reverse.1 hm)

/-- **The flat object determines both parts.** -/
theorem render_inj (hr : r.KeepsOff) (hr' : r'.KeepsOff) :
    r.render = r'.render ↔ r.systemMembers = r'.systemMembers ∧ r.dataMembers = r'.dataMembers := by
  constructor
  · intro h
    have hmembers : r.members = r'.members := by
      unfold render at h
      exact Json.object.inj h
    refine ⟨?_, ?_⟩
    · rw [systemMembers_eq r, systemMembers_eq r']
      refine List.filterMap_congr fun key hkey => ?_
      rw [← members_system hr hkey, ← members_system hr' hkey, hmembers]
    · have hentries : r.dataMembers.entries = r'.dataMembers.entries := by
        rw [← members_data hr, ← members_data hr', hmembers]
      exact Dict.ext fun key => congrArg (Entries.get? key) hentries
  · rintro ⟨hsystem, hdata⟩
    rw [render, render, members, members, hsystem, hdata]

end Record

namespace Schema

/-- **No name means two things.**

A refused attempt to register an entity changes nothing, what is registered is never replaced, and under
each name is the first definition of that name that passes its check. Each field of a registered entity is
the only one of its name, is no column of the engine, and is the data under its name for every record. The
flat object of a record whose data is declared shows both the system fields and the data, under disjoint
sets of names, and two such records have one object just when they have the same system members and the same
data members. -/
theorem names_kept_apart (attempts : List Entity) :
    (∀ e error, (ofAttempts attempts).register e = .error error →
      ofAttempts (attempts ++ [e]) = ofAttempts attempts) ∧
    (∀ name e more, (ofAttempts attempts).find name = .ok e →
      (ofAttempts (attempts ++ more)).find name = .ok e) ∧
    (∀ name, (ofAttempts attempts).entities.get? name =
      attempts.find? fun e => e.name = name ∧ e.check.isOk) ∧
    ∀ name e, (ofAttempts attempts).find name = .ok e →
      (∀ f ∈ e.fields, e.find? f.name = some f ∧ e.fields.filter (fun g => g.name = f.name) = [f] ∧
        Sql.SystemColumn.ofField? f.name = none ∧ ∀ r : Record, r.field f.name = r.data.get? f.name) ∧
      (∀ r : Record, r.DeclaredBy e → r.ShowsBoth) ∧
      ∀ r r' : Record, r.DeclaredBy e → r'.DeclaredBy e →
        (r.render = r'.render ↔ r.systemMembers = r'.systemMembers ∧ r.dataMembers = r'.dataMembers) := by
  refine ⟨fun e error herror => ?_, fun name e more hfind => ?_, get?_ofAttempts attempts,
    fun name e hfind => ?_⟩
  · rw [ofAttempts_append]
    exact attempt_of_error herror
  · rw [find_eq_ok] at hfind ⊢
    rw [ofAttempts_append, get?_foldl_attempt, hfind]
    rfl
  · obtain ⟨-, hsound⟩ := (registered_ofAttempts attempts).sound hfind
    refine ⟨fun f hf => ?_, fun r hr => Record.showsBoth (hr.keepsOff hsound), fun r r' hr hr' =>
      Record.render_inj (hr.keepsOff hsound) (hr'.keepsOff hsound)⟩
    have hcolumn : Sql.SystemColumn.ofField? f.name = none :=
      Sql.SystemColumn.ofField?_eq_none (hsound.identifiers f hf) (hsound.notSystem f hf)
    have hid : f.name ≠ "_id" := fun h => by
      have hsystem := hsound.notSystem f hf
      rw [h] at hsystem
      cases hsystem
    exact ⟨hsound.find?_name hf, hsound.filter_name hf, hcolumn,
      fun r => Sql.field_of_not_system hid hcolumn⟩

namespace LeadSample

def lead : Entity := ⟨"lead", none, [.plain "name" .text]⟩

/-- A definition with a field of the engine's name. -/
def intruder : Entity := ⟨"intruder", none, [.plain "tenant_id" .text]⟩

/-- A second definition of leads. -/
def emptied : Entity := .bare "lead"

/-- A lead by the name of a person. -/
def person (name : String) : Record :=
  .create .nil "acme" "lead" ⟨"ann", .epoch⟩ (.ofList [("name", .text name)])

theorem declared (name : String) : (person name).DeclaredBy lead := by
  intro key v h
  have hmem : (key, v) ∈ [("name", Value.text name)] := Dict.mem_entries.2 h
  obtain ⟨rfl, -⟩ := Prod.mk.inj (List.mem_singleton.1 hmem)
  exact ⟨_, List.mem_singleton_self _, rfl⟩

end LeadSample

open LeadSample in
/-- A definition that would hide the tenant is refused without a trace, and a second definition of leads
does not replace the first. A lead has its name in the data and its tenant beside it, and two leads of other
names have other objects. -/
theorem lead_named_apart :
    ofAttempts [lead, intruder] = ofAttempts [lead] ∧
    (ofAttempts [lead, intruder, emptied]).find "lead" = .ok lead ∧
    (person "Eve").field "name" = some (.text "Eve") ∧
    Entries.get? "tenant_id" (person "Eve").members = some (.string "acme") ∧
    (person "Eve").render ≠ (person "Bob").render := by
  obtain ⟨hrefused, hlasts, -, hnames⟩ := names_kept_apart [lead]
  have hfind : (ofAttempts [lead]).find "lead" = .ok lead := by decide +kernel
  obtain ⟨hfields, hshows, hdetermined⟩ := hnames "lead" lead hfind
  refine ⟨hrefused intruder (.systemFieldCollision "tenant_id") rfl,
    hlasts "lead" lead [intruder, emptied] hfind, ?_, ?_, fun h => ?_⟩
  · obtain ⟨-, -, -, hdata⟩ := hfields (.plain "name" .text) (List.mem_singleton_self _)
    exact (hdata (person "Eve")).trans rfl
  · rw [(hshows (person "Eve") (declared "Eve")).system "tenant_id" (by decide) (by decide)]
    rfl
  · obtain ⟨-, hdata⟩ := (hdetermined _ _ (declared "Eve") (declared "Bob")).1 h
    have hname := congrArg (fun d : Dict String Json => d.get? "name") hdata
    have heve : (person "Eve").dataMembers.get? "name" = some (.string "Eve") := rfl
    have hbob : (person "Bob").dataMembers.get? "name" = some (.string "Bob") := rfl
    simp only [heve, hbob, Option.some.injEq, Json.string.injEq] at hname
    exact absurd hname (by decide)

end Schema

end Dossier
