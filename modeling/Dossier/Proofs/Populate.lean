import Dossier.Proofs.CallRules
import Dossier.Proofs.Dict
import Dossier.Service.Populate
import Mathlib.Data.List.Forall2

/-!
# What resolving references does to the records shown

Where references are resolved, each record keeps its place, and of its object only reference fields
change (`Shown.Of`). Nothing that happens on the way makes the resolution fail.

The demands on the way are lists of live targets in the caller's tenant, and the caller's files.
-/

namespace Dossier

/-- A view of a record: its own object, except that reference fields may show what they refer to. -/
structure Shown.Of (entity : Entity) (r : Record) (v : Shown) : Prop where
  record : v.record = r
  members : ∀ name, (∀ f ∈ entity.fields, f.kind.isReference = true → f.name ≠ name) →
    Entries.get? name v.members = Entries.get? name r.members

namespace Shown

variable {entity : Entity} {r : Record} {v : Shown}

theorem of_ofRecord (entity : Entity) (r : Record) : (Shown.ofRecord r).Of entity r :=
  ⟨rfl, fun _ _ => rfl⟩

theorem Of.put (h : v.Of entity r) {f : Field} (hf : f ∈ entity.fields)
    (href : f.kind.isReference = true) (content : Json) : (v.put f.name content).Of entity r where
  record := h.record
  members name hname := by
    rw [← h.members name hname, Shown.put, Entries.get?_insert]
    exact if_neg fun heq => hname f hf href heq.symm

theorem Of.putLabel (h : v.Of entity r) {f : Field} (hf : f ∈ entity.fields)
    (href : f.kind.isReference = true) (labels : Dict String Json) :
    (v.putLabel labels f.name).Of entity r := by
  unfold Shown.putLabel
  split
  · exact h
  · split
    · exact h
    · exact h.put hf href _

end Shown

namespace Service

variable {s : Service} {ctx : Context} {P : Demand → Prop} {entity : Entity}

structure ReadsReferences (s : Service) (ctx : Context) (P : Demand → Prop) : Prop where
  targets : ∀ name target ids, s.schema.find name = .ok target →
    P (.list target (targetQuery ctx target ids))
  files : ∀ id, P (.file ctx.tenant id)

variable {f : Field} {records : List Record} {views : List Shown}

/-! ## One field -/

theorem populateLookup_obeys (hP : ReadsReferences s ctx P) (hf : f ∈ entity.fields)
    (href : f.kind.isReference = true) (h : List.Forall₂ (Shown.Of entity) records views) :
    (s.populateLookup ctx f views).Obeys P (Succeeds (List.Forall₂ (Shown.Of entity) records)) := by
  unfold populateLookup
  split
  · exact Call.obeys_pure h
  · split
    · exact Call.obeys_pure h
    · exact Call.obeys_pure h
    · rename_i hfind _
      refine Call.obeys_demand_bind (hP.targets _ _ _ hfind) fun answer => ?_
      split
      · exact Call.obeys_pure h
      · refine Call.obeys_pure ?_
        show List.Forall₂ _ records (views.map _)
        rw [List.forall₂_map_right_iff]
        exact h.imp fun _ _ hv => hv.putLabel hf href _

theorem populateFiles_obeys (hP : ReadsReferences s ctx P) (hf : f ∈ entity.fields)
    (href : f.kind.isReference = true) (h : List.Forall₂ (Shown.Of entity) records views) :
    (populateFiles ctx f views).Obeys P (Succeeds (List.Forall₂ (Shown.Of entity) records)) := by
  induction h with
  | nil => exact Call.obeys_pure .nil
  | @cons r v records views hv _ ih =>
    have hrest {v' : Shown} (hv' : v'.Of entity r) :
        (do return v' :: (← populateFiles ctx f views) : Call (List Shown)).Obeys P
          (Succeeds (List.Forall₂ (Shown.Of entity) (r :: records))) :=
      ih.bind (fun _ hviews => Call.obeys_pure (.cons hv' hviews)) fun _ h => h.elim
    unfold populateFiles
    split
    · exact hrest hv
    · refine Call.obeys_demand_bind (hP.files _) fun answer => ?_
      split
      · exact hrest (hv.put hf href _)
      · exact hrest hv

theorem populateField_obeys (hP : ReadsReferences s ctx P) (hf : f ∈ entity.fields)
    (h : List.Forall₂ (Shown.Of entity) records views) :
    (s.populateField ctx f views).Obeys P (Succeeds (List.Forall₂ (Shown.Of entity) records)) := by
  unfold populateField
  split
  · rename_i hkind
    exact populateLookup_obeys hP hf (by rw [hkind]; rfl) h
  · split
    · rename_i href
      exact populateFiles_obeys hP hf href h
    · exact Call.obeys_pure h

/-! ## All fields -/

theorem populateFields_obeys (hP : ReadsReferences s ctx P) {fields : List Field}
    (hfields : ∀ f ∈ fields, f ∈ entity.fields) {views : List Shown}
    (h : List.Forall₂ (Shown.Of entity) records views) :
    (s.populateFields ctx fields views).Obeys P
      (Succeeds (List.Forall₂ (Shown.Of entity) records)) := by
  induction fields generalizing views with
  | nil => exact Call.obeys_pure h
  | cons f rest ih =>
    have hfirst := populateField_obeys (s := s) hP (hfields f List.mem_cons_self) h
    have hrest : ∀ g ∈ rest, g ∈ entity.fields := fun g hg => hfields g (List.mem_cons_of_mem _ hg)
    exact hfirst.bind (fun _ hviews => ih hrest hviews) fun _ h => h.elim

/-- **Resolving references never fails, and shows each of the records in its place.** -/
theorem populate_obeys (hP : ReadsReferences s ctx P) (entity : Entity) (records : List Record) :
    (s.populate ctx entity records).Obeys P
      (Succeeds (List.Forall₂ (Shown.Of entity) records)) := by
  refine populateFields_obeys hP (fun _ hf => hf) ?_
  rw [List.forall₂_map_right_iff]
  exact List.forall₂_same.2 fun r _ => Shown.of_ofRecord entity r

end Service

end Dossier
