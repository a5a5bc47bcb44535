import Dossier.Proofs.Populate
import Dossier.Proofs.Surroundings

/-!
# What references are resolved to

Where nothing comes between its demands, resolving the references of a field comes to one function of their
identifiers (`Service.resolution`): the labels of the targets that a lookup finds, or what the surroundings
know of a file. Each view then shows in the field what its identifier is resolved to, if to anything
(`Shown.resolve`), and is otherwise what it was.

Main result: `Service.serve_populateField`.
-/

namespace Dossier

/-! ## Views -/

namespace Shown

/-- The view in which a reference field shows what its identifier is resolved to, if to anything. -/
def resolve (field : String) (content : String → Option Json) (v : Shown) : Shown :=
  match (v.reference? field).bind content with
  | none => v
  | some shown => v.put field shown

variable {v : Shown} {field : String}

theorem resolve_record (content : String → Option Json) :
    (v.resolve field content).record = v.record := by
  unfold resolve
  split <;> rfl

theorem sorted_resolve (h : Entries.Sorted v.members) (content : String → Option Json) :
    Entries.Sorted (v.resolve field content).members := by
  unfold resolve
  split
  · exact h
  · exact h.insert ..

theorem get?_resolve (content : String → Option Json) (key : String) :
    Entries.get? key (v.resolve field content).members =
      if key = field then ((v.reference? field).bind content <|> Entries.get? key v.members)
      else Entries.get? key v.members := by
  unfold resolve
  cases (v.reference? field).bind content with
  | none => exact (ite_self _).symm
  | some shown => exact Entries.get?_insert ..

end Shown

/-! ## Contents -/

def StoredFile.shown (file : StoredFile) : Json :=
  .ofMembers [("id", .string file.id), ("original_name", .string file.originalName),
    ("url", .string file.url)]

/-- What a lookup field shows of a target, given the labels of targets. -/
def Shown.labelled (labels : Dict String Json) (id : String) : Option Json :=
  (labels.get? id).map fun label => .ofMembers [("id", .string id), ("display_label", label)]

theorem Shown.putLabel_eq (labels : Dict String Json) (field : String) :
    Shown.putLabel labels field = Shown.resolve field (Shown.labelled labels) := by
  funext v
  unfold Shown.putLabel Shown.resolve
  cases v.reference? field with
  | none => rfl
  | some id =>
    show (match labels.get? id with | none => v | some label => v.put field _) =
      match Shown.labelled labels id with | none => v | some shown => v.put field shown
    unfold Shown.labelled
    cases labels.get? id <;> rfl

theorem Shown.map_resolve_none (field : String) (views : List Shown) :
    views.map (Shown.resolve field fun _ => none) = views := by
  have hid : (Shown.resolve field fun _ => none) = id := by
    funext v
    unfold Shown.resolve
    cases v.reference? field <;> rfl
  rw [hid, List.map_id]

namespace Service

/-- The records of an entity that some identifiers refer to. -/
def targets (s : Service) (ctx : Context) (e : Surroundings) (store : Store) (name : String)
    (ids : List String) : List Record :=
  match s.schema.find name with
  | .error _ => []
  | .ok entity =>
    (targetQuery ctx entity ids).page
      ((e.order store.records.values).filter
        (Store.concerns entity (targetQuery ctx entity ids).predicate))

/-- What the identifiers that a field refers to are resolved to. -/
def resolution (s : Service) (ctx : Context) (e : Surroundings) (store : Store) (f : Field)
    (ids : List String) : String → Option Json :=
  if f.kind = .lookup then
    match f.lookup with
    | none => fun _ => none
    | some target =>
      Shown.labelled (labels target.labelField (s.targets ctx e store target.entity ids))
  else if f.kind.isReference then fun id => (e.file ctx.tenant id).map StoredFile.shown
  else fun _ => none

section

variable {s : Service} {ctx : Context} {e : Surroundings} {store : Store} {f : Field}

theorem targets_nil (s : Service) (ctx : Context) (e : Surroundings) (store : Store)
    (name : String) : s.targets ctx e store name [] = [] := by
  unfold targets
  cases s.schema.find name <;> rfl

theorem serve_populateLookup (hkind : f.kind = .lookup) (views : List Shown) :
    (s.populateLookup ctx f views).serve e store =
      (.ok (views.map (Shown.resolve f.name (s.resolution ctx e store f (references f.name views)))),
        store) := by
  unfold populateLookup resolution
  rw [if_pos hkind]
  cases f.lookup with
  | none =>
    dsimp only
    rw [Shown.map_resolve_none]
    rfl
  | some target =>
    -- Without targets there are no labels.
    have hnone : views.map (Shown.resolve f.name (Shown.labelled (labels target.labelField []))) =
        views := Shown.map_resolve_none f.name views
    dsimp only
    split
    · rename_i hids
      rw [hids, targets_nil, hnone]
      rfl
    · rename_i hfind _
      unfold targets
      rw [hfind, hnone]
      rfl
    · rename_i hfind _
      unfold targets
      rw [hfind, ← Shown.putLabel_eq]
      rfl

theorem serve_populateFiles (ctx : Context) (f : Field) (views : List Shown) (e : Surroundings)
    (store : Store) :
    (populateFiles ctx f views).serve e store =
      (.ok (views.map (Shown.resolve f.name fun id => (e.file ctx.tenant id).map StoredFile.shown)),
        store) := by
  induction views with
  | nil => rfl
  | cons v views ih =>
    have hrest (v' : Shown) :
        (do return v' :: (← populateFiles ctx f views) : Call (List Shown)).serve e store =
          (.ok (v' :: views.map
            (Shown.resolve f.name fun id => (e.file ctx.tenant id).map StoredFile.shown)), store) := by
      rw [Call.serve_bind_ok ih]
      rfl
    rw [List.map_cons]
    unfold populateFiles Shown.resolve
    cases v.reference? f.name with
    | none => exact hrest v
    | some id =>
      have hfile : (Call.demand (.file ctx.tenant id)).serve e store =
          (.ok (e.file ctx.tenant id), store) := rfl
      dsimp only
      rw [Call.serve_bind_ok hfile]
      show _ = (Except.ok ((match (e.file ctx.tenant id).map StoredFile.shown with
        | none => v
        | some shown => v.put f.name shown) :: _), store)
      cases e.file ctx.tenant id with
      | none => exact hrest v
      | some file => exact hrest (v.putFile f.name file)

theorem serve_populateField (f : Field) (views : List Shown) :
    (s.populateField ctx f views).serve e store =
      (.ok (views.map (Shown.resolve f.name (s.resolution ctx e store f (references f.name views)))),
        store) := by
  unfold populateField
  split
  · rename_i hkind
    exact serve_populateLookup hkind views
  · rename_i hkind
    unfold resolution
    rw [if_neg hkind]
    split
    · exact serve_populateFiles ctx f views e store
    · rw [Shown.map_resolve_none]
      rfl

end

end Service

end Dossier
