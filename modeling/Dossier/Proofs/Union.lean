import Dossier.Access.Mask
import Dossier.Access.RowPredicate
import Dossier.Proofs.Condition
import Dossier.Proofs.Dict
import Mathlib.Data.List.Basic

/-!
# The permissions of several roles together

A user may do what one of the user's roles allows, and no more. A union of permissions has four
parts, each with its own way to say "everything": no condition, the list of filters, the greatest
access, and a rule that is left out. Each is shown here to be the sum of the same part of the roles
(`Permission.IsUnion`).

* `rowPredicate_unionCondition` — a row is admitted when one role admits it.
* `mem_unionFilterable` — a field may be filtered on when one role lists it.
* `access_unionRules` — the access to a field is the greatest that a role gives. Writing takes the
  least of this for reading and for the action (`access_restrict`).

A union is described by which permissions are in it, so the order of the roles, and how often one is
held, make no difference.

Main result: `union_exact`.
-/

namespace Dossier

/-! ## Access to a field -/

namespace FieldAccess

theorem rank_injective {a b : FieldAccess} (h : a.rank = b.rank) : a = b := by
  cases a <;> cases b <;> first | rfl | cases h

theorem rank_max (a b : FieldAccess) : (a.max b).rank = Nat.max a.rank b.rank := by
  cases a <;> cases b <;> rfl

theorem rank_min (a b : FieldAccess) : (a.min b).rank = Nat.min a.rank b.rank := by
  cases a <;> cases b <;> rfl

theorem min_eq_readWrite {a b : FieldAccess} :
    a.min b = .readWrite ↔ a = .readWrite ∧ b = .readWrite := by
  cases a <;> cases b <;> decide

theorem max_eq_or (a b : FieldAccess) : a.max b = a ∨ a.max b = b := by
  unfold max
  split
  · exact Or.inr rfl
  · exact Or.inl rfl

end FieldAccess

namespace Permission

/-! ## The greatest access -/

variable {allowing : List Permission} {p : Permission} {field : String}

/-- A running maximum is where it started or what one of the permissions gives, and nothing it has
passed is above it. -/
theorem foldl_max_access (allowing : List Permission) (field : String) (best : FieldAccess) :
    (allowing.foldl (fun best p => best.max (p.access field)) best = best ∨
      ∃ p ∈ allowing,
        p.access field = allowing.foldl (fun best p => best.max (p.access field)) best) ∧
    best.rank ≤ (allowing.foldl (fun best p => best.max (p.access field)) best).rank ∧
    ∀ p ∈ allowing, (p.access field).rank ≤
      (allowing.foldl (fun best p => best.max (p.access field)) best).rank := by
  induction allowing generalizing best with
  | nil => exact ⟨Or.inl rfl, Nat.le_refl _, by simp⟩
  | cons p rest ih =>
    obtain ⟨hattained, hstart, hrest⟩ := ih (best.max (p.access field))
    have hrank := best.rank_max (p.access field)
    rw [List.foldl_cons]
    refine ⟨?_, ?_, ?_⟩
    · rcases hattained with hsame | ⟨p', hp', heq⟩
      · rcases best.max_eq_or (p.access field) with hmax | hmax
        · exact Or.inl (hsame.trans hmax)
        · exact Or.inr ⟨p, List.mem_cons_self, (hsame.trans hmax).symm⟩
      · exact Or.inr ⟨p', List.mem_cons_of_mem _ hp', heq⟩
    · exact Nat.le_trans (hrank ▸ Nat.le_max_left _ _) hstart
    · intro p' hp'
      rcases List.mem_cons.1 hp' with rfl | hp'
      · exact Nat.le_trans (hrank ▸ Nat.le_max_right _ _) hstart
      · exact hrest p' hp'

theorem access_le_unionAccess (h : p ∈ allowing) (field : String) :
    (p.access field).rank ≤ (unionAccess allowing field).rank :=
  (foldl_max_access allowing field .none).2.2 p h

theorem exists_access_eq_unionAccess (h : allowing ≠ []) (field : String) :
    ∃ p ∈ allowing, p.access field = unionAccess allowing field := by
  rcases (foldl_max_access allowing field .none).1 with hnone | hattained
  · obtain ⟨p, hp⟩ := List.exists_mem_of_ne_nil allowing h
    refine ⟨p, hp, FieldAccess.rank_injective ?_⟩
    have hle := access_le_unionAccess hp field
    rw [show unionAccess allowing field = FieldAccess.none from hnone] at hle ⊢
    exact Nat.le_antisymm hle (Nat.zero_le _)
  · exact hattained

/-- A permission without a rule for a field gives it fully. -/
theorem access_of_no_rule (h : ∀ rule ∈ p.fieldRules.entries, rule.1 ≠ field) :
    p.access field = .readWrite := by
  rw [access, Dict.get?, Entries.get?_eq_none.2 h]
  rfl

/-- **The rules of a union give the greatest access.** A field that no permission has a rule for,
or that one gives fully, has no rule in the union, and that stands for full access too. -/
theorem access_unionRules (hne : allowing ≠ []) (hp : p.fieldRules = unionRules allowing) :
    p.access field = unionAccess allowing field := by
  rw [access, hp, unionRules, Dict.get?_filter, Dict.get?_mapEntries]
  cases hruled : (Dict.ofList (allowing.flatMap fun p => p.fieldRules.entries)).get? field with
  | some access =>
    by_cases hfull : unionAccess allowing field = .readWrite <;> simp [Option.filter, hfull]
  | none =>
    obtain ⟨q, hq, hgreatest⟩ := exists_access_eq_unionAccess hne field
    rw [← hgreatest, access_of_no_rule]
    · rfl
    · intro rule hrule heq
      have hmem : rule ∈ allowing.flatMap fun p => p.fieldRules.entries :=
        List.mem_flatMap.2 ⟨q, hq, hrule⟩
      obtain ⟨access, haccess⟩ := Dict.exists_get?_ofList.2 ⟨rule, hmem, heq⟩
      rw [hruled] at haccess
      cases haccess

/-! ## Filters -/

theorem mem_unionFilterable {name : String} :
    name ∈ (unionFilterable allowing).getD [] ↔
      ∃ p ∈ allowing, ∃ listed, p.filterable = some listed ∧ name ∈ listed := by
  have hlisted (p : Permission) :
      name ∈ p.filterable.getD [] ↔ ∃ listed, p.filterable = some listed ∧ name ∈ listed := by
    cases p.filterable <;> simp
  unfold unionFilterable
  split
  · rename_i hnone
    simp only [List.all_eq_true, Option.isNone_iff_eq_none] at hnone
    simp only [Option.getD_none, List.not_mem_nil, false_iff]
    rintro ⟨p, hp, listed, heq, -⟩
    rw [hnone p hp] at heq
    cases heq
  · simp only [Option.getD_some, Dict.mem_keys, Dict.exists_get?_ofList, List.mem_map,
      List.mem_flatMap, ← hlisted]
    constructor
    · rintro ⟨_, ⟨_, ⟨p, hp, hmem⟩, rfl⟩, rfl⟩
      exact ⟨p, hp, hmem⟩
    · rintro ⟨p, hp, hmem⟩
      exact ⟨(name, ()), ⟨name, ⟨p, hp, hmem⟩, rfl⟩, rfl⟩

theorem checkFilters_eq_ok {filters : List Filter} :
    p.checkFilters filters = .ok () ↔ ∀ f ∈ filters, f.field ∈ p.filterable.getD [] := by
  induction filters with
  | nil => simp [checkFilters]
  | cons f rest ih =>
    rw [checkFilters]
    by_cases hf : f.field ∈ p.filterable.getD []
    · rw [if_pos (by simpa using hf), ih]
      simp [hf]
    · rw [if_neg (by simpa using hf)]
      simp [hf]

/-- Which filters are refused, and for which of them first, depends only on what is listed. -/
theorem checkFilters_congr {q : Permission}
    (h : ∀ name, name ∈ p.filterable.getD [] ↔ name ∈ q.filterable.getD [])
    (filters : List Filter) :
    p.checkFilters filters = q.checkFilters filters := by
  induction filters with
  | nil => rfl
  | cons f rest ih =>
    rw [checkFilters, checkFilters, ih]
    by_cases hf : f.field ∈ q.filterable.getD []
    · rw [if_pos (by simpa using (h _).2 hf), if_pos (by simpa using hf)]
    · rw [if_neg (by simpa using fun hp => hf ((h _).1 hp)), if_neg (by simpa using hf)]

/-! ## Rows -/

variable {vars : Variables} {entity : Entity}

theorem rowPredicate_of_none (h : p.condition = none) :
    p.rowPredicate vars entity = .ok .always := by
  rw [rowPredicate, h]

theorem rowPredicate_of_some {condition : Condition} (h : p.condition = some condition) :
    p.rowPredicate vars entity =
      (condition.compile vars (some entity)).mapError Fault.ofConditionError := by
  rw [rowPredicate, h]

theorem compile_of_rowPredicate {condition : Condition} {row : Predicate}
    (h : p.condition = some condition) (hrow : p.rowPredicate vars entity = .ok row) :
    condition.compile vars (some entity) = .ok row := by
  rw [rowPredicate_of_some h] at hrow
  cases hcompile : condition.compile vars (some entity) with
  | ok row' =>
    rw [hcompile] at hrow
    cases hrow
    rfl
  | error error =>
    rw [hcompile] at hrow
    cases hrow

/-- **The condition of a union admits the rows that one of the permissions admits.** One permission
without a condition admits every row; a single condition stays as it is; several are joined. -/
theorem rowPredicate_unionCondition (hne : allowing ≠ []) {own : Permission → Predicate}
    (hown : ∀ q ∈ allowing, q.rowPredicate vars entity = .ok (own q))
    (hp : p.condition = unionCondition allowing) :
    ∃ row, p.rowPredicate vars entity = .ok row ∧
      ∀ source, row.holds source = allowing.any fun q => (own q).holds source := by
  unfold unionCondition at hp
  split at hp
  · rename_i hfree
    obtain ⟨q, hq, hnone⟩ := List.any_eq_true.1 hfree
    rw [Option.isNone_iff_eq_none] at hnone
    have hevery : own q = .always := by
      have hrow := hown q hq
      rw [rowPredicate_of_none hnone] at hrow
      exact (Except.ok.inj hrow).symm
    refine ⟨.always, rowPredicate_of_none hp, fun source => Eq.symm ?_⟩
    exact List.any_eq_true.2 ⟨q, hq, by rw [hevery]; rfl⟩
  · rename_i hbound
    have hsome : ∀ q ∈ allowing, ∃ condition, q.condition = some condition := by
      intro q hq
      rw [← Option.isSome_iff_exists, Option.isSome_iff_ne_none]
      intro hnone
      exact hbound (List.any_eq_true.2 ⟨q, hq, by rw [hnone]; rfl⟩)
    choose! cond hcond using hsome
    have hconditions : allowing.filterMap (·.condition) = allowing.map cond := by
      rw [← List.filterMap_eq_map]
      exact List.filterMap_congr hcond
    have hcompile : ∀ q ∈ allowing, (cond q).compile vars (some entity) = .ok (own q) :=
      fun q hq => compile_of_rowPredicate (hcond q hq) (hown q hq)
    rw [hconditions] at hp
    split at hp
    · rename_i condition hsingle
      obtain ⟨q, rfl, rfl⟩ : ∃ q, allowing = [q] ∧ cond q = condition := by
        cases allowing with
        | nil => cases hsingle
        | cons q rest =>
          cases rest with
          | nil => exact ⟨q, rfl, by simpa using hsingle⟩
          | cons q' rest => simp at hsingle
      refine ⟨own q, ?_, fun source => by simp⟩
      rw [rowPredicate_of_some hp, hcompile q List.mem_cons_self]
      rfl
    · refine ⟨.any (allowing.map own), ?_, fun source => ?_⟩
      · rw [rowPredicate_of_some hp, Condition.compile, Condition.compileAll_map hcompile]
        rfl
      · rw [Predicate.holds_any, List.any_map]
        rfl

/-! ## The union -/

/-- What the permission is that a user gets from the permissions of single roles. -/
structure IsUnion (vars : Variables) (entity : Entity) (Allows : Permission → Prop)
    (u : Permission) : Prop where
  /-- A record is admitted when one of them admits it. -/
  rows : ∃ row, u.rowPredicate vars entity = .ok row ∧ ∀ r : Record, r.meets row = true ↔
    ∃ p own, Allows p ∧ p.rowPredicate vars entity = .ok own ∧ r.meets own = true
  /-- Filters are let through when each is on a field that one of them lists. -/
  filters : ∀ filters, u.checkFilters filters = .ok () ↔
    ∀ f ∈ filters, ∃ p listed, Allows p ∧ p.filterable = some listed ∧ f.field ∈ listed
  /-- The access to a field is one that one of them gives. -/
  attained : ∀ field, ∃ p, Allows p ∧ p.access field = u.access field
  /-- None gives a greater one. -/
  greatest : ∀ field p, Allows p → (p.access field).rank ≤ (u.access field).rank

theorem union_eq_some {permissions : List Permission} {u : Permission}
    (h : union permissions = some u) :
    permissions.filter (·.allowed) ≠ [] ∧
      u.condition = unionCondition (permissions.filter (·.allowed)) ∧
      u.filterable = unionFilterable (permissions.filter (·.allowed)) ∧
      u.fieldRules = unionRules (permissions.filter (·.allowed)) := by
  unfold union at h
  split at h
  · cases h
  · rename_i hne
    cases h
    exact ⟨hne, rfl, rfl, rfl⟩

theorem union_eq_none {permissions : List Permission} :
    union permissions = none ↔ permissions.filter (·.allowed) = [] := by
  unfold union
  split <;> simp_all

theorem isUnion_of_union {permissions : List Permission} {u : Permission}
    (h : union permissions = some u)
    (hcompile : ∀ q ∈ permissions.filter (·.allowed), ∃ row, q.rowPredicate vars entity = .ok row) :
    u.IsUnion vars entity (· ∈ permissions.filter (·.allowed)) := by
  obtain ⟨hne, hcondition, hfilterable, hrules⟩ := union_eq_some h
  refine ⟨?_, fun filters => ?_, fun field => ?_, fun field q hq => ?_⟩
  · choose! own hown using hcompile
    obtain ⟨row, hrow, hholds⟩ := rowPredicate_unionCondition hne hown hcondition
    refine ⟨row, hrow, fun r => ?_⟩
    rw [Record.meets, hholds, List.any_eq_true]
    constructor
    · rintro ⟨q, hq, hmeets⟩
      exact ⟨q, own q, hq, hown q hq, hmeets⟩
    · rintro ⟨q, row', hq, hrow', hmeets⟩
      obtain rfl : own q = row' := Except.ok.inj ((hown q hq).symm.trans hrow')
      exact ⟨q, hq, hmeets⟩
  · rw [checkFilters_eq_ok, hfilterable]
    simp only [mem_unionFilterable]
    refine forall₂_congr fun f _ => ⟨?_, ?_⟩
    · rintro ⟨q, hq, listed, hlisted, hmem⟩
      exact ⟨q, listed, hq, hlisted, hmem⟩
    · rintro ⟨q, listed, hq, hlisted, hmem⟩
      exact ⟨q, hq, listed, hlisted, hmem⟩
  · rw [access_unionRules hne hrules]
    exact exists_access_eq_unionAccess hne field
  · rw [access_unionRules hne hrules]
    exact access_le_unionAccess hq field

/-- Permissions that admit the same rows, let the same filters through and give the same access. -/
structure Alike (vars : Variables) (entity : Entity) (u v : Permission) : Prop where
  rows : ∀ row row', u.rowPredicate vars entity = .ok row →
    v.rowPredicate vars entity = .ok row' → ∀ r : Record, r.meets row = r.meets row'
  filters : ∀ filters, u.checkFilters filters = v.checkFilters filters
  access : ∀ field, u.access field = v.access field

/-- A union is determined by what is in it. -/
theorem IsUnion.alike {Allows : Permission → Prop} {u v : Permission}
    (hu : u.IsUnion vars entity Allows) (hv : v.IsUnion vars entity Allows) :
    u.Alike vars entity v := by
  refine ⟨fun row row' hrow hrow' r => ?_, fun filters => ?_, fun field => ?_⟩
  · obtain ⟨_, heq, hmeets⟩ := hu.rows
    obtain rfl := Except.ok.inj (heq.symm.trans hrow)
    obtain ⟨_, heq', hmeets'⟩ := hv.rows
    obtain rfl := Except.ok.inj (heq'.symm.trans hrow')
    rw [Bool.eq_iff_iff, hmeets, hmeets']
  · refine checkFilters_congr (fun name => ?_) filters
    have hname := (hu.filters [⟨name, .eq, .null⟩]).trans (hv.filters [⟨name, .eq, .null⟩]).symm
    simpa only [checkFilters_eq_ok, List.forall_mem_singleton] using hname
  · obtain ⟨p, hp, hpu⟩ := hu.attained field
    obtain ⟨q, hq, hqv⟩ := hv.attained field
    have hle := hv.greatest field p hp
    have hge := hu.greatest field q hq
    rw [hpu] at hle
    rw [hqv] at hge
    exact FieldAccess.rank_injective (Nat.le_antisymm hle hge)

end Permission

/-! ## Masks -/

namespace FieldMask

variable {entity : Entity} {p q : Permission} {f : Field}

theorem get?_ofPermission (hf : f ∈ entity.fields) :
    (ofPermission entity p).fields.get? f.name = some (p.access f.name) := by
  have hmap : entity.fields.map (fun f => (f.name, p.access f.name)) =
      (entity.fields.map (·.name)).map fun name => (name, p.access name) := by
    rw [List.map_map]
    rfl
  rw [ofPermission, hmap]
  exact Dict.get?_ofList_map p.access (List.mem_map_of_mem hf)

theorem access_ofPermission (hf : f ∈ entity.fields) :
    (ofPermission entity p).access f.name = p.access f.name := by
  rw [access, get?_ofPermission hf]
  rfl

/-- A mask knows declared fields only. -/
theorem exists_field_of_get? {name : String} {given : FieldAccess}
    (h : (ofPermission entity p).fields.get? name = some given) : ∃ f ∈ entity.fields, f.name = name := by
  obtain ⟨_, hentry, hname⟩ := Dict.exists_get?_ofList.1 ⟨given, h⟩
  obtain ⟨f, hf, rfl⟩ := List.mem_map.1 hentry
  exact ⟨f, hf, hname⟩

/-- **What may be written** is limited by the rules for reading and by those of the action. -/
theorem access_restrict (hf : f ∈ entity.fields) :
    ((ofPermission entity p).restrict q).access f.name =
      (p.access f.name).min (q.access f.name) := by
  rw [access, restrict, Dict.get?_mapEntries, get?_ofPermission hf]
  rfl

end FieldMask

/-! ## The roles of a user -/

/-- The entry of a role for an entity: its own, and else the one for all other entities. -/
def Role.Entry (r : Role) (entity : String) (g : EntityGrant) : Prop :=
  r.entities.get? entity = some g ∨
    (r.entities.get? entity = none ∧ r.entities.get? Role.anyEntity = some g)

theorem Role.grantFor_eq_some {r : Role} {entity : String} {g : EntityGrant} :
    r.grantFor entity = some g ↔ r.Entry entity g := by
  unfold grantFor Entry
  cases r.entities.get? entity <;> simp

namespace Access

variable {a b : Access} {entity : Entity} {action : Action} {vars : Variables}

/-- One of the roles allows an action on an entity by a permission. -/
def Allows (a : Access) (entity : String) (action : Action) (p : Permission) : Prop :=
  ∃ r ∈ a.roles, ∃ g, r.Entry entity g ∧ g.action action = some p ∧ p.allowed = true

theorem mem_allowing {entity : String} {p : Permission} :
    p ∈ (a.permissions entity action).filter (·.allowed) ↔ a.Allows entity action p := by
  unfold permissions Allows
  simp only [List.mem_filter, List.mem_filterMap, Option.bind_eq_some_iff, Role.grantFor_eq_some]
  constructor
  · rintro ⟨⟨r, hr, g, hentry, hp⟩, hallowed⟩
    exact ⟨r, hr, g, hentry, hp, hallowed⟩
  · rintro ⟨r, hr, g, hentry, hp, hallowed⟩
    exact ⟨⟨r, hr, g, hentry, hp⟩, hallowed⟩

theorem authorize_eq_ok {entity : String} {u : Permission} :
    a.authorize entity action = .ok u ↔
      Permission.union (a.permissions entity action) = some u := by
  unfold authorize
  split <;> simp_all

/-- A user without a role that allows an action is told so. -/
theorem authorize_eq_error {entity : String} {fault : Fault} :
    a.authorize entity action = .error fault ↔
      fault = .actionDenied action entity ∧ ∀ p, ¬ a.Allows entity action p := by
  have hnone : Permission.union (a.permissions entity action) = none ↔
      ∀ p, ¬ a.Allows entity action p := by
    rw [Permission.union_eq_none, List.eq_nil_iff_forall_not_mem]
    exact forall_congr' fun p => not_congr mem_allowing
  unfold authorize
  split
  · rename_i hsome
    simp [← hnone, hsome]
  · rename_i heq
    simp [← hnone, heq, eq_comm]

theorem isUnion_of_authorize {u : Permission} (h : a.authorize entity.name action = .ok u)
    (hcompile : ∀ p, a.Allows entity.name action p → ∃ row, p.rowPredicate vars entity = .ok row) :
    u.IsUnion vars entity (a.Allows entity.name action) := by
  have hunion := Permission.isUnion_of_union (authorize_eq_ok.1 h)
    fun p hp => hcompile p (mem_allowing.1 hp)
  have hsame : (· ∈ (a.permissions entity.name action).filter (·.allowed)) =
      a.Allows entity.name action := funext fun p => propext mem_allowing
  rwa [hsame] at hunion

theorem allows_congr (h : ∀ r, r ∈ b.roles ↔ r ∈ a.roles) :
    b.Allows entity.name action = a.Allows entity.name action := by
  funext p
  unfold Allows
  simp only [h]

/-- **Several roles together allow exactly what one of them allows.** An action is allowed when one
role allows it. A record is admitted, a filter let through and a field given an access when one
allowing role does so; a field is written under the least of the accesses for reading and for the
action. The order of the roles, and holding one twice, change nothing. -/
theorem union_exact (a : Access) (entity : Entity) (action : Action) (vars : Variables)
    (hcompile : ∀ p, a.Allows entity.name action p → ∃ row, p.rowPredicate vars entity = .ok row) :
    ((∃ u, a.authorize entity.name action = .ok u) ↔ ∃ p, a.Allows entity.name action p) ∧
    (∀ u, a.authorize entity.name action = .ok u →
      u.IsUnion vars entity (a.Allows entity.name action) ∧
      ∀ mask read, a.readMask entity = .ok mask → a.authorize entity.name .read = .ok read →
        ∀ f ∈ entity.fields, mask.access f.name = read.access f.name ∧
          ((mask.restrict u).access f.name).rank =
            Nat.min (read.access f.name).rank (u.access f.name).rank) ∧
    ∀ b : Access, (∀ r, r ∈ b.roles ↔ r ∈ a.roles) →
      (∀ fault, b.authorize entity.name action = .error fault ↔
        a.authorize entity.name action = .error fault) ∧
      ∀ u v, a.authorize entity.name action = .ok u → b.authorize entity.name action = .ok v →
        u.Alike vars entity v := by
  refine ⟨?_, ?_, ?_⟩
  · constructor
    · rintro ⟨u, hu⟩
      obtain ⟨p, hp, -⟩ := (isUnion_of_authorize hu hcompile).attained ""
      exact ⟨p, hp⟩
    · rintro ⟨p, hp⟩
      cases h : a.authorize entity.name action with
      | ok u => exact ⟨u, rfl⟩
      | error fault => exact absurd hp ((authorize_eq_error.1 h).2 p)
  · intro u hu
    refine ⟨isUnion_of_authorize hu hcompile, fun mask read hmask hread f hf => ?_⟩
    rw [readMask, hread] at hmask
    cases hmask
    rw [FieldMask.access_ofPermission hf, FieldMask.access_restrict hf, FieldAccess.rank_min]
    exact ⟨rfl, rfl⟩
  · intro b hroles
    refine ⟨fun fault => ?_, fun u v hu hv => ?_⟩
    · rw [authorize_eq_error, authorize_eq_error, allows_congr hroles]
    · have hcompile' : ∀ p, b.Allows entity.name action p →
          ∃ row, p.rowPredicate vars entity = .ok row := by
        rw [allows_congr hroles]
        exact hcompile
      have hunion := isUnion_of_authorize hv hcompile'
      rw [allows_congr hroles] at hunion
      exact (isUnion_of_authorize hu hcompile).alike hunion

end Access

/-! ## Two roles -/

namespace Sample

def lead : Entity := ⟨"lead", none, [.plain "name" .text, .plain "salary" .number]⟩

/-- Reads leads of a name, filters by it, and does not see salaries. -/
def sales : Role :=
  ⟨"sales", (∅ : Dict String EntityGrant).insert lead.name
    { read := some
        { allowed := true
          condition := some (.compare ⟨"name", .eq, .string "Ann"⟩)
          filterable := some ["name"]
          fieldRules := (∅ : Dict String FieldAccess).insert "salary" .none } }⟩

def audit : Role :=
  ⟨"audit", (∅ : Dict String EntityGrant).insert Role.anyEntity
    { read := some
        { allowed := true
          condition := some (.not (.compare ⟨"name", .eq, .string "Ann"⟩))
          fieldRules := (∅ : Dict String FieldAccess).insert "salary" .readOnly } }⟩

end Sample

open Sample in
/-- Both roles in any order, one of them held twice, are one permission, under which salaries can be
read. -/
theorem Access.sales_and_audit : ∃ u v,
    Access.authorize ⟨[sales, audit]⟩ lead.name .read = .ok u ∧
    Access.authorize ⟨[audit, sales, audit]⟩ lead.name .read = .ok v ∧
    u.IsUnion ∅ lead (Access.Allows ⟨[sales, audit]⟩ lead.name .read) ∧ u.Alike ∅ lead v ∧
    u.access "salary" = .readOnly := by
  have hcompile (p : Permission) (hp : Access.Allows ⟨[sales, audit]⟩ lead.name .read p) :
      ∃ row, p.rowPredicate ∅ lead = .ok row := by
    have hmem := Access.mem_allowing.2 hp
    rcases List.mem_cons.1 hmem with rfl | hmem
    · exact ⟨.eq "name" (.text "Ann"), rfl⟩
    · obtain rfl := List.mem_singleton.1 hmem
      exact ⟨.not (.eq "name" (.text "Ann")), rfl⟩
  obtain ⟨-, hunion, hroles⟩ := Access.union_exact ⟨[sales, audit]⟩ lead .read ∅ hcompile
  obtain ⟨-, halike⟩ := hroles ⟨[audit, sales, audit]⟩ fun r => by
    simp only [List.mem_cons, List.not_mem_nil, or_false]
    tauto
  exact ⟨_, _, rfl, rfl, (hunion _ rfl).1, halike _ _ rfl rfl, by decide⟩

end Dossier
