import Dossier.Proofs.Uuid
import Dossier.Service.Basic
import Dossier.Store.Basic

/-!
# What the guards of the store mean

Predicates are built by functions that flatten and simplify. Here it is shown that this does not
touch their meaning (`holds_all`, `holds_any`, `holds_negate`), and what the guards that every
operation starts from ask of a record: `scopeWhere` its tenant, entity and mark of deletion, `byId`
its identifier, `unlocked` that no pending approval locks it.
-/

namespace Dossier

namespace Predicate

/-! ## Conjunctions -/

theorem allHold_eq (source : FieldSource) (ps : List Predicate) :
    allHold source ps = ps.all fun p => p.holds source := by
  induction ps with
  | nil => rfl
  | cons p ps ih => simp [allHold, ih]

/-- The parts that are left after simplification hold together exactly when the given ones do;
`never` among these makes the conjunction fail. -/
theorem allHold_conjuncts (source : FieldSource) (ps : List Predicate) :
    ((conjuncts ps).map (allHold source)).getD false = allHold source ps := by
  induction ps with
  | nil => rfl
  | cons p ps ih =>
    cases p with
    | always => simpa [conjuncts, allHold, holds] using ih
    | never => simp [conjuncts, allHold, holds]
    | and inner =>
      rw [allHold, ← ih, conjuncts, holds]
      cases conjuncts ps <;> simp [allHold_eq]
    | _ =>
      rw [allHold, ← ih, conjuncts]
      · cases conjuncts ps <;> simp [allHold]
      all_goals simp

/-- **Simplifying a conjunction keeps its meaning.** -/
theorem holds_all (source : FieldSource) (ps : List Predicate) :
    (all ps).holds source = ps.all fun p => p.holds source := by
  have h := allHold_conjuncts source ps
  rw [allHold_eq source ps] at h
  unfold all
  split <;> rename_i heq <;> rw [heq] at h
  · simpa [holds] using h
  · simpa [holds, allHold] using h
  · simpa [allHold] using h
  · simpa [holds] using h

theorem holds_both (source : FieldSource) (p q : Predicate) :
    (p.both q).holds source = (p.holds source && q.holds source) := by
  simp [both, holds_all]

/-! ## Disjunctions and complements -/

theorem anyHolds_eq (source : FieldSource) (ps : List Predicate) :
    anyHolds source ps = ps.any fun p => p.holds source := by
  induction ps with
  | nil => rfl
  | cons p ps ih => simp [anyHolds, ih]

/-- One of the parts that are left after simplification holds exactly when one of the given ones
does; `always` among these makes the disjunction hold. -/
theorem anyHolds_disjuncts (source : FieldSource) (ps : List Predicate) :
    ((disjuncts ps).map (anyHolds source)).getD true = anyHolds source ps := by
  induction ps with
  | nil => rfl
  | cons p ps ih =>
    cases p with
    | never => simpa [disjuncts, anyHolds, holds] using ih
    | always => simp [disjuncts, anyHolds, holds]
    | or inner =>
      rw [anyHolds, ← ih, disjuncts, holds]
      cases disjuncts ps <;> simp [anyHolds_eq]
    | _ =>
      rw [anyHolds, ← ih, disjuncts]
      · cases disjuncts ps <;> simp [anyHolds]
      all_goals simp

/-- **Simplifying a disjunction keeps its meaning.** -/
theorem holds_any (source : FieldSource) (ps : List Predicate) :
    (any ps).holds source = ps.any fun p => p.holds source := by
  have h := anyHolds_disjuncts source ps
  rw [anyHolds_eq source ps] at h
  unfold any
  split <;> rename_i heq <;> rw [heq] at h
  · simpa [holds] using h
  · simpa [holds, anyHolds] using h
  · simpa [anyHolds] using h
  · simpa [holds] using h

theorem holds_either (source : FieldSource) (p q : Predicate) :
    (p.either q).holds source = (p.holds source || q.holds source) := by
  simp [either, holds_any]

/-- **So does simplifying a complement.** -/
theorem holds_negate (source : FieldSource) (p : Predicate) :
    p.negate.holds source = !p.holds source := by
  cases p <;> simp [negate, holds]

end Predicate

/-! ## Values -/

namespace Value

theorem compare_beq_eq (s t : String) : (some (compare s t) == some Ordering.eq) = (s == t) := by
  rw [Bool.eq_iff_iff]
  simp

@[simp] theorem looseEq_text (s t : String) : (Value.text s).looseEq (.text t) = (s == t) :=
  compare_beq_eq s t

@[simp] theorem looseEq_ref (s t : String) : (Value.ref s).looseEq (.ref t) = (s == t) :=
  compare_beq_eq s t

@[simp] theorem looseEq_bool (a b : Bool) : (Value.bool a).looseEq (.bool b) = (a == b) := by
  cases a <;> cases b <;> decide

end Value

/-! ## Records -/

namespace Record

variable (r : Record)

theorem meets_all (ps : List Predicate) : r.meets (.all ps) = ps.all r.meets :=
  Predicate.holds_all ..

theorem meets_both (p q : Predicate) : r.meets (p.both q) = (r.meets p && r.meets q) :=
  Predicate.holds_both ..

theorem meets_eq (name : String) (value : Value) :
    r.meets (.eq name value) = Predicate.fieldEq (r.field name) value := rfl

theorem meets_ne (name : String) (value : Value) :
    r.meets (.ne name value) = !Predicate.fieldEq (r.field name) value := rfl

theorem meets_scopeWhere (tenant entity : String) (deleted : Bool) :
    r.meets (scopeWhere tenant entity deleted) =
      (r.tenant == tenant && (r.entity == entity && r.deleted == deleted)) := by
  simp [scopeWhere, meets_all, meets_eq, Predicate.fieldEq, field]

theorem meets_byId (id : Uuid) : r.meets (byId id) = decide (r.id = id) := by
  rw [Bool.eq_iff_iff]
  simp [byId, meets_eq, Predicate.fieldEq, field]

/-- A record meets the guard `unlocked` exactly when it is not locked. -/
theorem meets_unlocked : r.meets unlocked = !r.isLocked := by
  simp only [unlocked, meets_ne, field, isLocked]
  cases r.approval with
  | none => rfl
  | some approval =>
    simp only [Option.map_some, Predicate.fieldEq, Value.looseEq_text]
    cases approval.status <;> decide

end Record

/-! ## What operations are on -/

/-- An operation on an entity is on its records that meet the predicate. -/
theorem Store.concerns_iff {entity : Entity} {p : Predicate} {r : Record} :
    concerns entity p r = true ↔ r.entity = entity.name ∧ r.meets p = true := by
  unfold concerns
  rw [Bool.and_eq_true, beq_iff_eq]

/-- The record that a guard of the service lets through is the one named, of the tenant and the
entity, and meets the forced predicate. -/
theorem Record.meets_reachable (r : Record) (ctx : Context) (entity : Entity) (deleted : Bool)
    (id : Uuid) (forced : Predicate) :
    r.meets (Service.reachable ctx entity deleted id forced) = true ↔
      r.tenant = ctx.tenant ∧ r.entity = entity.name ∧ r.deleted = deleted ∧ r.id = id ∧
        r.meets forced = true := by
  simp [Service.reachable, r.meets_all, r.meets_scopeWhere, r.meets_byId, and_assoc]

end Dossier
