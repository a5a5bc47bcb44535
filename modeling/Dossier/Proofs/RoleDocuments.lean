import Dossier.Access.Grant
import Dossier.Proofs.Structure

/-!
# Roles and conditions read back

The rules of roles are kept as documents. Reading one undoes writing it, at every level: operators and
accesses by their names, comparisons and permissions as structures, conditions by recursion on their parts.

A condition is written as a name or as an object of one member, never as null, so that a permission without
one cannot be mistaken for a permission with one. The value of a comparison is written as it is and stands
under a name of its own, so it can be any document, one that looks like a condition too.

Main result: `Role.rules_read_back`.
-/

namespace Dossier

open Json

theorem FilterOp.readsBack : ReadsBack FilterOp.ofJson? fun op => .string op.name := by
  intro op
  cases op <;> decide +kernel

theorem FieldAccess.readsBack : ReadsBack FieldAccess.ofJson? fun access => .string access.name := by
  intro access
  cases access <;> decide +kernel

theorem Comparison.readsBack : ReadsBack Comparison.ofJson? Comparison.render := by
  intro c
  unfold ofJson? render
  rw [parts?_ofMembers]
  have hop : FilterOp.ofJson? (.string c.op.name) = some c.op := FilterOp.readsBack c.op
  simp [Entries.get?, needed?, text?, given?, hop]

namespace Condition

mutual

/-- A condition is read back, part by part. -/
theorem ofJson?_render (c : Condition) : ofJson? c.render = some c := by
  match c with
  | .always | .never => rfl
  | .and parts => simp [render, ofJson?, listOfJson?, itemsOfJson?_renderAll parts]
  | .or parts => simp [render, ofJson?, listOfJson?, itemsOfJson?_renderAll parts]
  | .not inner => simp [render, ofJson?, ofJson?_render inner]
  | .compare leaf => simp [render, ofJson?, Comparison.readsBack leaf]

theorem itemsOfJson?_renderAll (parts : List Condition) :
    itemsOfJson? (renderAll parts) = some parts := by
  match parts with
  | [] => rfl
  | part :: rest => simp [renderAll, itemsOfJson?, ofJson?_render part, itemsOfJson?_renderAll rest]

end

theorem readsBack : ReadsBack ofJson? render := ofJson?_render

theorem render_ne_null (c : Condition) : c.render ≠ .null := by
  cases c <;> simp [render]

end Condition

theorem Permission.readsBack : ReadsBack Permission.ofJson? Permission.render := by
  intro p
  have hcondition := Condition.readsBack.optional Condition.render_ne_null p.condition
  have hfilterable := readsBack_text.list.optional (fun _ => nofun) p.filterable
  have hrules := FieldAccess.readsBack.dict p.fieldRules
  unfold ofJson? render
  rw [parts?_ofMembers]
  simp [Entries.get?, bool?, given?, optional?, hcondition, hfilterable, hrules]

theorem EntityGrant.readsBack : ReadsBack EntityGrant.ofJson? EntityGrant.render := by
  intro g
  have hpart := Permission.readsBack.optional (fun _ => nofun)
  unfold ofJson? render
  rw [parts?_ofMembers]
  simp [Entries.get?, given?, optional?, hpart g.create, hpart g.read, hpart g.update, hpart g.delete]

theorem Role.readsBack : ReadsBack Role.ofJson? Role.render := by
  intro r
  have hentities := EntityGrant.readsBack.dict r.entities
  unfold ofJson? render
  rw [parts?_ofMembers]
  simp [Entries.get?, needed?, text?, given?, hentities]

/-- **The rules of a role survive being written.** A role is read back from its document, and so is a
condition from its own; no two conditions have one document. -/
theorem Role.rules_read_back :
    (∀ r : Role, ofJson? r.render = some r) ∧
    (∀ c : Condition, Condition.ofJson? c.render = some c) ∧
    ∀ c c' : Condition, c.render = c'.render ↔ c = c' :=
  ⟨Role.readsBack, Condition.readsBack, fun _ _ => Condition.readsBack.injective.eq_iff⟩

end Dossier
