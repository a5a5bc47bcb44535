import Dossier.Proofs.Patch
import Dossier.Proofs.Rendering

/-!
# Values that are the same look the same

Values that are the same (`Value.same`) have document forms that are the same (`Value.same_render`), so
that putting the one in place of the other is no change (`Change.between_render`), and a record whose
values all stay the same has not changed (`Record.changes_eq_nil`).

**Amounts** that are the same by value may differ in their trailing zeros. Their document forms have none,
and an amount without trailing zeros is the only one of its value (`Decimal.normalize_eq`).

**Numbers** that are the same by value differ at most in the sign of zero, which their forms do not show.
-/

namespace Dossier

/-! ## Amounts -/

namespace Decimal

/-- An amount without trailing zeros after its point. -/
def Short (d : Decimal) : Prop := d.scale = 0 ∨ d.coeff % 10 ≠ 0

theorem short_normalize (d : Decimal) : d.normalize.Short := by
  obtain ⟨coeff, scale, hcoeff, hscale⟩ := d
  induction scale generalizing coeff with
  | zero =>
    rw [normalize]
    exact .inl rfl
  | succ scale ih =>
    rw [normalize]
    split
    · exact ih (coeff / 10) (by omega) (by omega)
    · next hcoeff => exact .inr hcoeff

/-- Of two amounts of one value the one with fewer places has no more than the other, unless this has a
trailing zero. -/
theorem Short.scale_le {a b : Decimal} (hb : b.Short) (h : a.sameValue b = true) : b.scale ≤ a.scale := by
  rw [sameValue, beq_iff_eq] at h
  by_contra hless
  obtain ⟨more, hmore⟩ : ∃ more, b.scale = a.scale + (more + 1) := ⟨b.scale - a.scale - 1, by omega⟩
  have hpow : ((Nat.pow 10 b.scale : Nat) : Int) = Nat.pow 10 a.scale * (10 * Nat.pow 10 more) := by
    rw [hmore]
    exact_mod_cast (by rw [← Nat.pow_succ', ← Nat.pow_add] :
      10 ^ (a.scale + (more + 1)) = 10 ^ a.scale * (10 * 10 ^ more))
  have hpos : (Nat.pow 10 a.scale : Int) ≠ 0 := by
    exact_mod_cast Nat.ne_of_gt (Nat.pow_pos (by decide) : 0 < 10 ^ a.scale)
  have hcoeff : b.coeff = 10 * (a.coeff * Nat.pow 10 more) := by
    rw [hpow, ← Int.mul_assoc, Int.mul_right_comm] at h
    rw [← Int.eq_of_mul_eq_mul_right hpos h]
    exact Int.mul_left_comm ..
  rcases hb with hb | hb <;> omega

theorem Short.eq {a b : Decimal} (ha : a.Short) (hb : b.Short) (h : a.sameValue b = true) : a = b := by
  have hsymm : b.sameValue a = true := by
    rw [sameValue, beq_iff_eq] at h ⊢
    exact h.symm
  have hscale : a.scale = b.scale := Nat.le_antisymm (ha.scale_le hsymm) (hb.scale_le h)
  have hpos : (Nat.pow 10 b.scale : Int) ≠ 0 := by
    exact_mod_cast Nat.ne_of_gt (Nat.pow_pos (by decide) : 0 < 10 ^ b.scale)
  rw [sameValue, beq_iff_eq, hscale] at h
  have hcoeff := Int.eq_of_mul_eq_mul_right hpos h
  cases a
  cases b
  cases hscale
  cases hcoeff
  rfl

theorem sameValue_trans {a b c : Decimal} (hab : a.sameValue b = true) (hbc : b.sameValue c = true) :
    a.sameValue c = true := by
  rw [sameValue, beq_iff_eq] at hab hbc ⊢
  have hpos : (Nat.pow 10 b.scale : Int) ≠ 0 := by
    exact_mod_cast Nat.ne_of_gt (Nat.pow_pos (by decide) : 0 < 10 ^ b.scale)
  refine Int.eq_of_mul_eq_mul_right hpos ?_
  calc a.coeff * (Nat.pow 10 c.scale : Nat) * (Nat.pow 10 b.scale : Nat)
      = a.coeff * (Nat.pow 10 b.scale : Nat) * (Nat.pow 10 c.scale : Nat) := Int.mul_right_comm ..
    _ = b.coeff * (Nat.pow 10 a.scale : Nat) * (Nat.pow 10 c.scale : Nat) := by rw [hab]
    _ = b.coeff * (Nat.pow 10 c.scale : Nat) * (Nat.pow 10 a.scale : Nat) := Int.mul_right_comm ..
    _ = c.coeff * (Nat.pow 10 b.scale : Nat) * (Nat.pow 10 a.scale : Nat) := by rw [hbc]
    _ = c.coeff * (Nat.pow 10 a.scale : Nat) * (Nat.pow 10 b.scale : Nat) := Int.mul_right_comm ..

/-- **Amounts of one value are the same without their trailing zeros.** -/
theorem normalize_eq {a b : Decimal} (h : a.sameValue b = true) : a.normalize = b.normalize := by
  have hsymm : a.normalize.sameValue a = true := by
    have := a.sameValue_normalize
    rw [sameValue, beq_iff_eq] at this ⊢
    exact this.symm
  exact a.short_normalize.eq b.short_normalize
    (sameValue_trans hsymm (sameValue_trans h b.sameValue_normalize))

end Decimal

/-! ## Numbers -/

namespace Double

theorem units_eq_natAbs (d : Double) : d.units = d.signedUnits.natAbs := by
  unfold signedUnits
  split <;> omega

/-- Numbers of one value stand for the same integer, if for any. -/
theorem toInt?_eq {a b : Double} (h : a.signedUnits = b.signedUnits) : a.toInt? = b.toInt? := by
  have hunits : a.units = b.units := by rw [units_eq_natAbs, units_eq_natAbs, h]
  unfold toInt?
  rw [hunits]
  by_cases hwhole : b.units % unitsPerOne = 0
  · rw [if_pos hwhole, if_pos hwhole]
    by_cases hzero : b.units = 0
    · rw [hzero]
      simp
    · have hneg : a.neg = b.neg := by
        unfold signedUnits at h
        cases ha : a.neg <;> cases hb : b.neg <;> simp only [ha, hb] at h ⊢ <;> simp at h <;> omega
      rw [hneg]
  · rw [if_neg hwhole, if_neg hwhole]

theorem cmp_eq_iff {a b : Double} : a.cmp b = .eq ↔ a.signedUnits = b.signedUnits := by
  rw [cmp]
  exact ⟨Std.LawfulEqOrd.eq_of_compare, fun h => h ▸ Std.ReflCmp.compare_self⟩

end Double

/-! ## All values -/

namespace Value

/-- A reference is the same as no other value. -/
theorem eq_of_same_ref {v : Value} {id : String} (h : v.same (.ref id) = true) : v = .ref id := by
  cases v <;> simp [same] at h
  rw [h]

theorem renderNumber_same {a b : Binary64} (h : a.cmp? b = some .eq) :
    (renderNumber a).same (renderNumber b) = true := by
  cases a with
  | nan => cases h
  | infinite neg =>
    cases b with
    | nan => cases h
    | infinite neg' => exact Json.same_refl _
    | finite d => cases neg <;> cases h
  | finite a =>
    cases b with
    | nan => cases h
    | infinite neg => cases neg <;> cases h
    | finite b =>
      have hunits : a.signedUnits = b.signedUnits := Double.cmp_eq_iff.1 (Option.some.inj h)
      have hdouble : (Json.number (.double a)).same (.number (.double b)) = true := by
        rw [Json.same, Json.Number.same, Double.sameValue, hunits, beq_self_eq_true]
      simp only [renderNumber, Double.toInt?_eq hunits]
      split
      · split
        · exact Json.same_refl _
        · exact hdouble
      · exact hdouble

mutual

/-- **Values that are the same have document forms that are the same.** -/
theorem same_render : (v w : Value) → v.same w = true → v.render.same w.render = true
  | .null, w, h => by
    cases w <;> simp [same] at h
    exact Json.same_refl _
  | .text _, w, h => by
    cases w <;> simp [same] at h
    rw [h]
    exact Json.same_refl _
  | .ref _, w, h => by
    cases w <;> simp [same] at h
    rw [h]
    exact Json.same_refl _
  | .number _, w, h => by
    cases w <;> simp [same] at h
    exact renderNumber_same h
  | .bool _, w, h => by
    cases w <;> simp [same] at h
    rw [h]
    exact Json.same_refl _
  | .date _, w, h => by
    cases w <;> simp [same] at h
    rw [h]
    exact Json.same_refl _
  | .currency _, w, h => by
    cases w <;> simp [same] at h
    rw [render, render, Decimal.normalize_eq h]
    exact Json.same_refl _
  | .list items, w, h => by
    cases w <;> simp [same] at h
    rw [render, render, Json.same]
    exact sameItems_render items _ h
  | .json _, w, h => by
    cases w <;> simp [same] at h
    exact h

theorem sameItems_render : (vs ws : List Value) → sameItems vs ws = true →
    Json.sameItems (renderItems vs) (renderItems ws) = true
  | [], ws, h => by
    cases ws <;> simp [sameItems] at h
    rw [renderItems, Json.sameItems]
  | v :: vs, ws, h => by
    cases ws <;> simp [sameItems] at h
    rw [renderItems, renderItems, Json.sameItems, same_render v _ h.1, sameItems_render vs _ h.2]
    rfl

end

end Value

/-- Putting a value in place of one that is the same is no change. -/
theorem Change.between_render {v w : Value} (h : v.same w = true) :
    between (some v.render) (some w.render) = none :=
  if_pos (Value.same_render v w h)

/-- What a field holds is the same as itself, as numbers are finite. -/
theorem Field.Holds.same_refl {f : Field} {v : Value} (h : f.Holds v) : v.same v = true := by
  unfold Holds at h
  cases hk : f.kind <;> simp only [hk] at h
  case text | textarea =>
    obtain ⟨s, rfl⟩ := h
    exact Value.same_text s
  case number =>
    obtain ⟨d, rfl⟩ := h
    exact Value.same_number rfl
  case boolean =>
    obtain ⟨b, rfl⟩ := h
    simp [Value.same]
  case date =>
    obtain ⟨t, rfl⟩ := h
    simp [Value.same]
  case email | url | phone | select =>
    obtain ⟨s, rfl, -⟩ := h
    exact Value.same_text s
  case currency =>
    obtain ⟨d, rfl⟩ := h
    simp [Value.same, Decimal.sameValue]
  case multiselect =>
    obtain ⟨ss, rfl, -⟩ := h
    rw [Value.same]
    exact Value.sameItems_texts ss
  case lookup =>
    obtain ⟨id, rfl⟩ := h
    exact Value.same_ref _
  case file | image =>
    obtain ⟨s, rfl, -⟩ := h
    exact Value.same_ref s
  case other =>
    obtain ⟨document, rfl, -⟩ := h
    rw [Value.same]
    exact document.same_refl

/-! ## Records -/

/-- Data with values under the same keys as other data, and the same values. -/
def SameData (before after : Dict String Value) : Prop :=
  ∀ key, Option.Rel (fun v w => v.same w = true) (before.get? key) (after.get? key)

/-- **Between versions of a record that have the same data there is no change.** -/
theorem Record.changes_eq_nil {before after : Record} (hdata : SameData before.data after.data)
    (hdeleted : before.deleted = after.deleted) : before.changes after = [] := by
  have hfields : (fieldNames before after).filterMap (fun field =>
      (Change.between (before.dataMembers.get? field) (after.dataMembers.get? field)).map fun change =>
        (⟨field, change⟩ : FieldChange)) = [] := by
    rw [List.filterMap_eq_nil_iff]
    intro field _
    rw [get?_dataMembers, get?_dataMembers]
    have hvalues := hdata field
    generalize before.data.get? field = old at hvalues ⊢
    generalize after.data.get? field = new at hvalues ⊢
    cases hvalues with
    | none => rfl
    | some hsame =>
      rw [Option.map_some, Option.map_some, Change.between_render hsame]
      rfl
  rw [changes, hfields, deletionChange, if_pos hdeleted]
  rfl

end Dossier
