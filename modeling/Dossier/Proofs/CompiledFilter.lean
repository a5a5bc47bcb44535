import Dossier.Filter.Compile
import Dossier.Proofs.Schema
import Dossier.Proofs.TypedValue

/-!
# What filters compile to

For each function of the compiler, all that it can return: the values that documents are read as, then the
predicates made of these. What holds of every compiled filter is proved from this, one case for each
predicate, without another look at the branches that lead there.

**Declared fields** (`compileText_ok`, `compileBetween_ok`). A search is a test for equality on fields that
hold no texts. A range compares with two dates, or else with two numbers.

**Identifiers** (`compileId_ok`). What is no identifier is left out, so only identifiers are compared with.

**All filters** (`compile_ok`). The name decides: the identifier, a declared field, or any other, which is
compared with the document as it comes.
-/

namespace Dossier

namespace Filter

variable {e : Entity} {f : Field} {raw : Json} {p : Predicate}

/-! ## Values of documents -/

theorem converted_ok_iff {value : Option Value} :
    converted f raw = .ok value ↔ f.convert raw = .ok value := by
  unfold converted
  cases f.convert raw with
  | error error => exact ⟨nofun, nofun⟩
  | ok w => exact ⟨fun h => by cases h; rfl, fun h => by cases h; rfl⟩

/-- A value that has to be there is one that the field converts to. -/
theorem presentValue_ok {v : Value} (h : presentValue f raw = .ok v) :
    f.isAbsent raw = false ∧ f.convertPresent raw = .ok v := by
  obtain ⟨value, hvalue, h⟩ := bind_ok h
  cases value with
  | none => cases h
  | some w =>
    cases h
    exact Field.convert_ok (converted_ok_iff.1 hvalue)

/-- The value asked for is what the document is converted to, null standing for none. -/
theorem elementValue_ok_iff {v : Value} : elementValue f raw = .ok v ↔
    ∃ value, (elementField f).convert raw = .ok value ∧ v = value.getD .null := by
  constructor
  · intro h
    obtain ⟨value, hvalue, rfl⟩ := map_ok h
    exact ⟨value, converted_ok_iff.1 hvalue, rfl⟩
  · rintro ⟨value, hvalue, rfl⟩
    rw [elementValue, converted_ok_iff.2 hvalue]
    rfl

theorem elementField_eq (hkind : f.kind ≠ .multiselect) : elementField f = f := if_neg hkind

/-- One option is absent where several are. -/
theorem isAbsent_elementField (raw : Json) : (elementField f).isAbsent raw = f.isAbsent raw := by
  by_cases hkind : f.kind = .multiselect
  · rw [elementField, if_pos hkind]
    cases raw <;> simp [Field.isAbsent, FieldKind.keepsEmpty, hkind]
  · rw [elementField_eq hkind]

/-! ## Predicates on declared fields -/

theorem compileText_ok {mode : TextMatch} (h : compileText f mode raw = .ok p) :
    (∃ pattern, textPattern f raw = .ok pattern ∧ p = .text f.name mode pattern) ∨
      ∃ v, elementValue f raw = .ok v ∧ p = .eq f.name v := by
  unfold compileText at h
  split at h
  · obtain ⟨pattern, hpattern, rfl⟩ := map_ok h
    exact .inl ⟨pattern, hpattern, rfl⟩
  · obtain ⟨v, hv, rfl⟩ := map_ok h
    exact .inr ⟨v, hv, rfl⟩

/-- A range compares with two dates, or else with two numbers. -/
theorem compileBetween_ok (h : compileBetween f raw = .ok p) : ∃ low high, rangeParts raw = [low, high] ∧
    ((∃ t u, low.asInstant? = some t ∧ high.asInstant? = some u ∧
        p = .between f.name (.date t) (.date u)) ∨
      ∃ x y, low.asNumber? = some x ∧ high.asNumber? = some y ∧
        p = .between f.name (.number (.finite x)) (.number (.finite y))) := by
  unfold compileBetween at h
  split at h
  · cases h
  · split at h
    · next low high hparts =>
      refine ⟨low, high, hparts, ?_⟩
      split at h
      · next t u ht hu =>
        cases h
        exact .inl ⟨t, u, ht, hu, rfl⟩
      · split at h
        · next x y hx hy =>
          cases h
          exact .inr ⟨x, y, hx, hy, rfl⟩
        · cases h
    · cases h

/-! ## All predicates -/

/-- A filter on the identifier compares with identifiers, or with nothing. -/
theorem compileId_ok {filter : Filter} (h : compileId filter = .ok p) :
    p = .always ∨ (∃ id : Uuid, p = .eq "id" (.ref id.text) ∨ p = .ne "id" (.ref id.text)) ∨
      ∃ (ids : List Uuid) (negated : Bool), p = .among "id" (ids.map fun id => .ref id.text) negated := by
  unfold compileId at h
  split at h
  · split at h
    · next id _ =>
      cases h
      exact .inr (.inl ⟨id, .inl rfl⟩)
    · cases h
      exact .inr (.inr ⟨[], false, rfl⟩)
  · split at h
    · next id _ =>
      cases h
      exact .inr (.inl ⟨id, .inr rfl⟩)
    · cases h
      exact .inl rfl
  · cases h
    exact .inr (.inr ⟨_, false, rfl⟩)
  · cases h
    exact .inr (.inr ⟨_, true, rfl⟩)
  · cases h

/-- The name of a filter decides what it compiles to. -/
theorem compile_ok {filter : Filter} (h : compile e filter = .ok p) :
    (namesId filter.field = true ∧ compileId filter = .ok p) ∨
      namesId filter.field = false ∧
        ((∃ f, e.find? filter.field = some f ∧ compileDeclared f filter.operator filter.value = .ok p) ∨
          e.find? filter.field = none ∧ p = .eq filter.field (.ofJson filter.value)) := by
  unfold compile at h
  split at h
  · next hid => exact .inl ⟨hid, h⟩
  · next hid =>
    refine .inr ⟨Bool.eq_false_iff.2 hid, ?_⟩
    split at h
    · next f hfind => exact .inl ⟨f, hfind, h⟩
    · next hfind =>
      cases h
      exact .inr ⟨hfind, rfl⟩

theorem compile_declared (he : e.Sound) (hf : f ∈ e.fields) (operator : FilterOp) (raw : Json) :
    compile e ⟨f.name, operator, raw⟩ = compileDeclared f operator raw := by
  have hid : namesId f.name = false := by
    have hsystem := he.notSystem f hf
    simp [isSystemField, systemFields] at hsystem
    simp [namesId, hsystem]
  simp [compile, hid, he.find?_name hf]

end Filter

end Dossier
