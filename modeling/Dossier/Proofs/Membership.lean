import Dossier.Proofs.CompiledFilter
import Dossier.Proofs.Predicate
import Dossier.Proofs.SameForm

/-!
# Equality and membership in filters

A filter for equality or membership asks about stored values, so it has to read its documents as storage
reads the ones it stores.

**Declared fields.** A document is converted by the field, and the filter compiles exactly when that
succeeds. The equality of filters is looser than that of values, but not among the values of one field
(`Field.Holds.looseEq_eq`), so what is selected is what is stored with that value, or without one
(`selects_eq_iff`).

**Multiselects** are asked for one option at a time (`selects_eq_option`), or for their absence.

**Membership** is equality with one of the items that stand for a value (`selects_among_iff`).

**Identifiers** are compared however they are spelled, and what is none counts for nothing
(`selects_id_iff`).

**Complements.** The negated operators compile along with the others and select the records that these
leave (`opposed`). Main result: `membership_as_stored`.
-/

namespace Dossier

/-! ## Values of one field -/

theorem Instant.cmp_eq_iff {a b : Instant} : a.cmp b = .eq ↔ a = b := by
  obtain ⟨⟨year, month, day, _, _, _⟩, second, nano, _, _⟩ := a
  obtain ⟨⟨year', month', day', _, _, _⟩, second', nano', _, _⟩ := b
  simp [cmp, Date.cmp, Ordering.then_eq_eq, Std.LawfulEqCmp.compare_eq_iff_eq, and_assoc]

theorem Decimal.cmp_beq_eq (a b : Decimal) : (a.cmp b == .eq) = a.sameValue b := by
  rw [Bool.eq_iff_iff, sameValue, beq_iff_eq, beq_iff_eq, cmp, Std.LawfulEqCmp.compare_eq_iff_eq]

namespace Value

theorem looseEq_null (v : Value) : v.looseEq .null = v.isNull := by
  cases v <;> rfl

theorem isNull_eq_false {v : Value} (h : v ≠ .null) : v.isNull = false := by
  cases v with
  | null => exact absurd rfl h
  | _ => rfl

end Value

namespace Field

variable {f : Field} {v w : Value}

/-- **Among the values of one field, the equality of filters is equality.** -/
theorem Holds.looseEq_eq (hv : f.Holds v) (hw : f.Holds w) (hkind : f.kind ≠ .multiselect) :
    v.looseEq w = v.same w := by
  unfold Holds at hv hw
  cases hk : f.kind <;> simp only [hk] at hv hw
  case multiselect => exact absurd hk hkind
  case text | textarea =>
    obtain ⟨s, rfl⟩ := hv
    obtain ⟨t, rfl⟩ := hw
    rw [Value.looseEq_text, Value.same]
  case email | url | phone | select =>
    obtain ⟨s, rfl, -⟩ := hv
    obtain ⟨t, rfl, -⟩ := hw
    rw [Value.looseEq_text, Value.same]
  case number =>
    obtain ⟨a, rfl⟩ := hv
    obtain ⟨b, rfl⟩ := hw
    rw [Value.same]
    rfl
  case boolean =>
    obtain ⟨a, rfl⟩ := hv
    obtain ⟨b, rfl⟩ := hw
    rw [Value.looseEq_bool, Value.same]
  case date =>
    obtain ⟨a, rfl⟩ := hv
    obtain ⟨b, rfl⟩ := hw
    rw [Value.same, Bool.eq_iff_iff, beq_iff_eq, ← Instant.cmp_eq_iff]
    show (some (a.cmp b) == some .eq) = true ↔ a.cmp b = .eq
    rw [beq_iff_eq, Option.some_inj]
  case currency =>
    obtain ⟨a, rfl⟩ := hv
    obtain ⟨b, rfl⟩ := hw
    rw [Value.same, ← Decimal.cmp_beq_eq]
    rfl
  case lookup =>
    obtain ⟨a, rfl⟩ := hv
    obtain ⟨b, rfl⟩ := hw
    rw [Value.looseEq_ref, Value.same]
  case file | image =>
    obtain ⟨a, rfl, -⟩ := hv
    obtain ⟨b, rfl, -⟩ := hw
    rw [Value.looseEq_ref, Value.same]
  case other =>
    obtain ⟨a, rfl, -⟩ := hv
    obtain ⟨b, rfl, -⟩ := hw
    rw [Value.looseEq, Value.same]

/-- Only a multiselect holds lists. -/
theorem Holds.ne_list (h : f.Holds v) (hkind : f.kind ≠ .multiselect) (items : List Value) :
    v ≠ .list items := by
  rintro rfl
  unfold Holds at h
  cases hk : f.kind <;> simp [hk] at h
  exact hkind hk

/-- What a field has is a value of it, or nothing. -/
def HoldsAny (f : Field) (value : Option Value) : Prop := ∀ v, value = some v → f.Holds v

theorem convert_holdsAny {raw : Json} {value : Option Value} (h : f.convert raw = .ok value) :
    f.HoldsAny value := by
  rintro v rfl
  exact convert_holds h

end Field

namespace Predicate

variable {f : Field}

/-- A value that is no list is compared as it is. -/
theorem fieldEq_some {v : Value} (hlist : ∀ items, v ≠ .list items) (w : Value) :
    fieldEq (some v) w = v.looseEq w := by
  cases v with
  | list items => exact absurd rfl (hlist items)
  | _ => rfl

theorem fieldEq_ref (s t : String) : fieldEq (some (.ref s)) (.ref t) = (s == t) := Value.looseEq_ref s t

/-- What a field holds does not equal null. -/
theorem fieldEq_null {v : Value} (hv : f.Holds v) : fieldEq (some v) .null = false := by
  by_cases hkind : f.kind = .multiselect
  · unfold Field.Holds at hv
    rw [hkind] at hv
    obtain ⟨ss, rfl, -⟩ := hv
    show (ss.map Value.text).any (fun item => item.looseEq .null) = false
    simp [Value.looseEq_null, Value.isNull]
  · rw [fieldEq_some (hv.ne_list hkind), Value.looseEq_null, Value.isNull_eq_false hv.ne_null]

/-- **A field that holds no lists equals what a document is converted to if it has just that.** -/
theorem fieldEq_getD_iff {stored asked : Option Value} (hkind : f.kind ≠ .multiselect)
    (hstored : f.HoldsAny stored) (hasked : f.HoldsAny asked) :
    fieldEq stored (asked.getD .null) = true ↔ Option.Rel (fun v w => v.same w = true) stored asked := by
  cases stored with
  | none =>
    cases asked with
    | none => exact iff_of_true rfl .none
    | some w =>
      refine iff_of_false ?_ nofun
      show w.isNull ≠ true
      rw [Value.isNull_eq_false (hasked w rfl).ne_null]
      nofun
  | some v =>
    have hv := hstored v rfl
    cases asked with
    | none =>
      refine iff_of_false ?_ nofun
      rw [Option.getD_none, fieldEq_null hv]
      nofun
    | some w =>
      rw [fieldEq_some (hv.ne_list hkind), Option.getD_some, hv.looseEq_eq (hasked w rfl) hkind]
      constructor
      · intro h
        exact .some h
      · rintro ⟨h⟩
        exact h

end Predicate

/-- A declared field of a record is what its data holds. -/
theorem Record.field_declared {e : Entity} (he : e.Sound) {f : Field} (hf : f ∈ e.fields) (r : Record) :
    r.field f.name = r.data.get? f.name := by
  have hsystem := he.notSystem f hf
  have hidentifier := he.identifiers f hf
  generalize f.name = name at hsystem hidentifier
  unfold field
  -- The status of an approval is no identifier, all other names are the engine's.
  split <;> first | rfl | exact absurd hsystem (by decide) | exact absurd hidentifier (by decide)

/-! ## Filters -/

namespace Filter

def Compiles (e : Entity) (f : Filter) : Prop := ∃ p, compile e f = .ok p

/-- Whether a filter compiles to a predicate that a record meets. -/
def Selects (e : Entity) (f : Filter) (r : Record) : Prop := ∃ p, compile e f = .ok p ∧ r.meets p = true

/-- Filters that compile together, and then each selects the records that the other one leaves. -/
structure Opposed (e : Entity) (f g : Filter) : Prop where
  compiles : Compiles e f ↔ Compiles e g
  selects : Compiles e g → ∀ r, Selects e f r ↔ ¬Selects e g r

variable {e : Entity} {f : Field} {r : Record} {raw : Json}

section Compiled

variable {filter other : Filter} {α : Type} {result : Except FilterError α} {make : α → Predicate}

theorem compiles_iff (h : compile e filter = result.map make) : Compiles e filter ↔ ∃ a, result = .ok a := by
  rw [Compiles, h, exists_map_iff]

theorem selects_iff {p : Predicate} (h : compile e filter = .ok p) :
    Selects e filter r ↔ r.meets p = true := by
  rw [Selects, h]
  simp

theorem opposed_of_ok {p q : Predicate} (h : compile e filter = .ok p) (h' : compile e other = .ok q)
    (hmeets : ∀ r : Record, r.meets p = !r.meets q) : Opposed e filter other := by
  refine ⟨iff_of_true ⟨p, h⟩ ⟨q, h'⟩, ?_⟩
  intro _ r
  rw [selects_iff h, selects_iff h', hmeets]
  simp

/-- Filters that read the same and compile to complements are opposed. -/
theorem opposed_of_map {make' : α → Predicate} (h : compile e filter = result.map make)
    (h' : compile e other = result.map make') (hmeets : ∀ a r, Record.meets r (make a) = !r.meets (make' a)) :
    Opposed e filter other := by
  cases result with
  | ok a => exact opposed_of_ok h h' (hmeets a)
  | error error =>
    have hnot : ¬Compiles e other := by
      rw [compiles_iff h']
      nofun
    refine ⟨iff_of_false ?_ hnot, fun hcompiles => absurd hcompiles hnot⟩
    rw [compiles_iff h]
    nofun

end Compiled

/-! ## Declared fields -/

theorem convert_option (hkind : f.kind = .multiselect) {option : String} (hne : option ≠ "")
    (hoffers : f.Offers option) : (elementField f).convert (.string option) = .ok (some (.text option)) := by
  have hadmits : (elementField f).admits option = true := by
    rw [elementField, if_pos hkind]
    exact Field.admits_of_offers hoffers
  have hpresent : (elementField f).convertPresent (.string option) = .ok (.text option) := by
    have hselect : (elementField f).kind = .select := by rw [elementField, if_pos hkind]
    rw [Field.convertPresent, hselect]
    exact if_pos hadmits
  have habsent : (elementField f).isAbsent (.string option) = false := by
    rw [isAbsent_elementField]
    simp [Field.isAbsent, hne]
  rw [Field.convert, habsent, hpresent]
  rfl

section Declared

variable (he : e.Sound) (hf : f ∈ e.fields)

include he hf

theorem compiles_eq_iff :
    Compiles e ⟨f.name, .eq, raw⟩ ↔ ∃ value, (elementField f).convert raw = .ok value := by
  rw [compiles_iff (compile_declared he hf .eq raw)]
  constructor
  · rintro ⟨v, hv⟩
    obtain ⟨value, hvalue, -⟩ := elementValue_ok_iff.1 hv
    exact ⟨value, hvalue⟩
  · rintro ⟨value, hvalue⟩
    exact ⟨_, elementValue_ok_iff.2 ⟨value, hvalue, rfl⟩⟩

theorem selects_eq_iff_fieldEq {value : Option Value} (h : (elementField f).convert raw = .ok value) :
    Selects e ⟨f.name, .eq, raw⟩ r ↔ Predicate.fieldEq (r.data.get? f.name) (value.getD .null) = true := by
  have hcompile : compile e ⟨f.name, .eq, raw⟩ = .ok (.eq f.name (value.getD .null)) := by
    rw [compile_declared he hf, compileDeclared, elementValue_ok_iff.2 ⟨value, h, rfl⟩]
    rfl
  rw [selects_iff hcompile, r.meets_eq, Record.field_declared he hf]

/-- **Equality selects the records that hold what the document is converted to**, or that hold nothing
when it is converted to nothing. -/
theorem selects_eq_iff (hr : f.HoldsAny (r.data.get? f.name)) (hkind : f.kind ≠ .multiselect)
    {value : Option Value} (h : f.convert raw = .ok value) : Selects e ⟨f.name, .eq, raw⟩ r ↔
      Option.Rel (fun v w => v.same w = true) (r.data.get? f.name) value := by
  have helement : (elementField f).convert raw = .ok value := by rw [elementField_eq hkind, h]
  rw [selects_eq_iff_fieldEq he hf helement]
  exact Predicate.fieldEq_getD_iff hkind hr (Field.convert_holdsAny h)

/-- An absent document asks for records without a value. -/
theorem selects_eq_absent (hr : f.HoldsAny (r.data.get? f.name)) (h : f.isAbsent raw = true) :
    Compiles e ⟨f.name, .eq, raw⟩ ∧ (Selects e ⟨f.name, .eq, raw⟩ r ↔ r.data.get? f.name = none) := by
  have hconvert : (elementField f).convert raw = .ok none := by
    rw [Field.convert, isAbsent_elementField, if_pos h]
  refine ⟨(compiles_eq_iff he hf).2 ⟨none, hconvert⟩, ?_⟩
  rw [selects_eq_iff_fieldEq he hf hconvert]
  cases hstored : r.data.get? f.name with
  | none => simp [Predicate.fieldEq, Value.isNull]
  | some v => simp [Predicate.fieldEq_null (hr v hstored)]

/-- **A multiselect equals each of the options it holds.** -/
theorem selects_eq_option (hr : f.HoldsAny (r.data.get? f.name)) (hkind : f.kind = .multiselect)
    {option : String} (hne : option ≠ "") (hoffers : f.Offers option) :
    Compiles e ⟨f.name, .eq, .string option⟩ ∧ (Selects e ⟨f.name, .eq, .string option⟩ r ↔
      ∃ items, r.data.get? f.name = some (.list items) ∧ .text option ∈ items) := by
  have hconvert := convert_option hkind hne hoffers
  refine ⟨(compiles_eq_iff he hf).2 ⟨_, hconvert⟩, ?_⟩
  rw [selects_eq_iff_fieldEq he hf hconvert]
  cases hstored : r.data.get? f.name with
  | none =>
    refine iff_of_false nofun ?_
    rintro ⟨items, hitems, -⟩
    cases hitems
  | some v =>
    have hv := hr v hstored
    unfold Field.Holds at hv
    rw [hkind] at hv
    obtain ⟨ss, rfl, -⟩ := hv
    show (ss.map Value.text).any (fun item => item.looseEq (.text option)) = true ↔ _
    simp

/-! ## Membership -/

omit he hf in
/-- The values asked for are those of the items that stand for one. -/
theorem mem_elementValues {values : List Value} (h : elementValues f raw = .ok values) (v : Value) :
    v ∈ values ↔ ∃ item ∈ raw.splitValues, (elementField f).convert item = .ok (some v) := by
  obtain ⟨converted, hconverted, rfl⟩ := map_ok h
  rw [List.mem_filterMap]
  constructor
  · rintro ⟨value, hvalue, hv⟩
    obtain rfl : value = some v := hv
    obtain ⟨item, hitem, hconvert⟩ := exists_of_mem_mapM hconverted hvalue
    exact ⟨item, hitem, converted_ok_iff.1 hconvert⟩
  · rintro ⟨item, hitem, hconvert⟩
    obtain ⟨value, hvalue, hconvert'⟩ := exists_mem_of_mapM hconverted hitem
    rw [converted_ok_iff.2 hconvert] at hconvert'
    cases hconvert'
    exact ⟨some v, hvalue, rfl⟩

/-- **Membership compiles when each item is converted.** -/
theorem compiles_among_iff : Compiles e ⟨f.name, .among, raw⟩ ↔
    ∀ item ∈ raw.splitValues, ∃ value, (elementField f).convert item = .ok value := by
  rw [compiles_iff (compile_declared he hf .among raw), elementValues, exists_map_iff, exists_mapM_iff]
  simp only [converted_ok_iff]

/-- **Membership is equality with one of the items that stand for a value.** -/
theorem selects_among_iff (h : Compiles e ⟨f.name, .among, raw⟩) : Selects e ⟨f.name, .among, raw⟩ r ↔
    ∃ item ∈ raw.splitValues, f.isAbsent item = false ∧ Selects e ⟨f.name, .eq, item⟩ r := by
  obtain ⟨values, hvalues⟩ := (compiles_iff (compile_declared he hf .among raw)).1 h
  have hcompile : compile e ⟨f.name, .among, raw⟩ = .ok (.among f.name values false) := by
    rw [compile_declared he hf, compileDeclared, hvalues]
    rfl
  have hmeets : r.meets (.among f.name values false) = true ↔
      ∃ v ∈ values, Predicate.fieldEq (r.data.get? f.name) v = true := by
    rw [← Record.field_declared he hf, Record.meets, Predicate.holds, Bool.bne_false, List.any_eq_true]
  rw [selects_iff hcompile, hmeets]
  constructor
  · rintro ⟨v, hv, hequal⟩
    obtain ⟨item, hitem, hconvert⟩ := (mem_elementValues hvalues v).1 hv
    refine ⟨item, hitem, ?_, (selects_eq_iff_fieldEq he hf hconvert).2 hequal⟩
    rw [← isAbsent_elementField]
    exact (Field.convert_ok hconvert).1
  · rintro ⟨item, hitem, hpresent, hselects⟩
    obtain ⟨value, hconvert⟩ := (compiles_among_iff he hf).1 h item hitem
    rw [← isAbsent_elementField] at hpresent
    obtain ⟨v, rfl⟩ := Field.exists_of_convert hpresent hconvert
    exact ⟨v, (mem_elementValues hvalues v).2 ⟨item, hitem, hconvert⟩,
      (selects_eq_iff_fieldEq he hf hconvert).1 hselects⟩

end Declared

/-! ## Identifiers -/

section Identifier

variable {name : String} (hname : namesId name = true)

include hname

theorem compile_id (operator : FilterOp) (raw : Json) :
    compile e ⟨name, operator, raw⟩ = compileId ⟨name, operator, raw⟩ := if_pos hname

/-- **A record is selected by its identifier, however that is spelled.** -/
theorem selects_id_eq : Compiles e ⟨name, .eq, raw⟩ ∧
    (Selects e ⟨name, .eq, raw⟩ r ↔ raw.asRecordId? = some r.id) := by
  have hcompile := compile_id (e := e) hname .eq raw
  cases hid : raw.asRecordId? with
  | none =>
    simp only [compileId, hid] at hcompile
    refine ⟨⟨_, hcompile⟩, ?_⟩
    rw [selects_iff hcompile]
    exact iff_of_false nofun nofun
  | some id =>
    simp only [compileId, hid] at hcompile
    refine ⟨⟨_, hcompile⟩, ?_⟩
    rw [selects_iff hcompile, ← byId, r.meets_byId, decide_eq_true_iff, Option.some_inj]
    exact eq_comm

/-- **Items that are no identifiers are passed over.** -/
theorem selects_id_among : Compiles e ⟨name, .among, raw⟩ ∧
    (Selects e ⟨name, .among, raw⟩ r ↔ ∃ item ∈ raw.splitValues, item.asRecordId? = some r.id) := by
  have hcompile : compile e ⟨name, .among, raw⟩ = .ok (.among "id" (idValues raw) false) :=
    compile_id hname .among raw
  refine ⟨⟨_, hcompile⟩, ?_⟩
  have hmeets : r.meets (.among "id" (idValues raw) false) = true ↔
      ∃ v ∈ idValues raw, Predicate.fieldEq (some (.ref r.id.text)) v = true := by
    rw [Record.meets, Predicate.holds, Bool.bne_false, List.any_eq_true]
    rfl
  rw [selects_iff hcompile, hmeets]
  constructor
  · rintro ⟨v, hv, hequal⟩
    obtain ⟨id, hid, rfl⟩ := List.mem_map.1 hv
    obtain ⟨item, hitem, hread⟩ := List.mem_filterMap.1 hid
    rw [Predicate.fieldEq_ref, beq_iff_eq, Uuid.text_inj] at hequal
    exact ⟨item, hitem, hequal ▸ hread⟩
  · rintro ⟨item, hitem, hread⟩
    refine ⟨_, List.mem_map_of_mem (List.mem_filterMap.2 ⟨item, hitem, hread⟩), ?_⟩
    rw [Predicate.fieldEq_ref, beq_self_eq_true]

end Identifier

/-! ## Complements -/

theorem meets_among_not (field : String) (values : List Value) (r : Record) :
    r.meets (.among field values true) = !r.meets (.among field values false) := by
  rw [Record.meets, Record.meets, Predicate.holds, Predicate.holds, Bool.bne_true, Bool.bne_false]

/-- Filters on the identifier and their negations are opposed. -/
theorem opposed_id {name : String} (hname : namesId name = true) (raw : Json) :
    Opposed e ⟨name, .ne, raw⟩ ⟨name, .eq, raw⟩ ∧ Opposed e ⟨name, .notAmong, raw⟩ ⟨name, .among, raw⟩ := by
  have hne := compile_id (e := e) hname .ne raw
  have heq := compile_id (e := e) hname .eq raw
  refine ⟨?_, opposed_of_ok (compile_id hname .notAmong raw) (compile_id hname .among raw)
    (meets_among_not _ _)⟩
  cases hid : raw.asRecordId? with
  | none =>
    simp only [compileId, hid] at hne heq
    exact opposed_of_ok hne heq fun _ => rfl
  | some id =>
    simp only [compileId, hid] at hne heq
    exact opposed_of_ok hne heq fun _ => rfl

/-- **Negated operators select what the others leave.** -/
theorem opposed_declared (he : e.Sound) (hf : f ∈ e.fields) (raw : Json) :
    Opposed e ⟨f.name, .ne, raw⟩ ⟨f.name, .eq, raw⟩ ∧
      Opposed e ⟨f.name, .notAmong, raw⟩ ⟨f.name, .among, raw⟩ := by
  have hcompile := fun operator => compile_declared he hf operator raw
  exact ⟨opposed_of_map (hcompile .ne) (hcompile .eq) fun _ _ => rfl,
    opposed_of_map (hcompile .notAmong) (hcompile .among) (meets_among_not _)⟩

/-! ## All at once -/

/-- What filters for equality and membership by one document mean on a record. -/
structure AsStored (e : Entity) (r : Record) (raw : Json) : Prop where
  /-- Equality takes what the field converts, and means the value that is stored, or that none is. -/
  equality : ∀ f ∈ e.fields, f.kind ≠ .multiselect →
    (Compiles e ⟨f.name, .eq, raw⟩ ↔ ∃ value, f.convert raw = .ok value) ∧
      ∀ value, f.convert raw = .ok value → (Selects e ⟨f.name, .eq, raw⟩ r ↔
        Option.Rel (fun v w => v.same w = true) (r.data.get? f.name) value)
  /-- Equality with one option means that it is among those stored. -/
  options : ∀ f ∈ e.fields, f.kind = .multiselect →
    ∀ option, option ≠ "" → f.Offers option → raw = .string option →
      Compiles e ⟨f.name, .eq, raw⟩ ∧ (Selects e ⟨f.name, .eq, raw⟩ r ↔
        ∃ items, r.data.get? f.name = some (.list items) ∧ .text option ∈ items)
  /-- Equality with nothing means that nothing is stored. -/
  absence : ∀ f ∈ e.fields, f.kind = .multiselect → raw = .null ∨ raw = .string "" →
    Compiles e ⟨f.name, .eq, raw⟩ ∧ (Selects e ⟨f.name, .eq, raw⟩ r ↔ r.data.get? f.name = none)
  /-- Membership takes items that the field converts one by one, and means equality with one of those
  that are not absent. -/
  membership : ∀ f ∈ e.fields,
    (Compiles e ⟨f.name, .among, raw⟩ ↔
      ∀ item ∈ raw.splitValues, ∃ value, (elementField f).convert item = .ok value) ∧
      (Compiles e ⟨f.name, .among, raw⟩ → (Selects e ⟨f.name, .among, raw⟩ r ↔
        ∃ item ∈ raw.splitValues, f.isAbsent item = false ∧ Selects e ⟨f.name, .eq, item⟩ r))
  /-- Identifiers are read in all their spellings, and what is none is passed over. -/
  identifier : ∀ name, namesId name = true →
    (Compiles e ⟨name, .eq, raw⟩ ∧ (Selects e ⟨name, .eq, raw⟩ r ↔ raw.asRecordId? = some r.id)) ∧
      Compiles e ⟨name, .among, raw⟩ ∧ (Selects e ⟨name, .among, raw⟩ r ↔
        ∃ item ∈ raw.splitValues, item.asRecordId? = some r.id)
  /-- The negated operators compile along with these and select all other records. -/
  complements : ∀ name, (namesId name = true ∨ ∃ f ∈ e.fields, f.name = name) →
    Opposed e ⟨name, .ne, raw⟩ ⟨name, .eq, raw⟩ ∧ Opposed e ⟨name, .notAmong, raw⟩ ⟨name, .among, raw⟩

/-- **Equality and membership mean what storage means**, on every record whose data was converted by the
fields of a registered entity. -/
theorem membership_as_stored {s : Schema} (hs : s.Registered) {name : String} {e : Entity}
    (hfind : s.find name = .ok e) {r : Record}
    (hr : ∀ f ∈ e.fields, ∀ v, r.data.get? f.name = some v → ∃ raw, f.convert raw = .ok (some v))
    (raw : Json) : AsStored e r raw := by
  have he := (hs.sound hfind).2
  have hholds : ∀ f ∈ e.fields, f.HoldsAny (r.data.get? f.name) := by
    intro f hf v hv
    obtain ⟨source, hsource⟩ := hr f hf v hv
    exact Field.convert_holds hsource
  constructor
  case equality =>
    intro f hf hkind
    refine ⟨?_, fun value hvalue => selects_eq_iff he hf (hholds f hf) hkind hvalue⟩
    rw [compiles_eq_iff he hf, elementField_eq hkind]
  case options =>
    rintro f hf hkind option hne hoffers rfl
    exact selects_eq_option he hf (hholds f hf) hkind hne hoffers
  case absence =>
    rintro f hf hkind (rfl | rfl)
    · exact selects_eq_absent he hf (hholds f hf) rfl
    · refine selects_eq_absent he hf (hholds f hf) ?_
      simp [Field.isAbsent, FieldKind.keepsEmpty, hkind]
  case membership =>
    intro f hf
    exact ⟨compiles_among_iff he hf, selects_among_iff he hf⟩
  case identifier =>
    intro name hname
    exact ⟨selects_id_eq hname, selects_id_among hname⟩
  case complements =>
    rintro name (hname | ⟨f, hf, rfl⟩)
    · exact opposed_id hname raw
    · exact opposed_declared he hf raw

/-! ## Wares -/

namespace Wares

def ware : Entity where
  name := "ware"
  label := none
  fields :=
    [.plain "price" .currency,
      { Field.plain "tags" .multiselect with options := some ["new", "used", "rare"] }]

def wares : Schema := ⟨(∅ : Dict String Entity).insert "ware" ware⟩

/-- A used ware that costs nothing. -/
def lamp : Record :=
  .create .nil "t1" "ware" ⟨"u1", .epoch⟩
    (((∅ : Dict String Value).insert "price" (.currency .zero)).insert "tags" (.list [.text "used"]))

/-- The lamp is found by its price with another number of places, by its tag among others and by its
identifier in braces, and not by the negations of these. -/
theorem lamp_found :
    Selects ware ⟨"price", .eq, .string "0.00"⟩ lamp ∧
    Selects ware ⟨"tags", .among, .string "new, used"⟩ lamp ∧
    ¬Selects ware ⟨"tags", .notAmong, .string "new, used"⟩ lamp ∧
    Selects ware ⟨"_id", .eq, .string "\x7b00000000-0000-0000-0000-000000000000\x7d"⟩ lamp := by
  have hregistered : wares.Registered := .register (e := ware) .empty rfl
  have hfind : wares.find "ware" = .ok ware := rfl
  have hconverted : ∀ f ∈ ware.fields, ∀ v, lamp.data.get? f.name = some v →
      ∃ raw, f.convert raw = .ok (some v) := by
    intro f hf v hv
    simp only [ware, List.mem_cons, List.not_mem_nil, or_false] at hf
    rcases hf with rfl | rfl
    · have hprice : lamp.data.get? "price" = some (.currency .zero) := rfl
      cases hprice.symm.trans hv
      exact ⟨.string "0", rfl⟩
    · have htags : lamp.data.get? "tags" = some (.list [.text "used"]) := rfl
      cases htags.symm.trans hv
      exact ⟨.string "used", rfl⟩
  have hmeans := membership_as_stored hregistered hfind hconverted
  have hprice : Selects ware ⟨"price", .eq, .string "0.00"⟩ lamp := by
    have hequality := ((hmeans (.string "0.00")).equality _ (.head _) nofun).2
    exact (hequality _ rfl).2 (.some (by decide))
  have hitems : (Json.string "new, used").splitValues = [.string "new", .string "used"] := rfl
  obtain ⟨hcompiles, hselects⟩ := (hmeans (.string "new, used")).membership _ (.tail _ (.head _))
  have hboth : Compiles ware ⟨"tags", .among, .string "new, used"⟩ := by
    refine hcompiles.2 ?_
    rw [hitems]
    exact List.forall_mem_cons.2 ⟨⟨_, rfl⟩, List.forall_mem_cons.2 ⟨⟨_, rfl⟩, nofun⟩⟩
  have hused : Selects ware ⟨"tags", .eq, .string "used"⟩ lamp := by
    refine ((hmeans _).options _ (.tail _ (.head _)) rfl "used" (by decide) ?_ rfl).2.2 ?_
    · intro options hoptions _
      cases hoptions
      exact .tail _ (.head _)
    · exact ⟨_, rfl, .head _⟩
  have htags : Selects ware ⟨"tags", .among, .string "new, used"⟩ lamp := by
    refine (hselects hboth).2 ⟨.string "used", ?_, rfl, hused⟩
    rw [hitems]
    exact .tail _ (.head _)
  have hopposed := ((hmeans (.string "new, used")).complements "tags" (.inr ⟨_, .tail _ (.head _), rfl⟩)).2
  refine ⟨hprice, htags, fun hother => (hopposed.selects hboth lamp).1 hother htags, ?_⟩
  exact ((hmeans _).identifier "_id" rfl).1.2.2 (by decide +kernel)

end Wares

end Filter

end Dossier
