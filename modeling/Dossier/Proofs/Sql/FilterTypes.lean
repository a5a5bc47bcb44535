import Dossier.Proofs.CompiledFilter
import Dossier.Proofs.Sql.Typing

/-!
# Filters that compare across types

Which filters give a comparison of two types, said on the filters (`Filter.mistyped`), and that the
condition of a list of filters is well typed exactly when it has none of these (`typed_iff`).

A value is converted by the field that it is compared with, and its kind decides both sides of the
comparison: the cast of the stored text and the type that is bound. The two part ways in two places. A
reference to a record is bound as an identifier, also where its field is read as text; and a system field
that has another type than the value is read as text, also where the value is none.
-/

namespace Dossier

/-! ## Filters of two types -/

def FilterOp.isOrder : FilterOp → Bool
  | .gt | .gte | .lt | .lte => true
  | _ => false

namespace Filter

open Sql (SystemColumn)

/-- Whether a document has a type of its own that is not the type of a column. -/
def foreignTo (c : SystemColumn) : Json → Bool
  | .null | .string _ => false
  | .bool _ => c.type != .boolean
  | .number n => n.toDouble?.isSome
  | .array _ | .object _ => true

/-- Whether a filter compares two types: the order of a field of references asked for with a record
identifier, or a system field with a document of another type. -/
def mistyped (entity : Entity) (f : Filter) : Bool :=
  !namesId f.field &&
    match entity.find? f.field with
    | some field =>
      f.operator.isOrder && field.kind.isReference && (f.value.asReference?.bind Uuid.read?).isSome
    | none => (SystemColumn.ofField? f.field).any fun c => foreignTo c f.value

end Filter

/-! ## Tests of conjunctions -/

namespace Predicate

theorem allLeaves_append (ps qs : List Predicate) :
    allLeaves (ps ++ qs) = allLeaves ps ++ allLeaves qs := by
  induction ps with
  | nil => rfl
  | cons p ps ih => rw [List.cons_append, allLeaves, ih, allLeaves, List.append_assoc]

theorem allFull_append (ps qs : List Predicate) :
    allFull (ps ++ qs) = (allFull ps && allFull qs) := by
  induction ps with
  | nil => rfl
  | cons p ps ih => rw [List.cons_append, allFull, ih, allFull, Bool.and_assoc]

/-- Without `never` among them, the parts of a conjunction keep their tests. -/
theorem exists_conjuncts {ps : List Predicate} (hnever : ∀ p ∈ ps, p ≠ .never)
    (hfull : allFull ps = true) :
    ∃ parts, conjuncts ps = some parts ∧ allLeaves parts = allLeaves ps ∧ allFull parts = true := by
  induction ps with
  | nil => exact ⟨[], rfl, rfl, rfl⟩
  | cons p ps ih =>
    obtain ⟨hp, hnever⟩ := List.forall_mem_cons.1 hnever
    obtain ⟨hpfull, hfull⟩ := Bool.and_eq_true_iff.1 hfull
    obtain ⟨parts, hparts, hleaves, hpartsFull⟩ := ih hnever hfull
    cases p with
    | always => exact ⟨parts, hparts, hleaves, hpartsFull⟩
    | never => exact absurd rfl hp
    | and inner =>
      obtain ⟨-, hinner⟩ := Bool.and_eq_true_iff.1 hpfull
      refine ⟨inner ++ parts, by rw [conjuncts, hparts]; rfl, ?_, ?_⟩
      · rw [allLeaves_append, hleaves]
        rfl
      · rw [allFull_append, hinner, hpartsFull]
        rfl
    | compare | among | text | between | or | not =>
      refine ⟨_, by rw [conjuncts, hparts, Option.map_some] <;> simp, ?_, ?_⟩
      · rw [allLeaves, hleaves, allLeaves]
      · rw [allFull, hpfull, hpartsFull]
        rfl

/-- **The tests of a conjunction are those of its parts.** -/
theorem leaves_all {ps : List Predicate} (hnever : ∀ p ∈ ps, p ≠ .never)
    (hfull : allFull ps = true) : (all ps).full = true ∧ (all ps).leaves = allLeaves ps := by
  obtain ⟨parts, hparts, hleaves, hpartsFull⟩ := exists_conjuncts hnever hfull
  unfold all
  rw [hparts, ← hleaves]
  match parts with
  | [] => exact ⟨rfl, rfl⟩
  | [p] =>
    rw [allFull, allFull, Bool.and_true] at hpartsFull
    exact ⟨hpartsFull, by rw [allLeaves, allLeaves, List.append_nil]⟩
  | p :: q :: rest => exact ⟨hpartsFull, rfl⟩

end Predicate

namespace Sql

/-! ## Tests on declared fields -/

/-- No field that an entity declares is a system column. -/
theorem SystemColumn.ofField?_eq_none {name : String} (hname : isIdentifier name.toList = true)
    (hsystem : isSystemField name = false) : ofField? name = none := by
  cases h : ofField? name with
  | none => rfl
  | some c =>
    have hfield : c.field = name := by simpa using List.find?_some h
    subst hfield
    -- The status of an approval is no identifier, every other column is the engine's.
    cases c <;> first | exact absurd hsystem (by decide +kernel) | exact absurd hname (by decide +kernel)

def bindsId : Value → Bool
  | .ref id => (Uuid.read? id).isSome
  | _ => false

section Declared

variable {field : String} (hfield : SystemColumn.ofField? field = none)

include hfield

theorem typed_equals_declared (v : Value) : (Test.equals field v).typed = true := by
  cases v <;> simp [Test.equals, Test.typed, Operand.forValue, hfield, Operand.castFor?, Operand.type,
    Param.ofValue, Param.type?]

/-- Other comparisons read a reference as text. -/
theorem typed_compares_declared (relation : Relation) {v : Value} (hv : v ≠ .null) :
    (Test.compares (.forValue field v) relation (.ofValue v)).typed = !bindsId v := by
  cases v with
  | null => exact absurd rfl hv
  | ref id =>
    cases hid : Uuid.read? id <;> simp [Test.typed, Operand.forValue, hfield, Operand.castFor?,
      Operand.type, Param.ofValue, Param.type?, bindsId, hid]
  | _ => simp [Test.typed, Operand.forValue, hfield, Operand.castFor?, Operand.type, Param.ofValue,
      Param.type?, bindsId]

end Declared

/-- **A document is compared with a system column in a type of both, unless it is foreign to it.** -/
theorem typed_equals_column {field : String} {c : SystemColumn} (hc : SystemColumn.ofField? field = some c)
    (document : Json) : (Test.equals field (.ofJson document)).typed = !Filter.foreignTo c document := by
  have hcompares (v : Value) (hv : v ≠ .null) : Test.equals field v =
      .compares (if Operand.fitsColumn c v then .column c else .columnAsText c) .eq (.ofValue v) := by
    cases v <;> simp [Test.equals, hc, Operand.forValue] at hv ⊢
  have hnull : Test.equals field .null = .columnIsNull c := by simp [Test.equals, hc]
  cases document with
  | null =>
    rw [Value.ofJson, hnull]
    rfl
  | bool b =>
    rw [Value.ofJson, hcompares (.bool b) (by simp)]
    cases c <;> rfl
  | number n =>
    rw [Value.ofJson, Filter.foreignTo]
    cases n.toDouble? with
    | none => exact congrArg Test.typed hnull
    | some d => exact congrArg Test.typed (hcompares (.number (.finite d)) (by simp))
  | string s =>
    rw [Value.ofJson, hcompares (.text s) (by simp)]
    cases c <;> rfl
  | array items => rw [Value.ofJson, hcompares (.list _) (by simp)]; rfl
  | object members => rw [Value.ofJson, hcompares (.json _) (by simp)]; rfl

end Sql

/-! ## Compiled filters -/

open Sql (SystemColumn bindsId typed_equals_declared typed_compares_declared typed_equals_column)

/-- A part of a conjunction whose tests are well typed as a Boolean says. -/
structure Predicate.TypedAs (p : Predicate) (b : Bool) : Prop where
  ne_never : p ≠ .never
  full : p.full = true
  typed : (p.leaves.all fun l => l.test.typed) = b

namespace Filter

theorem typedAs_eq {field : String} {v : Value} {b : Bool} (h : (Sql.Test.equals field v).typed = b) :
    (Predicate.eq field v).TypedAs b := ⟨nofun, rfl, (Bool.and_true _).trans h⟩

theorem typedAs_ne {field : String} {v : Value} {b : Bool} (h : (Sql.Test.equals field v).typed = b) :
    (Predicate.ne field v).TypedAs b := ⟨nofun, rfl, (Bool.and_true _).trans h⟩

theorem typedAs_among {field : String} {values : List Value} (negated : Bool)
    (h : ∀ v ∈ values, (Sql.Test.equals field v).typed = true) :
    (Predicate.among field values negated).TypedAs true := by
  refine ⟨nofun, rfl, ?_⟩
  rw [Predicate.leaves, List.all_map, List.all_eq_true]
  exact h

theorem typedAs_compileId {f : Filter} {p : Predicate} (h : compileId f = .ok p) : p.TypedAs true := by
  have hid (id : Uuid) : (Sql.Test.equals "id" (.ref id.text)).typed = true := by
    rw [Sql.equals_id]
    rfl
  rcases compileId_ok h with rfl | ⟨id, rfl | rfl⟩ | ⟨ids, negated, rfl⟩
  · exact ⟨nofun, rfl, rfl⟩
  · exact typedAs_eq (hid id)
  · exact typedAs_ne (hid id)
  · refine typedAs_among negated fun v hv => ?_
    obtain ⟨id, -, rfl⟩ := List.mem_map.1 hv
    exact hid id

section Declared

variable {f : Field} {raw : Json} {v : Value} {p : Predicate}

/-- **A converted value is bound as a record identifier exactly where a field of references is given
one.** -/
theorem bindsId_of_convertPresent (habsent : f.isAbsent raw = false) (h : f.convertPresent raw = .ok v) :
    bindsId v = (f.kind.isReference && (raw.asReference?.bind Uuid.read?).isSome) := by
  have hholds := Field.convertPresent_holds habsent h
  unfold Field.Holds at hholds
  cases hkind : f.kind <;> simp only [hkind] at hholds
  case lookup =>
    unfold Field.convertPresent at h
    simp only [hkind] at h
    obtain ⟨s, hs, h⟩ := bind_ok h
    obtain ⟨id, hid, rfl⟩ := map_ok h
    cases href : raw.asReference? with
    | none =>
      rw [href] at hs
      cases hs
    | some t =>
      rw [href] at hs
      cases hs
      cases hread : Uuid.read? s with
      | none =>
        rw [hread] at hid
        cases hid
      | some id' => simp [bindsId, FieldKind.isReference, hread, Uuid.read?_text]
  case file | image =>
    unfold Field.convertPresent at h
    simp only [hkind] at h
    obtain ⟨s, hs, h⟩ := bind_ok h
    cases href : raw.asReference? with
    | none =>
      rw [href] at hs
      cases hs
    | some t =>
      rw [href] at hs
      cases hs
      split at h <;> cases h
      simp [bindsId, FieldKind.isReference]
  all_goals
    obtain ⟨_, hv⟩ := hholds
    first | subst hv | obtain ⟨rfl, -⟩ := hv
    rfl

variable (hfield : SystemColumn.ofField? f.name = none)

include hfield

theorem typedAs_compares {relation : Relation}
    (h : (presentValue f raw).map (fun value => Predicate.compare f.name relation value) = .ok p)
    (hrelation : relation ≠ .eq ∧ relation ≠ .ne) :
    p.TypedAs !(f.kind.isReference && (raw.asReference?.bind Uuid.read?).isSome) := by
  obtain ⟨v, hv, rfl⟩ := map_ok h
  obtain ⟨habsent, hconvert⟩ := presentValue_ok hv
  have hne : v ≠ .null := (Field.convertPresent_holds habsent hconvert).ne_null
  have htyped := typed_compares_declared hfield relation hne
  rw [bindsId_of_convertPresent habsent hconvert] at htyped
  refine ⟨nofun, rfl, ?_⟩
  rw [← htyped]
  cases relation with
  | eq => exact absurd rfl hrelation.1
  | ne => exact absurd rfl hrelation.2
  | _ => exact Bool.and_true _

/-- A search compares nothing, and otherwise it is a test for equality. -/
theorem typedAs_compileText {mode : TextMatch} (h : compileText f mode raw = .ok p) : p.TypedAs true := by
  rcases compileText_ok h with ⟨pattern, -, rfl⟩ | ⟨v, -, rfl⟩
  · refine ⟨nofun, rfl, ?_⟩
    simp [Predicate.leaves, Leaf.test, hfield, Sql.Test.typed]
  · exact typedAs_eq (typed_equals_declared hfield v)

/-- The two ends of a range have one type. -/
theorem typedAs_compileBetween (h : compileBetween f raw = .ok p) : p.TypedAs true := by
  have hbetween {low high : Value} (htyped : (Leaf.between f.name low high).test.typed = true) :
      (Predicate.between f.name low high).TypedAs true := ⟨nofun, rfl, (Bool.and_true _).trans htyped⟩
  obtain ⟨low, high, -, hrange⟩ := compileBetween_ok h
  rcases hrange with ⟨t, u, -, -, rfl⟩ | ⟨x, y, -, -, rfl⟩ <;>
  · refine hbetween ?_
    simp [Leaf.test, Sql.Test.typed, Sql.Operand.forValue, hfield, Sql.Operand.castFor?,
      Sql.Operand.type, Sql.Param.ofValue, Sql.Param.type?]

theorem typedAs_compileDeclared {operator : FilterOp} (h : compileDeclared f operator raw = .ok p) :
    p.TypedAs !(operator.isOrder && f.kind.isReference &&
      (raw.asReference?.bind Uuid.read?).isSome) := by
  cases operator with
  | eq =>
    obtain ⟨v, -, rfl⟩ := map_ok h
    exact typedAs_eq (typed_equals_declared hfield v)
  | ne =>
    obtain ⟨v, -, rfl⟩ := map_ok h
    exact typedAs_ne (typed_equals_declared hfield v)
  | gt | gte | lt | lte => exact typedAs_compares hfield h ⟨nofun, nofun⟩
  | among =>
    obtain ⟨values, -, rfl⟩ := map_ok h
    exact typedAs_among false fun v _ => typed_equals_declared hfield v
  | notAmong =>
    obtain ⟨values, -, rfl⟩ := map_ok h
    exact typedAs_among true fun v _ => typed_equals_declared hfield v
  | contains | startsWith | endsWith => exact typedAs_compileText hfield h
  | between => exact typedAs_compileBetween hfield h

end Declared

variable {entity : Entity}

/-- **The tests of a compiled filter are well typed unless the filter compares two types.** -/
theorem typedAs_compile (he : entity.Sound) {f : Filter} {p : Predicate} (h : compile entity f = .ok p) :
    p.TypedAs !f.mistyped entity := by
  unfold mistyped
  rcases compile_ok h with ⟨hid, hcompile⟩ | ⟨hid, ⟨field, hfind, hcompile⟩ | ⟨hfind, rfl⟩⟩
  · rw [hid]
    exact typedAs_compileId hcompile
  · rw [hid, hfind]
    obtain ⟨hmem, -⟩ := Entity.mem_of_find? hfind
    exact typedAs_compileDeclared (SystemColumn.ofField?_eq_none (he.identifiers field hmem)
      (he.notSystem field hmem)) hcompile
  · rw [hid, hfind]
    refine typedAs_eq ?_
    cases hcolumn : SystemColumn.ofField? f.field with
    | none => exact typed_equals_declared hcolumn _
    | some c => exact typed_equals_column hcolumn f.value

theorem typedAs_compileAll (he : entity.Sound) {filters : List Filter} {p : Predicate}
    (h : compileAll entity filters = .ok p) :
    p.full = true ∧ (p.leaves.all fun l => l.test.typed) = filters.all fun f => !f.mistyped entity := by
  obtain ⟨ps, hps, rfl⟩ := map_ok h
  have hall := mapM_ok hps
  clear hps h
  have hparts : (∀ p ∈ ps, p ≠ .never) ∧ Predicate.allFull ps = true ∧
      ((Predicate.allLeaves ps).all fun l => l.test.typed) =
        filters.all fun f => !f.mistyped entity := by
    induction hall with
    | nil => exact ⟨nofun, rfl, rfl⟩
    | cons hp _ ih =>
      obtain ⟨hnever, hfull, htyped⟩ := typedAs_compile he hp
      obtain ⟨hnevers, hfulls, htypeds⟩ := ih
      refine ⟨List.forall_mem_cons.2 ⟨hnever, hnevers⟩, Bool.and_eq_true_iff.2 ⟨hfull, hfulls⟩, ?_⟩
      rw [Predicate.allLeaves, List.all_append, htyped, htypeds, List.all_cons]
  obtain ⟨hnever, hfull, htyped⟩ := hparts
  obtain ⟨hallFull, hleaves⟩ := Predicate.leaves_all hnever hfull
  exact ⟨hallFull, by rw [hleaves, htyped]⟩

end Filter

namespace Sql

/-- **The condition of a list of filters compares values of one type each, unless one of the filters
compares two types.** -/
theorem typed_iff {s : Schema} (hs : s.Registered) {name : String} {entity : Entity}
    (hentity : s.find name = .ok entity) {filters : List Filter} {p : Predicate}
    (hp : Filter.compileAll entity filters = .ok p) :
    ∃ e, expressionOf (whereClause p).text = some e ∧
      (e.typed (whereClause p).params = true ↔ ∀ f ∈ filters, f.mistyped entity = false) := by
  obtain ⟨hfull, htyped⟩ := Filter.typedAs_compileAll (hs.sound hentity).2 hp
  refine ⟨_, expressionOf_whereClause hfull 1, ?_⟩
  rw [typed_whereClause, htyped, List.all_eq_true]
  simp

namespace OwnerSample

def task : Entity :=
  ⟨"task", none, [{ Field.plain "owner" .lookup with lookup := some ⟨"users", "name"⟩ },
    .plain "cost" .currency]⟩

def tasks : Schema := ⟨(∅ : Dict String Entity).insert task.name task⟩

theorem registered : tasks.Registered := .register (e := task) .empty rfl

/-- The live tasks of a user that cost something. -/
def costly : List Filter :=
  [⟨"owner", .eq, .string Uuid.nil.text⟩, ⟨"cost", .gt, .number (.int 0)⟩, ⟨"deleted", .eq, .bool false⟩]

def ownerAfter : Filter := ⟨"owner", .gt, .string Uuid.nil.text⟩

end OwnerSample

open OwnerSample in
/-- A user is found as the owner, an amount is compared with an amount. -/
theorem costly_typed : tasks.Registered ∧ tasks.find "task" = .ok task ∧
    ∃ p e, Filter.compileAll task costly = .ok p ∧ expressionOf (whereClause p).text = some e ∧
      e.typed (whereClause p).params = true := by
  obtain ⟨p, hp⟩ : ∃ p, Filter.compileAll task costly = .ok p := ⟨_, rfl⟩
  have hfind : tasks.find "task" = .ok task := rfl
  obtain ⟨e, he, htyped⟩ := typed_iff registered hfind hp
  exact ⟨registered, hfind, p, e, hp, he, htyped.2 (by decide +kernel)⟩

open OwnerSample in
/-- The owner is read as text, and the user that it has to come after is bound as an identifier. -/
theorem owner_order_mistyped : tasks.Registered ∧ tasks.find "task" = .ok task ∧
    ∃ p e, Filter.compileAll task [ownerAfter] = .ok p ∧
      (whereClause p).text = "data->>'owner' > $1" ∧ (whereClause p).params = [.uuid .nil] ∧
      expressionOf (whereClause p).text = some e ∧ e.typed (whereClause p).params = false := by
  refine ⟨registered, rfl, .compare "owner" .gt (.ref Uuid.nil.text), _, rfl, ?_, rfl,
    expressionOf_whereClause rfl 1, ?_⟩
  · decide +kernel
  · rw [typed_whereClause]
    decide +kernel

end Sql

end Dossier
