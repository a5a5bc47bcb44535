import Dossier.Proofs.CompiledFilter
import Dossier.Proofs.Condition
import Dossier.Proofs.Listing

/-!
# Records that differ in fields nobody looks at

**Predicates that ignore fields** (`Predicate.Ignores`) hold alike of sources which differ in these
fields alone. What filters, conditions and permissions compile to ignores every field that they do not
speak of.

**Records that are alike** (`Record.AlikeBut`) differ at most in the values of certain data fields. They
meet the same of the predicates that ignore these (`meets_eq`) and take the same place in a sort order
that does not name them (`compareBy_eq`). So two stores of such records list records that are alike,
one for one (`pages_alike`).
-/

namespace Dossier

/-! ## Predicates that ignore fields -/

namespace Predicate

/-- A predicate that holds alike of sources which differ only in the given fields. -/
def Ignores (p : Predicate) (hidden : String → Prop) : Prop :=
  ∀ source source' : FieldSource, (∀ name, ¬ hidden name → source name = source' name) →
    p.holds source = p.holds source'

/-- A predicate that looks at one field. -/
inductive Tests (field : String) : Predicate → Prop
  | compare (relation : Relation) (value : Value) : Tests field (.compare field relation value)
  | among (values : List Value) (negated : Bool) : Tests field (.among field values negated)
  | text (mode : TextMatch) (pattern : String) : Tests field (.text field mode pattern)
  | between (low high : Value) : Tests field (.between field low high)

variable {hidden : String → Prop} {p q : Predicate} {ps : List Predicate}

theorem Tests.ignores {field : String} (h : p.Tests field) (hfield : ¬ hidden field) :
    p.Ignores hidden := by
  intro source source' hsame
  have hvalue := hsame field hfield
  cases h <;> simp only [holds, hvalue]

theorem ignores_always (hidden : String → Prop) : Predicate.always.Ignores hidden :=
  fun _ _ _ => rfl

theorem Ignores.all (h : ∀ p ∈ ps, p.Ignores hidden) : (Predicate.all ps).Ignores hidden := by
  intro source source' hsame
  rw [holds_all, holds_all, Bool.eq_iff_iff, List.all_eq_true, List.all_eq_true]
  exact forall₂_congr fun p hp => by rw [h p hp source source' hsame]

theorem Ignores.any (h : ∀ p ∈ ps, p.Ignores hidden) : (Predicate.any ps).Ignores hidden := by
  intro source source' hsame
  rw [holds_any, holds_any, Bool.eq_iff_iff, List.any_eq_true, List.any_eq_true]
  exact exists_congr fun p => and_congr_right fun hp => by rw [h p hp source source' hsame]

theorem Ignores.negate (h : p.Ignores hidden) : p.negate.Ignores hidden := by
  intro source source' hsame
  rw [holds_negate, holds_negate, h source source' hsame]

theorem Ignores.both (hp : p.Ignores hidden) (hq : q.Ignores hidden) : (p.both q).Ignores hidden := by
  intro source source' hsame
  rw [holds_both, holds_both, hp source source' hsame, hq source source' hsame]

/-- The guard on tenant, entity and deletion looks at nothing else. -/
theorem ignores_scopeWhere (hsystem : ∀ field, hidden field → isSystemField field = false)
    (tenant entity : String) (deleted : Bool) :
    (scopeWhere tenant entity deleted).Ignores hidden := by
  have hshown {field : String} (h : isSystemField field = true) : ¬ hidden field := by
    intro hfield
    rw [hsystem field hfield] at h
    cases h
  refine .all fun p hp => ?_
  simp only [List.mem_cons, List.not_mem_nil, or_false] at hp
  rcases hp with rfl | rfl | rfl <;> exact (Tests.compare _ _).ignores (hshown rfl)

end Predicate

/-! ## What filters and conditions speak of -/

section

variable {hidden : String → Prop} {p : Predicate}

namespace Filter

variable {f : Field} {raw : Json} {entity : Entity}

theorem tests_compileText {mode : TextMatch} (h : compileText f mode raw = .ok p) :
    p.Tests f.name := by
  rcases compileText_ok h with ⟨pattern, -, rfl⟩ | ⟨value, -, rfl⟩
  · exact .text mode pattern
  · exact .compare .eq value

theorem tests_compileBetween (h : compileBetween f raw = .ok p) : p.Tests f.name := by
  obtain ⟨low, high, -, hrange⟩ := compileBetween_ok h
  rcases hrange with ⟨t, u, -, -, rfl⟩ | ⟨x, y, -, -, rfl⟩ <;> exact .between _ _

theorem tests_compileDeclared {operator : FilterOp} (h : compileDeclared f operator raw = .ok p) :
    p.Tests f.name := by
  cases operator with
  | eq | ne | gt | gte | lt | lte =>
    obtain ⟨value, -, rfl⟩ := map_ok h
    exact .compare _ value
  | among | notAmong =>
    obtain ⟨values, -, rfl⟩ := map_ok h
    exact .among values _
  | contains | startsWith | endsWith => exact tests_compileText h
  | between => exact tests_compileBetween h

/-- A filter on the identifier tests it, or nothing. -/
theorem ignores_compileId {f : Filter} (h : compileId f = .ok p) (hid : ¬ hidden "id") :
    p.Ignores hidden := by
  rcases compileId_ok h with rfl | ⟨id, rfl | rfl⟩ | ⟨ids, negated, rfl⟩
  · exact Predicate.ignores_always hidden
  · exact (Predicate.Tests.compare .eq _).ignores hid
  · exact (Predicate.Tests.compare .ne _).ignores hid
  · exact (Predicate.Tests.among _ negated).ignores hid

/-- **A filter looks at the field that it names.** -/
theorem ignores_compile {f : Filter} (h : compile entity f = .ok p) (hfield : ¬ hidden f.field)
    (hid : ¬ hidden "id") : p.Ignores hidden := by
  rcases compile_ok h with ⟨-, hcompile⟩ | ⟨-, ⟨field, hfind, hcompile⟩ | ⟨-, rfl⟩⟩
  · exact ignores_compileId hcompile hid
  · have hname := (Entity.mem_of_find? hfind).2
    exact (tests_compileDeclared hcompile).ignores (by rwa [hname])
  · exact (Predicate.Tests.compare .eq _).ignores hfield

theorem ignores_compileAll {filters : List Filter} (h : compileAll entity filters = .ok p)
    (hfields : ∀ f ∈ filters, ¬ hidden f.field) (hid : ¬ hidden "id") : p.Ignores hidden := by
  obtain ⟨ps, hps, rfl⟩ := map_ok h
  refine .all fun p hp => ?_
  obtain ⟨f, hf, hcompile⟩ := exists_of_mem_mapM hps hp
  exact ignores_compile hcompile (hfields f hf) hid

end Filter

variable {vars : Variables} {entity? : Option Entity}

theorem Comparison.ignores_compile {c : Comparison} (h : c.compile vars entity? = .ok p)
    (hfield : ¬ hidden c.field) (hid : ¬ hidden "id") : p.Ignores hidden := by
  obtain ⟨value, -, h⟩ := bind_ok h
  cases hcompile : Filter.compile (target entity? c.field value) ⟨c.field, c.op, value⟩ with
  | error error =>
    rw [hcompile] at h
    cases h
  | ok p =>
    rw [hcompile] at h
    cases h
    exact Filter.ignores_compile hcompile hfield hid

namespace Condition

mutual

/-- **A row condition looks at the fields of its comparisons.** -/
theorem ignores_compile (c : Condition) (hleaves : ∀ leaf ∈ c.leaves, ¬ hidden leaf.field)
    (hid : ¬ hidden "id") {p : Predicate} (h : c.compile vars entity? = .ok p) :
    p.Ignores hidden := by
  match c with
  | .always | .never =>
    cases h
    exact fun _ _ _ => rfl
  | .and parts =>
    obtain ⟨ps, hps, rfl⟩ := map_ok h
    exact .all (ignores_compileAll parts hleaves hid hps)
  | .or parts =>
    obtain ⟨ps, hps, rfl⟩ := map_ok h
    exact .any (ignores_compileAll parts hleaves hid hps)
  | .not inner =>
    obtain ⟨p, hp, rfl⟩ := map_ok h
    exact (ignores_compile inner hleaves hid hp).negate
  | .compare leaf => exact leaf.ignores_compile h (hleaves leaf List.mem_cons_self) hid

theorem ignores_compileAll (parts : List Condition)
    (hleaves : ∀ leaf ∈ leavesOfAll parts, ¬ hidden leaf.field) (hid : ¬ hidden "id")
    {ps : List Predicate} (h : compileAll vars entity? parts = .ok ps) :
    ∀ p ∈ ps, p.Ignores hidden := by
  match parts with
  | [] =>
    cases h
    exact nofun
  | part :: rest =>
    unfold compileAll at h
    split at h
    · cases h
    · rename_i p hp
      obtain ⟨ps, hps, rfl⟩ := map_ok h
      refine List.forall_mem_cons.2 ⟨?_, ?_⟩
      · exact ignores_compile part (fun leaf hl => hleaves leaf (List.mem_append_left _ hl)) hid hp
      · exact ignores_compileAll rest (fun leaf hl => hleaves leaf (List.mem_append_right _ hl)) hid
          hps

end

end Condition

/-- What the row condition of a permission comes down to looks at the fields that it compares. -/
theorem Permission.ignores_rowPredicate {permission : Permission} {entity : Entity}
    (h : permission.rowPredicate vars entity = .ok p)
    (hleaves : ∀ c, permission.condition = some c → ∀ leaf ∈ c.leaves, ¬ hidden leaf.field)
    (hid : ¬ hidden "id") : p.Ignores hidden := by
  unfold rowPredicate at h
  cases hcondition : permission.condition with
  | none =>
    rw [hcondition] at h
    cases h
    exact Predicate.ignores_always hidden
  | some c =>
    rw [hcondition] at h
    cases hcompile : c.compile vars (some entity) with
    | error error =>
      simp only [hcompile] at h
      cases h
    | ok p =>
      simp only [hcompile] at h
      cases h
      exact c.ignores_compile (hleaves c hcondition) hid hcompile

end

/-! ## Records that are alike -/

/-- Records that differ at most in the values of the given data fields. -/
inductive Record.AlikeBut (hidden : String → Prop) (r : Record) : Record → Prop
  | mk (data : Dict String Value) (h : ∀ key, ¬ hidden key → r.data.get? key = data.get? key) :
      AlikeBut hidden r { r with data }

/-- Stores that hold the same records but for the values of fields that are hidden in their entity. -/
def Store.AlikeBut (hidden : String → String → Prop) (store store' : Store) : Prop :=
  ∀ id, Option.Rel (fun r r' => r.AlikeBut (hidden r.entity) r') (store.find? id) (store'.find? id)

namespace Record.AlikeBut

variable {hidden : String → Prop} {r r' a a' b b' : Record}

theorem field_eq (h : r.AlikeBut hidden r') {name : String} (hname : ¬ hidden name) :
    r.field name = r'.field name := by
  cases h with
  | mk data h =>
    unfold Record.field
    split <;> first | rfl | exact h name hname

theorem meets_eq (h : r.AlikeBut hidden r') {p : Predicate} (hp : p.Ignores hidden) :
    r.meets p = r'.meets p :=
  hp r.field r'.field fun _ hname => h.field_eq hname

/-- **Records that are alike take the same place in an order that does not speak of hidden fields.** -/
theorem compareBy_eq (ha : a.AlikeBut hidden a') (hb : b.AlikeBut hidden b') {sort : List SortSpec}
    (hsort : ∀ spec ∈ sort, ¬ hidden spec.field) : a.compareBy b sort = a'.compareBy b' sort := by
  induction sort with
  | nil =>
    cases ha
    cases hb
    rfl
  | cons spec rest ih =>
    obtain ⟨hspec, hrest⟩ := List.forall_mem_cons.1 hsort
    rw [compareBy, compareBy, ih hrest]
    unfold compareField
    rw [ha.field_eq hspec, hb.field_eq hspec]

end Record.AlikeBut

/-! ## Lists that are alike, record for record -/

section

variable {hidden : String → Prop} {records others : List Record}

theorem sorted_alike (h : List.Forall₂ (Record.AlikeBut hidden) records others)
    {sort : List SortSpec} (hsort : ∀ spec ∈ sort, ¬ hidden spec.field) :
    List.Forall₂ (Record.AlikeBut hidden) (sorted sort records) (sorted sort others) := by
  -- Both lists are sorted as one list of pairs would be, of which each record is one half.
  obtain ⟨hlength, hpairs⟩ := List.forall₂_iff_zip.1 h
  have hfirsts := List.map_mergeSort (f := Prod.fst) (l := records.zip others)
    (r := fun x y => (x.1.compareBy y.1 sort).isLE) (s := fun a b => (a.compareBy b sort).isLE)
    fun _ _ _ _ => rfl
  have hseconds := List.map_mergeSort (f := Prod.snd) (l := records.zip others)
    (r := fun x y => (x.1.compareBy y.1 sort).isLE) (s := fun a b => (a.compareBy b sort).isLE)
    fun x hx y hy => by rw [(hpairs hx).compareBy_eq (hpairs hy) hsort]
  rw [List.map_fst_zip (Nat.le_of_eq hlength)] at hfirsts
  rw [List.map_snd_zip (Nat.le_of_eq hlength.symm)] at hseconds
  unfold sorted
  rw [← hfirsts, ← hseconds, List.forall₂_map_left_iff, List.forall₂_map_right_iff]
  exact List.forall₂_same.2 fun x hx => hpairs ((List.mergeSort_perm ..).mem_iff.1 hx)

theorem page_alike {query : ListQuery} (h : List.Forall₂ (Record.AlikeBut hidden) records others)
    (hsort : ∀ spec ∈ query.sort, ¬ hidden spec.field) :
    List.Forall₂ (Record.AlikeBut hidden) (query.page records) (query.page others) :=
  List.forall₂_take _ (List.forall₂_drop _ (sorted_alike h hsort))

end

section

variable {hidden : String → String → Prop} {entity : Entity} {p : Predicate}

theorem Record.AlikeBut.concerns_eq {r r' : Record} (h : r.AlikeBut (hidden r.entity) r')
    (hp : p.Ignores (hidden entity.name)) :
    Store.concerns entity p r = Store.concerns entity p r' := by
  have hentity : r'.entity = r.entity := by
    cases h
    rfl
  unfold Store.concerns
  rw [hentity]
  by_cases hown : r.entity = entity.name
  · rw [hown] at h
    rw [h.meets_eq hp]
  · rw [beq_eq_false_iff_ne.2 hown, Bool.false_and, Bool.false_and]

/-- What an operation on an entity is on is alike where the stores walk through records that are. -/
theorem filter_concerns_alike {walk walk' : List Record}
    (h : List.Forall₂ (fun r r' : Record => r.AlikeBut (hidden r.entity) r') walk walk')
    (hp : p.Ignores (hidden entity.name)) :
    List.Forall₂ (Record.AlikeBut (hidden entity.name)) (walk.filter (Store.concerns entity p))
      (walk'.filter (Store.concerns entity p)) := by
  induction h with
  | nil => exact .nil
  | @cons r r' walk walk' hr _ ih =>
    rw [List.filter_cons, List.filter_cons, ← hr.concerns_eq hp]
    split
    · rename_i hconcerns
      have hentity := (Store.concerns_iff.1 hconcerns).1
      rw [hentity] at hr
      exact .cons hr ih
    · exact ih

end

/-! ## What is listed from stores that are alike -/

theorem Store.Keyed.ids_values {store : Store} (hkeyed : store.Keyed) :
    store.records.values.map (·.id) = store.records.keys := by
  unfold Dict.values Dict.keys
  rw [List.map_map]
  exact List.map_congr_left fun entry hentry =>
    hkeyed entry.1 entry.2 (Dict.mem_entries.1 hentry)

namespace Store.AlikeBut

variable {hidden : String → String → Prop} {store store' : Store}

theorem keyed (h : store.AlikeBut hidden store') (hkeyed : store.Keyed) : store'.Keyed := by
  intro id r' hr'
  have hid := h id
  rw [hr'] at hid
  cases hr : store.find? id with
  | none =>
    rw [hr] at hid
    cases hid
  | some r =>
    rw [hr] at hid
    cases hid with
    | some halike =>
      cases halike
      exact hkeyed id r hr

theorem of_id_eq (h : store.AlikeBut hidden store') (hkeyed : store.Keyed) {r r' : Record}
    (hr : r ∈ store.records.values) (hr' : r' ∈ store'.records.values) (hid : r.id = r'.id) :
    r.AlikeBut (hidden r.entity) r' := by
  obtain ⟨id, hr⟩ := Store.mem_values.1 hr
  obtain ⟨id', hr'⟩ := Store.mem_values.1 hr'
  obtain rfl : id = id' := by rw [← hkeyed id r hr, ← h.keyed hkeyed id' r' hr', hid]
  have hsame := h id
  rw [hr, hr'] at hsame
  cases hsame
  assumption

/-- Two walks by the same identifiers pass records that are alike. -/
theorem of_ids_eq (h : store.AlikeBut hidden store') (hkeyed : store.Keyed)
    {walk walk' : List Record} (hwalk : ∀ r ∈ walk, r ∈ store.records.values)
    (hwalk' : ∀ r ∈ walk', r ∈ store'.records.values)
    (hids : walk.map (·.id) = walk'.map (·.id)) :
    List.Forall₂ (fun r r' : Record => r.AlikeBut (hidden r.entity) r') walk walk' := by
  induction walk generalizing walk' with
  | nil =>
    cases walk' with
    | nil => exact .nil
    | cons r' walk' => cases hids
  | cons r walk ih =>
    cases walk' with
    | nil => cases hids
    | cons r' walk' =>
      obtain ⟨hid, hids⟩ := List.cons.inj hids
      obtain ⟨hr, hwalk⟩ := List.forall_mem_cons.1 hwalk
      obtain ⟨hr', hwalk'⟩ := List.forall_mem_cons.1 hwalk'
      exact .cons (h.of_id_eq hkeyed hr hr' hid) (ih hwalk hwalk' hids)

theorem values (h : store.AlikeBut hidden store') (hkeyed : store.Keyed) :
    List.Forall₂ (fun r r' : Record => r.AlikeBut (hidden r.entity) r') store.records.values
      store'.records.values := by
  refine h.of_ids_eq hkeyed (fun _ hr => hr) (fun _ hr => hr) ?_
  rw [hkeyed.ids_values, (h.keyed hkeyed).ids_values]
  refine Dict.keys_eq fun id => ?_
  have hid : Option.Rel _ (store.records.get? id) (store'.records.get? id) := h id
  generalize store.records.get? id = found at hid
  generalize store'.records.get? id = found' at hid
  cases hid <;> rfl

end Store.AlikeBut

/-- Surroundings in which two stores are listed in the same order: they walk through the same
identifiers one after the other, or what the stores hold is typed, so that the order in which they
walk does not matter. -/
def Store.ListedAlike (schema : Schema) (e : Surroundings) (store : Store) (e' : Surroundings)
    (store' : Store) : Prop :=
  (e.order store.records.values).map (·.id) = (e'.order store'.records.values).map (·.id) ∨
    (store.Typed schema ∧ store'.Typed schema)

section

variable {s : Service} {hidden : String → String → Prop} {e e' : Surroundings} {store store' : Store}
  {name : String} {entity : Entity}

/-- **A query that ignores hidden fields lists records that are alike.** -/
theorem pages_alike (hs : s.schema.Registered) (hstores : store.AlikeBut hidden store')
    (hkeyed : store.Keyed) (hlisted : Store.ListedAlike s.schema e store e' store')
    (hfind : s.schema.find name = .ok entity) {query : ListQuery}
    (hquery : query.predicate.Ignores (hidden entity.name))
    (hsort : ∀ spec ∈ query.sort, ¬ hidden entity.name spec.field) :
    List.Forall₂ (Record.AlikeBut (hidden entity.name))
      (query.page
        ((e.order store.records.values).filter (Store.concerns entity query.predicate)))
      (query.page
        ((e'.order store'.records.values).filter (Store.concerns entity query.predicate))) := by
  rcases hlisted with hids | ⟨htyped, htyped'⟩
  · have hwalk := hstores.of_ids_eq hkeyed (fun r hr => (e.order_perm _).mem_iff.1 hr)
      (fun r hr => (e'.order_perm _).mem_iff.1 hr) hids
    exact page_alike (filter_concerns_alike hwalk hquery) hsort
  · rw [Service.page_eq_of_typed hs htyped hfind, Service.page_eq_of_typed hs htyped' hfind]
    exact page_alike (filter_concerns_alike (hstores.values hkeyed) hquery) hsort

theorem matching_length_eq (hstores : store.AlikeBut hidden store') (hkeyed : store.Keyed)
    {p : Predicate} (hp : p.Ignores (hidden entity.name)) :
    (store.matching entity p).length = (store'.matching entity p).length :=
  (filter_concerns_alike (hstores.values hkeyed) hp).length_eq

end

end Dossier
