import Dossier.Proofs.TypedStore
import Dossier.Store.Listing

/-!
# The order of typed records

Values of different kinds do not compare, so the comparison of values is no order: where it says
nothing it counts as equal, and equality of this sort does not pass on. On the records of one
entity it is an order nevertheless. All values of one field are of one kind there
(`Record.exists_field_is`), and within each kind the comparison is total and transitive
(`Value.compare?_eq_cmpOf`).

**Sort orders.** A sort order compares by one field after the other, each in its direction, with
missing values last, and by identifier at the end; so records compare as equal only if they are the
same one. It is an order among records if comparing by each of its fields is one
(`Record.orderedOn_compareBy`), which it is on the records of an entity (`Record.exists_total`).

**Sorted lists.** Hence a sorted list of such records does not hang on the order in which the store
yields them (`OrderedOn.sorted_eq_of_perm`, `sorted_eq_of_perm`).
-/

namespace Dossier

open Std

/-! ## Orders of parts -/

instance : TransCmp Instant.cmp :=
  inferInstanceAs (TransCmp (compareLex
    (compareLex
      (compareLex
        (compareLex
          (compareOn fun t : Instant => t.date.year)
          (compareOn fun t : Instant => t.date.month))
        (compareOn fun t : Instant => t.date.day))
      (compareOn fun t : Instant => t.second))
    (compareOn fun t : Instant => t.nano)))

theorem compare_mul_pos (x y : Int) {c : Int} (hc : 0 < c) :
    compare (x * c) (y * c) = compare x y := by
  have hself (z : Int) : compare z z = .eq := ReflCmp.compare_self
  rcases Int.lt_trichotomy x y with h | h | h
  · rw [compare_eq_lt.2 h, compare_eq_lt.2 (Int.mul_lt_mul_of_pos_right h hc)]
  · rw [h, hself, hself]
  · rw [compare_eq_gt.2 h, compare_eq_gt.2 (Int.mul_lt_mul_of_pos_right h hc)]

theorem tenPow_pos (n : Nat) : (0 : Int) < (Nat.pow 10 n : Nat) :=
  Int.natCast_pos.2 (Nat.pow_pos (by decide))

theorem tenPow_mul (m n : Nat) :
    (Nat.pow 10 m : Nat) * ((Nat.pow 10 n : Nat) : Int) = (Nat.pow 10 (m + n) : Nat) := by
  rw [← Int.natCast_mul]
  exact congrArg _ (Nat.pow_add 10 m n).symm

/-- An amount in units of the smallest scale, so that amounts of different scales compare. -/
def Decimal.units (d : Decimal) : Int := d.coeff * Nat.pow 10 (28 - d.scale)

theorem Decimal.cmp_eq (a b : Decimal) : a.cmp b = compare a.units b.units := by
  have ha := a.scale_le
  have hb := b.scale_le
  -- Both sides are brought to the scale that the other one would have with 28 digits more.
  have hleft : a.coeff * Nat.pow 10 b.scale * Nat.pow 10 28 =
      a.units * Nat.pow 10 (a.scale + b.scale) := by
    have h : 28 - a.scale + (a.scale + b.scale) = b.scale + 28 := by omega
    rw [units, Int.mul_assoc, Int.mul_assoc, tenPow_mul, tenPow_mul, h]
  have hright : b.coeff * Nat.pow 10 a.scale * Nat.pow 10 28 =
      b.units * Nat.pow 10 (a.scale + b.scale) := by
    have h : 28 - b.scale + (a.scale + b.scale) = a.scale + 28 := by omega
    rw [units, Int.mul_assoc, Int.mul_assoc, tenPow_mul, tenPow_mul, h]
  rw [cmp, ← compare_mul_pos _ _ (tenPow_pos 28), hleft, hright, compare_mul_pos _ _ (tenPow_pos _)]

/-- An order on what may be missing, with everything missing at the end. -/
def missingLast {α : Type} (cmp : α → α → Ordering) : Option α → Option α → Ordering
  | some a, some b => cmp a b
  | some _, none => .lt
  | none, some _ => .gt
  | none, none => .eq

instance {α : Type} {cmp : α → α → Ordering} [h : TransCmp cmp] : TransCmp (missingLast cmp) where
  eq_swap {a b} := by
    cases a with
    | none => cases b <;> rfl
    | some a =>
      cases b with
      | none => rfl
      | some b => exact h.toOrientedCmp.eq_swap
  isLE_trans {a b c} hab hbc := by
    cases a with
    | none =>
      cases b with
      | none => exact hbc
      | some b => cases hab
    | some a =>
      cases c with
      | none => rfl
      | some c =>
        cases b with
        | none => cases hbc
        | some b => exact h.isLE_trans hab hbc

/-- A comparison that is an order among some of the things it compares. -/
def OrderedOn {α : Type} (P : α → Prop) (cmp : α → α → Ordering) : Prop :=
  ∃ order : α → α → Ordering, TransCmp order ∧ ∀ a b, P a → P b → cmp a b = order a b

theorem transCmp_on {α β : Type} {cmp : β → β → Ordering} [h : TransCmp cmp] (f : α → β) :
    TransCmp fun a b => cmp (f a) (f b) where
  eq_swap := h.toOrientedCmp.eq_swap
  isLE_trans := h.isLE_trans

theorem transCmp_orient {α : Type} (direction : SortDirection) (cmp : α → α → Ordering)
    [TransCmp cmp] :
    TransCmp fun a b => direction.orient (cmp a b) := by
  cases direction with
  | asc => exact inferInstanceAs (TransCmp cmp)
  | desc =>
    have h : (fun a b => SortDirection.desc.orient (cmp a b)) = fun a b => cmp b a := by
      funext a b
      exact OrientedCmp.eq_swap.symm
    rw [h]
    exact inferInstanceAs (TransCmp fun a b => cmp b a)

/-! ## Values of one kind -/

/-- The kinds of values that compare among themselves; lists and documents do not compare at all. -/
inductive ValueSort where
  | text
  | number
  | bool
  | date
  | currency
  | uncompared

namespace Value

/-- Whether a value is of a kind. Numbers are finite. -/
def Is (v : Value) : ValueSort → Prop
  | .text => ∃ s, v = .text s ∨ v = .ref s
  | .number => ∃ d, v = .number (.finite d)
  | .bool => ∃ b, v = .bool b
  | .date => ∃ t, v = .date t
  | .currency => ∃ d, v = .currency d
  | .uncompared => (∃ items, v = .list items) ∨ ∃ document, v = .json document

/-- The amount that a value stands for; values of no amount stand for zero. -/
def amount : Value → Int
  | .number (.finite d) => d.signedUnits
  | .bool b => b.toNat
  | .currency d => d.units
  | _ => 0

def time : Value → Instant
  | .date t => t
  | _ => .epoch

/-- The comparison of the values of a kind, extended to all values. -/
def cmpOf : ValueSort → Value → Value → Ordering
  | .text => compareOn fun v => v.text?.getD ""
  | .number | .bool | .currency => compareOn amount
  | .date => fun x y => x.time.cmp y.time
  | .uncompared => compareOn fun _ => 0

instance (sort : ValueSort) : TransCmp (cmpOf sort) := by
  cases sort with
  | text => exact inferInstanceAs (TransCmp (compareOn fun v : Value => v.text?.getD ""))
  | number | bool | currency => exact inferInstanceAs (TransCmp (compareOn amount))
  | date =>
    show TransCmp fun x y => (time x).cmp (time y)
    exact transCmp_on time
  | uncompared => exact inferInstanceAs (TransCmp (compareOn fun _ : Value => 0))

/-- **Within each kind, the comparison of values is an order.** -/
theorem compare?_eq_cmpOf {sort : ValueSort} {x y : Value} (hx : x.Is sort) (hy : y.Is sort) :
    (x.compare? y).getD .eq = cmpOf sort x y := by
  cases sort with
  | text =>
    obtain ⟨s, rfl | rfl⟩ := hx <;> obtain ⟨t, rfl | rfl⟩ := hy <;> rfl
  | number =>
    obtain ⟨a, rfl⟩ := hx
    obtain ⟨b, rfl⟩ := hy
    rfl
  | bool =>
    obtain ⟨a, rfl⟩ := hx
    obtain ⟨b, rfl⟩ := hy
    cases a <;> cases b <;> rfl
  | date =>
    obtain ⟨a, rfl⟩ := hx
    obtain ⟨b, rfl⟩ := hy
    rfl
  | currency =>
    obtain ⟨a, rfl⟩ := hx
    obtain ⟨b, rfl⟩ := hy
    exact Decimal.cmp_eq a b
  | uncompared =>
    obtain ⟨a, rfl⟩ | ⟨a, rfl⟩ := hx <;> obtain ⟨b, rfl⟩ | ⟨b, rfl⟩ := hy <;> rfl

end Value

/-! ## Records of one entity -/

def FieldKind.sort : FieldKind → ValueSort
  | .text | .textarea | .email | .url | .phone | .select | .lookup | .file | .image => .text
  | .number => .number
  | .boolean => .bool
  | .date => .date
  | .currency => .currency
  | .multiselect | .other => .uncompared

theorem Field.Holds.is {f : Field} {v : Value} (h : f.Holds v) : v.Is f.kind.sort := by
  unfold Field.Holds at h
  cases hkind : f.kind <;> rw [hkind] at h
  case text | textarea =>
    obtain ⟨s, rfl⟩ := h
    exact ⟨s, Or.inl rfl⟩
  case number | boolean | date | currency => exact h
  case email | url | phone | select =>
    obtain ⟨s, rfl, -⟩ := h
    exact ⟨s, Or.inl rfl⟩
  case multiselect =>
    obtain ⟨ss, rfl, -⟩ := h
    exact Or.inl ⟨_, rfl⟩
  case lookup =>
    obtain ⟨id, rfl⟩ := h
    exact ⟨_, Or.inr rfl⟩
  case file | image =>
    obtain ⟨s, rfl, -⟩ := h
    exact ⟨s, Or.inr rfl⟩
  case other =>
    obtain ⟨document, rfl, -⟩ := h
    exact Or.inr ⟨document, rfl⟩

namespace Record

/-- **On the records of an entity, all values of a field are of one kind.** System fields have the
same kind on all records; other fields are declared or have no value. -/
theorem exists_field_is (e : Entity) (he : e.Sound) (name : String) :
    ∃ sort, ∀ r : Record, e.Fits r.data → ∀ v, r.field name = some v → v.Is sort := by
  unfold field
  split
  case h_1 | h_2 =>
    refine ⟨.text, ?_⟩
    rintro r - v hv
    cases hv
    exact ⟨_, Or.inr rfl⟩
  case h_3 | h_4 | h_7 | h_8 =>
    refine ⟨.text, ?_⟩
    rintro r - v hv
    cases hv
    exact ⟨_, Or.inl rfl⟩
  case h_5 | h_6 =>
    refine ⟨.date, ?_⟩
    rintro r - v hv
    cases hv
    exact ⟨_, rfl⟩
  case h_9 =>
    refine ⟨.bool, ?_⟩
    rintro r - v hv
    cases hv
    exact ⟨_, rfl⟩
  case h_10 =>
    refine ⟨.date, ?_⟩
    rintro r - v hv
    obtain ⟨t, -, rfl⟩ := Option.map_eq_some_iff.1 hv
    exact ⟨t, rfl⟩
  case h_11 | h_12 =>
    refine ⟨.text, ?_⟩
    rintro r - v hv
    obtain ⟨x, -, rfl⟩ := Option.map_eq_some_iff.1 hv
    exact ⟨_, Or.inl rfl⟩
  case h_13 =>
    cases hdeclared : e.find? name with
    | some f =>
      obtain ⟨hf, rfl⟩ := Entity.mem_of_find? hdeclared
      exact ⟨f.kind.sort, fun r hr v hv => (hr.holds f hf v hv).is⟩
    | none =>
      refine ⟨.text, fun r hr v hv => ?_⟩
      obtain ⟨f, hf, rfl⟩ := hr.declared _ v hv
      rw [he.find?_name hf] at hdeclared
      cases hdeclared

theorem compareField_eq (name : String) (a b : Record) : compareField name a b =
    missingLast (fun x y => (x.compare? y).getD .eq) (a.field name) (b.field name) := by
  unfold compareField
  cases a.field name <;> cases b.field name <;> rfl

theorem orderedOn_compareField {P : Record → Prop} {name : String} (order : Value → Value → Ordering)
    [TransCmp order] (h : ∀ a b : Record, P a → P b → ∀ x y, a.field name = some x →
      b.field name = some y → (x.compare? y).getD .eq = order x y) :
    OrderedOn P (compareField name) := by
  refine ⟨fun a b => missingLast order (a.field name) (b.field name),
    transCmp_on fun r : Record => r.field name, ?_⟩
  intro a b ha hb
  show compareField name a b = missingLast order (a.field name) (b.field name)
  rw [compareField_eq]
  cases hx : a.field name with
  | none => cases b.field name <;> rfl
  | some x =>
    cases hy : b.field name with
    | none => rfl
    | some y => exact h a b ha hb x y hx hy

/-- **A sort order is an order where comparing by each of its fields is one.** -/
theorem orderedOn_compareBy {P : Record → Prop} {sort : List SortSpec}
    (h : ∀ spec ∈ sort, OrderedOn P (compareField spec.field)) :
    OrderedOn P fun a b => a.compareBy b sort := by
  induction sort with
  | nil => exact ⟨compareOn fun r : Record => r.id, inferInstance, fun _ _ _ _ => rfl⟩
  | cons spec rest ih =>
    obtain ⟨first, hfirst, hfirst_eq⟩ := h spec (.head _)
    obtain ⟨later, hlater, (hlater_eq : ∀ a b : Record, P a → P b → a.compareBy b rest = later a b)⟩ :=
      ih fun spec hspec => h spec (.tail _ hspec)
    have horient := transCmp_orient spec.direction first
    refine ⟨compareLex (fun a b => spec.direction.orient (first a b)) later, inferInstance, ?_⟩
    intro a b ha hb
    show a.compareBy b (spec :: rest) = _
    rw [compareBy, hfirst_eq a b ha hb, hlater_eq a b ha hb]
    rfl

/-- **On the records of an entity, every sort order is an order.** -/
theorem exists_total (e : Entity) (he : e.Sound) (sort : List SortSpec) :
    OrderedOn (fun r : Record => e.Fits r.data) fun a b => a.compareBy b sort := by
  refine orderedOn_compareBy fun spec _ => ?_
  obtain ⟨kind, hkind⟩ := exists_field_is e he spec.field
  refine orderedOn_compareField (Value.cmpOf kind) ?_
  intro a b ha hb x y hx hy
  exact Value.compare?_eq_cmpOf (hkind a ha x hx) (hkind b hb y hy)

theorem id_eq_of_compareBy {a b : Record} {sort : List SortSpec} (h : a.compareBy b sort = .eq) :
    a.id = b.id := by
  induction sort with
  | nil => exact LawfulEqCmp.eq_of_compare h
  | cons spec rest ih => exact ih (Ordering.then_eq_eq.1 h).2

end Record

/-! ## Sorted lists -/

theorem sorted_perm (sort : List SortSpec) (records : List Record) :
    (sorted sort records).Perm records :=
  List.mergeSort_perm ..

variable {P : Record → Prop} {sort : List SortSpec} {records others : List Record}

namespace OrderedOn

/-- **Records among which a sort order is an order come out of sorting in strictly ascending order.** -/
theorem pairwise_sorted (h : OrderedOn P fun a b => a.compareBy b sort) (hall : ∀ r ∈ records, P r)
    (hids : (records.map (·.id)).Nodup) :
    (sorted sort records).Pairwise fun a b => a.compareBy b sort = .lt := by
  obtain ⟨cmp, htrans, (hcmp : ∀ a b, P a → P b → a.compareBy b sort = cmp a b)⟩ := h
  have hmem {r : Record} (hr : r ∈ sorted sort records) : P r :=
    hall r ((sorted_perm sort records).mem_iff.1 hr)
  -- Sorting by the order on all records gives the same list, since the two agree on these records.
  have hsame : sorted sort records = records.mergeSort fun a b => (cmp a b).isLE := by
    have h := List.map_mergeSort (f := id) (s := fun a b => (cmp a b).isLE) (l := records)
      (r := fun a b => (a.compareBy b sort).isLE) fun a ha b hb => by
        rw [hcmp a b (hall a ha) (hall b hb)]
        rfl
    rw [List.map_id, List.map_id] at h
    exact h
  have hle : (sorted sort records).Pairwise fun a b => (cmp a b).isLE := by
    have hle_trans (a b c : Record) :
        (cmp a b).isLE = true → (cmp b c).isLE = true → (cmp a c).isLE = true :=
      htrans.isLE_trans
    have hle_total (a b : Record) : ((cmp a b).isLE || (cmp b a).isLE) = true := by
      have hswap : cmp b a = (cmp a b).swap := OrientedCmp.eq_swap
      rw [hswap]
      cases cmp a b <;> rfl
    rw [hsame]
    exact List.pairwise_mergeSort hle_trans hle_total records
  have hne : (sorted sort records).Pairwise fun a b => a.id ≠ b.id := by
    have h : ((sorted sort records).map (·.id)).Nodup :=
      ((sorted_perm sort records).map _).nodup_iff.2 hids
    exact List.pairwise_map.1 h
  refine (hle.and hne).imp_of_mem fun {a b} ha hb hab => ?_
  rw [hcmp a b (hmem ha) (hmem hb)]
  cases hresult : cmp a b with
  | lt => rfl
  | eq =>
    have hequal := (hcmp a b (hmem ha) (hmem hb)).trans hresult
    exact absurd (Record.id_eq_of_compareBy hequal) hab.2
  | gt =>
    rw [hresult] at hab
    cases hab.1

/-- Such records have only one strictly ascending order. -/
theorem eq_of_pairwise_lt (h : OrderedOn P fun a b => a.compareBy b sort) (hall : ∀ r ∈ records, P r)
    (hperm : others.Perm records) (hothers : others.Pairwise fun a b => a.compareBy b sort = .lt)
    (hrecords : records.Pairwise fun a b => a.compareBy b sort = .lt) : others = records := by
  obtain ⟨cmp, htrans, (hcmp : ∀ a b, P a → P b → a.compareBy b sort = cmp a b)⟩ := h
  refine List.Perm.eq_of_pairwise ?_ hothers hrecords hperm
  intro a b ha hb hab hba
  have hfa := hall a (hperm.mem_iff.1 ha)
  have hfb := hall b hb
  rw [hcmp a b hfa hfb] at hab
  rw [hcmp b a hfb hfa, OrientedCmp.gt_of_lt hab] at hba
  cases hba

/-- **What sorting gives does not hang on the order that the records come in.** -/
theorem sorted_eq_of_perm (h : OrderedOn P fun a b => a.compareBy b sort) (hall : ∀ r ∈ records, P r)
    (hids : (records.map (·.id)).Nodup) (hperm : others.Perm records) :
    sorted sort others = sorted sort records := by
  have hall' : ∀ r ∈ others, P r := fun r hr => hall r (hperm.mem_iff.1 hr)
  have hids' : (others.map (·.id)).Nodup := (hperm.map _).nodup_iff.2 hids
  refine h.eq_of_pairwise_lt (fun r hr => hall r ((sorted_perm sort records).mem_iff.1 hr)) ?_
    (h.pairwise_sorted hall' hids') (h.pairwise_sorted hall hids)
  exact (sorted_perm sort others).trans (hperm.trans (sorted_perm sort records).symm)

end OrderedOn

variable {e : Entity}

/-- Records of an entity come out of sorting in strictly ascending order. -/
theorem pairwise_sorted (he : e.Sound) (hfits : ∀ r ∈ records, e.Fits r.data)
    (hids : (records.map (·.id)).Nodup) :
    (sorted sort records).Pairwise fun a b => a.compareBy b sort = .lt :=
  (Record.exists_total e he sort).pairwise_sorted hfits hids

/-- What sorting the records of an entity gives does not hang on the order that they come in. -/
theorem sorted_eq_of_perm (sort : List SortSpec) (he : e.Sound)
    (hfits : ∀ r ∈ records, e.Fits r.data)
    (hids : (records.map (·.id)).Nodup) (hperm : others.Perm records) :
    sorted sort others = sorted sort records :=
  (Record.exists_total e he sort).sorted_eq_of_perm hfits hids hperm

end Dossier
