import Dossier.Proofs.Order

/-!
# When a sort order is an order

Records may hold values of any kind under a field. Comparing them is antisymmetric whatever they hold:
the other way round the result is turned round, and only records of one identifier compare as equal
(`Record.compareBy_swap`, `Record.id_eq_of_compareBy`).

**Kinds.** It is transitive as long as the values under each field that is sorted by are ranked as one kind
(`OfOneKind`): texts and references, numbers with the infinities, truth values, dates, amounts, or values
that do not compare with anything. Then sorting gives one list, in whatever order the records come
(`listing_ordered`).

**Mixed kinds** break it. Values of two kinds count as equal, so that a number stands beside any text, and
identifiers decide between them while the texts have an order of their own. Numbers and amounts do compare,
but several numbers are closest to one amount, and all of them equal it (`mixed_kinds_cycle`).
-/

namespace Dossier

open Std

/-! ## The other way round -/

theorem Double.cmp_swap (a b : Double) : b.cmp a = (a.cmp b).swap := OrientedOrd.eq_swap

theorem Decimal.cmp_swap (a b : Decimal) : b.cmp a = (a.cmp b).swap := OrientedOrd.eq_swap

theorem Instant.cmp_swap (a b : Instant) : b.cmp a = (a.cmp b).swap := OrientedCmp.eq_swap

theorem Binary64.cmp?_swap (a b : Binary64) : b.cmp? a = (a.cmp? b).map Ordering.swap := by
  cases a with
  | nan => cases b <;> rfl
  | infinite neg => cases neg <;> cases b with
    | infinite neg => cases neg <;> rfl
    | finite | nan => rfl
  | finite a =>
    cases b with
    | nan => rfl
    | infinite neg => cases neg <;> rfl
    | finite b => exact congrArg some (a.cmp_swap b)

namespace Value

/-- **Comparing two values the other way round turns the result round**, if there is one. -/
theorem compare?_swap (x y : Value) : y.compare? x = (x.compare? y).map Ordering.swap := by
  cases x with
  | null | list | json => cases y <;> rfl
  | text s | ref s =>
    cases y with
    | text t | ref t => exact congrArg some (OrientedOrd.eq_swap (a := t) (b := s))
    | null | number | bool | date | currency | list | json => rfl
  | number a =>
    cases y with
    | number b => exact a.cmp?_swap b
    | currency b =>
      show a.toDecimal?.map (fun a => b.cmp a) = (a.toDecimal?.map fun a => a.cmp b).map Ordering.swap
      cases a.toDecimal? with
      | none => rfl
      | some a => exact congrArg some (a.cmp_swap b)
    | null | text | bool | date | list | ref | json => rfl
  | bool a =>
    cases y with
    | bool b => exact congrArg some (OrientedOrd.eq_swap (a := b.toNat) (b := a.toNat))
    | null | text | number | date | currency | list | ref | json => rfl
  | date a =>
    cases y with
    | date b => exact congrArg some (a.cmp_swap b)
    | null | text | number | bool | currency | list | ref | json => rfl
  | currency a =>
    cases y with
    | currency b => exact congrArg some (a.cmp_swap b)
    | number b =>
      show b.toDecimal?.map (fun b => b.cmp a) = (b.toDecimal?.map fun b => a.cmp b).map Ordering.swap
      cases b.toDecimal? with
      | none => rfl
      | some b => exact congrArg some (a.cmp_swap b)
    | null | text | bool | date | list | ref | json => rfl

/-! ## Values ranked as one kind -/

/-- Whether a value is ranked among those of a kind: the infinities are ranked among the numbers, null and
what is no number among the values that do not compare. -/
def RanksAs (v : Value) (sort : ValueSort) : Prop :=
  v.Is sort ∨
    match sort with
    | .number => ∃ neg, v = .number (.infinite neg)
    | .uncompared => v = .null ∨ v = .number .nan
    | _ => False

def side : Value → Int
  | .number (.infinite neg) => if neg then -1 else 1
  | _ => 0

/-- The order of the values ranked as a kind, extended to all values. -/
def rankCmp (sort : ValueSort) : Value → Value → Ordering :=
  compareLex (compareOn side) (cmpOf sort)

instance (sort : ValueSort) : TransCmp (rankCmp sort) :=
  inferInstanceAs (TransCmp (compareLex (compareOn side) (cmpOf sort)))

theorem side_of_is {v : Value} {sort : ValueSort} (h : v.Is sort) : v.side = 0 := by
  cases sort with
  | text => obtain ⟨s, rfl | rfl⟩ := h <;> rfl
  | number | bool | date | currency =>
    obtain ⟨a, rfl⟩ := h
    rfl
  | uncompared => obtain ⟨a, rfl⟩ | ⟨a, rfl⟩ := h <;> rfl

/-- Values that are not at an end of the numbers are in the order of their kind. -/
theorem rankCmp_of_is {sort : ValueSort} {x y : Value} (hx : x.Is sort) (hy : y.Is sort) :
    rankCmp sort x y = cmpOf sort x y := by
  show (compare x.side y.side).then (cmpOf sort x y) = cmpOf sort x y
  rw [side_of_is hx, side_of_is hy]
  rfl

/-- What does not compare is ranked equal. -/
theorem rankCmp_uncompared {x y : Value} (hx : x.RanksAs .uncompared) (hy : y.RanksAs .uncompared) :
    rankCmp .uncompared x y = .eq := by
  have hside {v : Value} (hv : v.RanksAs .uncompared) : v.side = 0 := by
    rcases hv with hv | rfl | rfl
    · exact side_of_is hv
    · rfl
    · rfl
  show (compare x.side y.side).then .eq = .eq
  rw [hside hx, hside hy]
  rfl

/-- **Values ranked as one kind are compared as in an order.** -/
theorem compare?_eq_rankCmp {sort : ValueSort} {x y : Value} (hx : x.RanksAs sort)
    (hy : y.RanksAs sort) : (x.compare? y).getD .eq = rankCmp sort x y := by
  rcases hx with hx | hx'
  · rcases hy with hy | hy'
    · rw [rankCmp_of_is hx hy]
      exact compare?_eq_cmpOf hx hy
    · cases sort with
      | number =>
        obtain ⟨d, rfl⟩ := hx
        obtain ⟨neg, rfl⟩ := hy'
        cases neg <;> rfl
      | uncompared =>
        rw [rankCmp_uncompared (.inl hx) (.inr hy')]
        obtain ⟨a, rfl⟩ | ⟨a, rfl⟩ := hx <;> obtain rfl | rfl := hy' <;> rfl
      | text | bool | date | currency => exact hy'.elim
  · cases sort with
    | number =>
      obtain ⟨neg, rfl⟩ := hx'
      rcases hy with ⟨d, rfl⟩ | ⟨neg', rfl⟩
      · cases neg <;> rfl
      · cases neg <;> cases neg' <;> rfl
    | uncompared =>
      rw [rankCmp_uncompared (.inr hx') hy]
      obtain rfl | rfl := hx' <;> obtain (⟨a, rfl⟩ | ⟨a, rfl⟩) | rfl | rfl := hy <;> rfl
    | text | bool | date | currency => exact hx'.elim

end Value

/-! ## Records -/

namespace Record

theorem compareField_swap (name : String) (a b : Record) :
    compareField name b a = (compareField name a b).swap := by
  rw [compareField_eq, compareField_eq]
  cases a.field name with
  | none => cases b.field name <;> rfl
  | some x =>
    cases b.field name with
    | none => rfl
    | some y =>
      show (y.compare? x).getD .eq = ((x.compare? y).getD .eq).swap
      rw [x.compare?_swap y]
      cases x.compare? y <;> rfl

/-- **Comparing two records the other way round turns the result round**, whatever they hold. -/
theorem compareBy_swap (a b : Record) (sort : List SortSpec) :
    b.compareBy a sort = (a.compareBy b sort).swap := by
  induction sort with
  | nil => exact OrientedOrd.eq_swap
  | cons spec rest ih =>
    rw [compareBy, compareBy, compareField_swap, ih, Ordering.swap_then]
    cases spec.direction <;> rfl

end Record

/-- Records whose values under a field are ranked as one kind. -/
def OfOneKind (records : List Record) (name : String) : Prop :=
  ∃ sort : ValueSort, ∀ r ∈ records, ∀ v, r.field name = some v → v.RanksAs sort

/-- Among records of one kind under each of its fields a sort order is an order. -/
theorem orderedOn_of_kinds {records : List Record} {sort : List SortSpec}
    (h : ∀ spec ∈ sort, OfOneKind records spec.field) :
    OrderedOn (· ∈ records) fun a b => a.compareBy b sort := by
  refine Record.orderedOn_compareBy fun spec hspec => ?_
  obtain ⟨kind, hkind⟩ := h spec hspec
  refine Record.orderedOn_compareField (Value.rankCmp kind) ?_
  intro a b ha hb x y hx hy
  exact Value.compare?_eq_rankCmp (hkind a ha x hx) (hkind b hb y hy)

/-- **Listing has an order among records of one kind under each field that is sorted by.** Comparing is
antisymmetric for any two records, and tells any two of different identifiers apart. Among these records it
is transitive, so sorting them gives a strictly ascending list, and a page of a store that holds them does
not hang on the order in which the store walks them. -/
theorem listing_ordered {records : List Record} {sort : List SortSpec}
    (hids : (records.map (·.id)).Nodup) (hkinds : ∀ spec ∈ sort, OfOneKind records spec.field) :
    (∀ a b : Record, b.compareBy a sort = (a.compareBy b sort).swap ∧
      (a.id ≠ b.id → a.compareBy b sort ≠ .eq)) ∧
    (∀ a ∈ records, ∀ b ∈ records, ∀ c ∈ records, (a.compareBy b sort).isLE = true →
      (b.compareBy c sort).isLE = true → (a.compareBy c sort).isLE = true) ∧
    ((sorted sort records).Pairwise fun a b => a.compareBy b sort = .lt) ∧
    ∀ (store : Store) (entity : Entity) (q : ListQuery), q.sort = sort →
      (store.matching entity q.predicate).Perm records →
      ∀ walk : List Record, walk.Perm records → q.page walk = store.list entity q := by
  have horder := orderedOn_of_kinds hkinds
  have hall : ∀ r ∈ records, r ∈ records := fun _ hr => hr
  refine ⟨?_, ?_, horder.pairwise_sorted hall hids, ?_⟩
  · intro a b
    exact ⟨a.compareBy_swap b sort, fun hne hequal => hne (Record.id_eq_of_compareBy hequal)⟩
  · obtain ⟨cmp, htrans, (hcmp : ∀ a b, a ∈ records → b ∈ records → a.compareBy b sort = cmp a b)⟩ :=
      horder
    intro a ha b hb c hc hab hbc
    rw [hcmp a b ha hb] at hab
    rw [hcmp b c hb hc] at hbc
    rw [hcmp a c ha hc]
    exact htrans.isLE_trans hab hbc
  · rintro store entity q rfl hmatching walk hwalk
    have hsame : sorted q.sort walk = sorted q.sort (store.matching entity q.predicate) :=
      (horder.sorted_eq_of_perm hall hids hwalk).trans
        (horder.sorted_eq_of_perm hall hids hmatching).symm
    show ((sorted q.sort walk).drop q.offset).take q.limit =
      ((sorted q.sort (store.matching entity q.predicate)).drop q.offset).take q.limit
    rw [hsame]

/-! ## Prices of one kind and of several -/

namespace Offers

def offer (n : Nat) (hn : n < 10) (price : Value) : Record :=
  .create ⟨n, Nat.lt_trans hn (by decide)⟩ "t1" "offer" ⟨"u1", .epoch⟩
    ((∅ : Dict String Value).insert "price" price)

theorem field_price (n : Nat) (hn : n < 10) (price : Value) :
    (offer n hn price).field "price" = some price := rfl

def byPrice : List SortSpec := [⟨"price", .asc⟩]

/-- One tenth, as far as a double can hold it. -/
def tenth : Double := ⟨false, 0x1999999999999a, 1018, by decide, by decide, .inr (by decide)⟩

/-- The next double above it. -/
def aboveTenth : Double := ⟨false, 0x1999999999999b, 1018, by decide, by decide, .inr (by decide)⟩

def numbered : List Record :=
  [offer 1 (by decide) (.number (.infinite false)), offer 2 (by decide) (.number (.finite aboveTenth)),
    offer 3 (by decide) (.number (.finite tenth))]

/-- Numbers are of one kind, so offers are listed by them, the one beyond all bounds last. -/
theorem numbered_in_order : (numbered.map (·.id)).Nodup ∧
    (∀ spec ∈ byPrice, OfOneKind numbered spec.field) ∧
    ((sorted byPrice numbered).Pairwise fun a b => a.compareBy b byPrice = .lt) := by
  have hids : (numbered.map (·.id)).Nodup := by decide
  have hkinds : ∀ spec ∈ byPrice, OfOneKind numbered spec.field := by
    intro spec hspec
    obtain rfl := List.mem_singleton.1 hspec
    refine ⟨.number, ?_⟩
    intro r hr v hv
    simp only [numbered, List.mem_cons, List.not_mem_nil, or_false] at hr
    rcases hr with rfl | rfl | rfl <;> rw [field_price] at hv <;> cases hv
    · exact .inr ⟨false, rfl⟩
    · exact .inl ⟨aboveTenth, rfl⟩
    · exact .inl ⟨tenth, rfl⟩
  exact ⟨hids, hkinds, (listing_ordered hids hkinds).2.2.1⟩

/-- Three different records of which each comes before the next, and the last before the first. -/
def Cycle (sort : List SortSpec) (a b c : Record) : Prop :=
  [a.id, b.id, c.id].Nodup ∧ a.compareBy b sort = .lt ∧ b.compareBy c sort = .lt ∧ c.compareBy a sort = .lt

/-- **Mixed kinds are in no order**: a number between two texts, and an amount between two numbers that are
both closest to it. -/
theorem mixed_kinds_cycle :
    Cycle byPrice (offer 1 (by decide) (.text "b")) (offer 2 (by decide) (.number (.finite tenth)))
      (offer 3 (by decide) (.text "a")) ∧
    Cycle byPrice (offer 1 (by decide) (.number (.finite aboveTenth)))
      (offer 2 (by decide) (.currency ⟨1, 1, by decide, by decide⟩))
      (offer 3 (by decide) (.number (.finite tenth))) := by
  refine ⟨⟨?_, ?_, ?_, ?_⟩, ⟨?_, ?_, ?_, ?_⟩⟩ <;> decide +kernel

end Offers

end Dossier
