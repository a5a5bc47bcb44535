import Dossier.Proofs.Bounds
import Dossier.Proofs.Membership
import Dossier.Proofs.Order

/-!
# Ranges

A range is to select what lies between its bounds, both included: what `gte` selects with the one and
`lte` with the other (`Filter.Inclusive`). These read their bounds as the field does. A range tries for two
dates and then for two numbers, whatever the field.

**Dates and numbers.** No text is both, so a range of dates or numbers has the bounds that the field reads
(`inclusive_date`, `inclusive_number`).

**Amounts.** A range of amounts has numbers for bounds, and what it compares with are the amounts closest to
these. It is the range that was asked for if rounding keeps both bounds (`Json.Kept`), and only then, as long
as these are in order: each bound lies in the range, and would be lost or joined by others.

Main result: `between_inclusive`.
-/

namespace Dossier

/-! ## Comparisons with bounds -/

namespace Decimal

theorem cmp_ne_lt_iff {a b : Decimal} : a.cmp b ≠ .lt ↔ b.units ≤ a.units := by
  rw [cmp_eq, ne_eq, Std.compare_eq_lt, Int.not_lt]

theorem cmp_ne_gt_iff {a b : Decimal} : a.cmp b ≠ .gt ↔ a.units ≤ b.units := by
  rw [cmp_eq, ne_eq, Std.compare_eq_gt, Int.not_lt]

theorem sameValue_iff {a b : Decimal} : a.sameValue b = true ↔ a.units = b.units := by
  rw [← cmp_beq_eq, beq_iff_eq, cmp_eq, Std.LawfulEqCmp.compare_eq_iff_eq]

variable {x y : Decimal} {low high : Option Decimal}

/-- What lies between two bounds, if there are any. -/
def Between (low high : Option Decimal) (d : Decimal) : Prop :=
  (∃ l, low = some l ∧ l.units ≤ d.units) ∧ ∃ h, high = some h ∧ d.units ≤ h.units

/-- **Bounds in order are those of their range only**, since each lies in it. -/
theorem between_iff_of_le (hle : x.units ≤ y.units) :
    (∀ d, Between low high d ↔ x.units ≤ d.units ∧ d.units ≤ y.units) ↔
      (∃ l, low = some l ∧ l.units = x.units) ∧ ∃ h, high = some h ∧ h.units = y.units := by
  constructor
  · intro hrange
    obtain ⟨⟨l, hlow, hlx⟩, -⟩ := (hrange x).2 ⟨Int.le_refl _, hle⟩
    obtain ⟨-, h, hhigh, hyh⟩ := (hrange y).2 ⟨hle, Int.le_refl _⟩
    have hlh : l.units ≤ h.units := Int.le_trans hlx (Int.le_trans hle hyh)
    have hxl := ((hrange l).1 ⟨⟨l, hlow, Int.le_refl _⟩, h, hhigh, hlh⟩).1
    have hhy := ((hrange h).1 ⟨⟨l, hlow, hlh⟩, h, hhigh, Int.le_refl _⟩).2
    exact ⟨⟨l, hlow, Int.le_antisymm hlx hxl⟩, h, hhigh, Int.le_antisymm hhy hyh⟩
  · rintro ⟨⟨l, rfl, hl⟩, h, rfl, hh⟩ d
    simp [Between, hl, hh]

/-- Bounds out of order are those of any other range of nothing. -/
theorem between_iff_of_lt (hlt : y.units < x.units) :
    (∀ d, Between low high d ↔ x.units ≤ d.units ∧ d.units ≤ y.units) ↔
      ¬∃ l h, low = some l ∧ high = some h ∧ l.units ≤ h.units := by
  constructor
  · rintro hrange ⟨l, h, hlow, hhigh, hlh⟩
    obtain ⟨hxl, hly⟩ := (hrange l).1 ⟨⟨l, hlow, Int.le_refl _⟩, h, hhigh, hlh⟩
    omega
  · intro hempty d
    refine iff_of_false ?_ (by omega)
    rintro ⟨⟨l, hlow, hld⟩, h, hhigh, hdh⟩
    exact hempty ⟨l, h, hlow, hhigh, Int.le_trans hld hdh⟩

end Decimal

theorem Json.kept_iff {raw : Json} {x : Decimal} (hx : raw.asAmount? = some x) :
    raw.Kept ↔ ∃ l, raw.asRounded? = some l ∧ l.units = x.units := by
  constructor
  · rintro ⟨exact, rounded, hexact, hrounded, hsame⟩
    cases hx.symm.trans hexact
    exact ⟨rounded, hrounded, Decimal.sameValue_iff.1 hsame⟩
  · rintro ⟨l, hl, hunits⟩
    exact ⟨x, l, hx, hl, Decimal.sameValue_iff.2 hunits⟩

namespace Value

/-- The amount that amounts are compared with for a value. -/
def asAmount? : Value → Option Decimal
  | .currency d => some d
  | .number n => n.toDecimal?
  | _ => none

theorem compare?_currency (d : Decimal) (v : Value) :
    (currency d).compare? v = v.asAmount?.map fun x => d.cmp x := by
  cases v <;> rfl

end Value

namespace Record

variable (r : Record) (name : String)

theorem meets_bound {relation : Relation} (hrelation : relation = .gte ∨ relation = .lte) (bound : Value) :
    r.meets (.compare name relation bound) =
      (((r.field name).bind fun v => v.compare? bound).map relation.admits).getD false := by
  rw [meets, Predicate.holds]
  rcases hrelation with rfl | rfl <;>
  · unfold Predicate.compareHolds
    cases (r.field name).bind fun v => v.compare? bound <;> rfl

/-- **Between two values is from the one to the other.** -/
theorem meets_between (low high : Value) : r.meets (.between name low high) =
    (r.meets (.compare name .gte low) && r.meets (.compare name .lte high)) := by
  rw [r.meets_bound name (.inl rfl), r.meets_bound name (.inr rfl), meets, Predicate.holds]
  cases r.field name <;> rfl

variable {r name} {d : Decimal}

theorem meets_gte_amount (h : r.field name = some (.currency d)) (bound : Value) :
    r.meets (.compare name .gte bound) = true ↔ ∃ x, bound.asAmount? = some x ∧ x.units ≤ d.units := by
  rw [r.meets_bound name (.inl rfl), h, Option.bind_some, Value.compare?_currency]
  cases bound.asAmount? with
  | none => simp
  | some x => simp [Relation.admits, Decimal.cmp_ne_lt_iff]

theorem meets_lte_amount (h : r.field name = some (.currency d)) (bound : Value) :
    r.meets (.compare name .lte bound) = true ↔ ∃ y, bound.asAmount? = some y ∧ d.units ≤ y.units := by
  rw [r.meets_bound name (.inr rfl), h, Option.bind_some, Value.compare?_currency]
  cases bound.asAmount? with
  | none => simp
  | some y => simp [Relation.admits, Decimal.cmp_ne_gt_iff]

theorem not_meets_bound (h : r.field name = none) {relation : Relation}
    (hrelation : relation = .gte ∨ relation = .lte) (bound : Value) :
    ¬r.meets (.compare name relation bound) = true := by
  rw [r.meets_bound name hrelation, h]
  nofun

end Record

namespace Field

variable {f : Field} {raw : Json} {v : Value}

theorem convertPresent_number (hkind : f.kind = .number) (h : f.convertPresent raw = .ok v) :
    ∃ d, raw.asNumber? = some d ∧ v = .number (.finite d) := by
  simp only [convertPresent, hkind] at h
  obtain ⟨d, hd, rfl⟩ := map_ok h
  exact ⟨d, expect_ok hd, rfl⟩

theorem convertPresent_date (hkind : f.kind = .date) (h : f.convertPresent raw = .ok v) :
    ∃ t, raw.asInstant? = some t ∧ v = .date t := by
  simp only [convertPresent, hkind] at h
  obtain ⟨t, ht, rfl⟩ := map_ok h
  exact ⟨t, expect_ok ht, rfl⟩

theorem convertPresent_currency (hkind : f.kind = .currency) (h : f.convertPresent raw = .ok v) :
    ∃ d, raw.asAmount? = some d ∧ v = .currency d := by
  simp only [convertPresent, hkind] at h
  obtain ⟨d, hd, rfl⟩ := map_ok h
  exact ⟨d, expect_ok hd, rfl⟩

theorem holds_currency_iff (hkind : f.kind = .currency) : f.Holds v ↔ ∃ d, v = .currency d := by
  rw [Holds, hkind]

end Field

def Record.ofAmount (name : String) (d : Decimal) : Record :=
  .create .nil "" "" ⟨"", .epoch⟩ ((∅ : Dict String Value).insert name (.currency d))

theorem Record.get?_ofAmount (name : String) (d : Decimal) :
    (ofAmount name d).data.get? name = some (.currency d) := by
  show ((∅ : Dict String Value).insert name (.currency d)).get? name = _
  rw [Dict.get?_insert, if_pos rfl]

/-! ## Filters for ranges -/

namespace Filter

variable {e : Entity} {f : Field} {a b : Json}

/-- A range selects what the filters for its bounds select together. -/
def Inclusive (e : Entity) (f : Field) (a b : Json) : Prop :=
  ∀ r : Record, f.HoldsAny (r.data.get? f.name) → (Selects e ⟨f.name, .between, .array [a, b]⟩ r ↔
    Selects e ⟨f.name, .gte, a⟩ r ∧ Selects e ⟨f.name, .lte, b⟩ r)

/-- Ranges with the bounds that the field reads select what they should. -/
theorem inclusive_of_same {v w : Value} (hlow : compile e ⟨f.name, .gte, a⟩ = .ok (.compare f.name .gte v))
    (hhigh : compile e ⟨f.name, .lte, b⟩ = .ok (.compare f.name .lte w))
    (hbetween : compile e ⟨f.name, .between, .array [a, b]⟩ = .ok (.between f.name v w)) :
    Inclusive e f a b := by
  intro r _
  rw [selects_iff hlow, selects_iff hhigh, selects_iff hbetween, r.meets_between, Bool.and_eq_true]

section Declared

variable (he : e.Sound) (hf : f ∈ e.fields)

include he hf

/-- A filter for a bound compares with what the field reads. -/
theorem exists_bound {operator : FilterOp} {relation : Relation}
    (hoperator : compileDeclared f operator a = (presentValue f a).map fun v => .compare f.name relation v)
    (h : Compiles e ⟨f.name, operator, a⟩) : ∃ v, f.convertPresent a = .ok v ∧
      compile e ⟨f.name, operator, a⟩ = .ok (.compare f.name relation v) := by
  have hcompile := (compile_declared he hf operator a).trans hoperator
  obtain ⟨v, hv⟩ := (compiles_iff hcompile).1 h
  refine ⟨v, (presentValue_ok hv).2, ?_⟩
  rw [hcompile, hv]
  rfl

/-- A range compares with two dates, or else with two numbers. -/
theorem exists_range (h : Compiles e ⟨f.name, .between, .array [a, b]⟩) :
    (∃ t u, a.asInstant? = some t ∧ b.asInstant? = some u ∧
      compile e ⟨f.name, .between, .array [a, b]⟩ = .ok (.between f.name (.date t) (.date u))) ∨
    ∃ x y, a.asNumber? = some x ∧ b.asNumber? = some y ∧ compile e ⟨f.name, .between, .array [a, b]⟩ =
      .ok (.between f.name (.number (.finite x)) (.number (.finite y))) := by
  obtain ⟨p, hp⟩ := h
  have hbetween := (compile_declared he hf .between (.array [a, b])).symm.trans hp
  obtain ⟨low, high, hparts, hrange⟩ := compileBetween_ok hbetween
  obtain ⟨rfl, rfl⟩ : a = low ∧ b = high := by simpa [rangeParts] using hparts
  rcases hrange with ⟨t, u, ht, hu, rfl⟩ | ⟨x, y, hx, hy, rfl⟩
  · exact .inl ⟨t, u, ht, hu, hp⟩
  · exact .inr ⟨x, y, hx, hy, hp⟩

/-- On an amount a range says whether it lies between the rounded bounds. -/
theorem selects_range_amount {p q : Double} (hp : a.asNumber? = some p) (hq : b.asNumber? = some q)
    (h : compile e ⟨f.name, .between, .array [a, b]⟩ =
      .ok (.between f.name (.number (.finite p)) (.number (.finite q))))
    {r : Record} {d : Decimal} (hd : r.data.get? f.name = some (.currency d)) :
    Selects e ⟨f.name, .between, .array [a, b]⟩ r ↔ Decimal.Between a.asRounded? b.asRounded? d := by
  have hfield : r.field f.name = some (.currency d) := (Record.field_declared he hf r).trans hd
  rw [selects_iff h, r.meets_between, Bool.and_eq_true, Record.meets_gte_amount hfield,
    Record.meets_lte_amount hfield, Json.asRounded?, Json.asRounded?, hp, hq]
  rfl

/-- The filters for the bounds say so of the bounds as they are. -/
theorem selects_bounds_amount {x y : Decimal}
    (hlow : compile e ⟨f.name, .gte, a⟩ = .ok (.compare f.name .gte (.currency x)))
    (hhigh : compile e ⟨f.name, .lte, b⟩ = .ok (.compare f.name .lte (.currency y)))
    {r : Record} {d : Decimal} (hd : r.data.get? f.name = some (.currency d)) :
    Selects e ⟨f.name, .gte, a⟩ r ∧ Selects e ⟨f.name, .lte, b⟩ r ↔
      x.units ≤ d.units ∧ d.units ≤ y.units := by
  have hfield : r.field f.name = some (.currency d) := (Record.field_declared he hf r).trans hd
  rw [selects_iff hlow, selects_iff hhigh, Record.meets_gte_amount hfield, Record.meets_lte_amount hfield]
  simp [Value.asAmount?]

section Bounds

variable (hlow : Compiles e ⟨f.name, .gte, a⟩) (hhigh : Compiles e ⟨f.name, .lte, b⟩)
  (hbetween : Compiles e ⟨f.name, .between, .array [a, b]⟩)

include hlow hhigh hbetween

/-- **Ranges of numbers include both bounds and nothing else.** -/
theorem inclusive_number (hkind : f.kind = .number) : Inclusive e f a b := by
  obtain ⟨v, hv, hgte⟩ := exists_bound he hf rfl hlow
  obtain ⟨w, hw, hlte⟩ := exists_bound he hf rfl hhigh
  obtain ⟨x, hx, rfl⟩ := Field.convertPresent_number hkind hv
  obtain ⟨y, hy, rfl⟩ := Field.convertPresent_number hkind hw
  rcases exists_range he hf hbetween with ⟨t, u, ht, -, -⟩ | ⟨x', y', hx', hy', hcompile⟩
  · rw [Json.asNumber?_of_date ht] at hx
    cases hx
  · cases hx.symm.trans hx'
    cases hy.symm.trans hy'
    exact inclusive_of_same hgte hlte hcompile

/-- **So do ranges of dates.** -/
theorem inclusive_date (hkind : f.kind = .date) : Inclusive e f a b := by
  obtain ⟨v, hv, hgte⟩ := exists_bound he hf rfl hlow
  obtain ⟨w, hw, hlte⟩ := exists_bound he hf rfl hhigh
  obtain ⟨t, ht, rfl⟩ := Field.convertPresent_date hkind hv
  obtain ⟨u, hu, rfl⟩ := Field.convertPresent_date hkind hw
  rcases exists_range he hf hbetween with ⟨t', u', ht', hu', hcompile⟩ | ⟨x, y, hx, -, -⟩
  · cases ht.symm.trans ht'
    cases hu.symm.trans hu'
    exact inclusive_of_same hgte hlte hcompile
  · rw [Json.asNumber?_of_date ht] at hx
    cases hx

/-- A range of amounts is right when rounding the bounds leaves the range. -/
theorem inclusive_currency_iff (hkind : f.kind = .currency) :
    ∃ x y, a.asAmount? = some x ∧ b.asAmount? = some y ∧
    (Inclusive e f a b ↔
      ∀ d, Decimal.Between a.asRounded? b.asRounded? d ↔ x.units ≤ d.units ∧ d.units ≤ y.units) := by
  obtain ⟨v, hv, hgte⟩ := exists_bound he hf rfl hlow
  obtain ⟨w, hw, hlte⟩ := exists_bound he hf rfl hhigh
  obtain ⟨x, hx, rfl⟩ := Field.convertPresent_currency hkind hv
  obtain ⟨y, hy, rfl⟩ := Field.convertPresent_currency hkind hw
  rcases exists_range he hf hbetween with ⟨t, u, ht, -, -⟩ | ⟨p, q, hp, hq, hcompile⟩
  · rw [Json.asAmount?_of_date ht] at hx
    cases hx
  refine ⟨x, y, hx, hy, ?_⟩
  constructor
  · intro hinclusive d
    have hd := Record.get?_ofAmount f.name d
    rw [← selects_range_amount he hf hp hq hcompile hd, ← selects_bounds_amount he hf hgte hlte hd]
    refine hinclusive _ ?_
    rw [hd]
    rintro v ⟨⟩
    exact (Field.holds_currency_iff hkind).2 ⟨d, rfl⟩
  · intro hrange r hr
    cases hstored : r.data.get? f.name with
    | none =>
      have hfield : r.field f.name = none := (Record.field_declared he hf r).trans hstored
      rw [selects_iff hcompile, selects_iff hgte, r.meets_between, Bool.and_eq_true]
      exact iff_of_false (fun h => Record.not_meets_bound hfield (.inl rfl) _ h.1)
        (fun h => Record.not_meets_bound hfield (.inl rfl) _ h.1)
    | some v =>
      obtain ⟨d, rfl⟩ := (Field.holds_currency_iff hkind).1 (hr v hstored)
      rw [selects_range_amount he hf hp hq hcompile hstored, selects_bounds_amount he hf hgte hlte hstored]
      exact hrange d

end Bounds

end Declared

/-- **A range is inclusive, but a range of amounts only as far as doubles keep its bounds.** On a field of
numbers or dates it selects what the filters for its bounds select together. On a field of amounts it does
so exactly when rounding keeps both bounds, and, if these are out of order, does not bring them into it. -/
theorem between_inclusive {s : Schema} (hs : s.Registered) {name : String} (hfind : s.find name = .ok e)
    (hf : f ∈ e.fields) (hlow : Compiles e ⟨f.name, .gte, a⟩) (hhigh : Compiles e ⟨f.name, .lte, b⟩)
    (hbetween : Compiles e ⟨f.name, .between, .array [a, b]⟩) :
    (f.kind = .number ∨ f.kind = .date → Inclusive e f a b) ∧
    (f.kind = .currency → ∃ x y, a.asAmount? = some x ∧ b.asAmount? = some y ∧
      (x.cmp y ≠ .gt → (Inclusive e f a b ↔ a.Kept ∧ b.Kept)) ∧
      (x.cmp y = .gt → (Inclusive e f a b ↔
        ¬∃ l h, a.asRounded? = some l ∧ b.asRounded? = some h ∧ l.cmp h ≠ .gt))) := by
  have he := (hs.sound hfind).2
  refine ⟨?_, ?_⟩
  · rintro (hkind | hkind)
    · exact inclusive_number he hf hlow hhigh hbetween hkind
    · exact inclusive_date he hf hlow hhigh hbetween hkind
  · intro hkind
    obtain ⟨x, y, hx, hy, hiff⟩ := inclusive_currency_iff he hf hlow hhigh hbetween hkind
    refine ⟨x, y, hx, hy, ?_, ?_⟩
    · intro hle
      rw [hiff, Decimal.between_iff_of_le (Decimal.cmp_ne_gt_iff.1 hle), Json.kept_iff hx, Json.kept_iff hy]
    · intro hgt
      have hlt : y.units < x.units := by
        rw [Decimal.cmp_eq, Std.compare_eq_gt] at hgt
        exact hgt
      rw [hiff, Decimal.between_iff_of_lt hlt]
      simp only [Decimal.cmp_ne_gt_iff]

/-! ## Invoices -/

namespace Invoices

def amount : Field := .plain "amount" .currency

def invoice : Entity := ⟨"invoice", none, [amount, .plain "due" .date]⟩

def invoices : Schema := ⟨(∅ : Dict String Entity).insert "invoice" invoice⟩

/-- An amount of nineteen digits. -/
def exact : Json := .string "12345678901234567.89"

/-- An invoice of that amount. -/
def bill : Record := .ofAmount "amount" (exact.asAmount?.getD .zero)

/-- What a filter says of a record, worked out. -/
theorem selects_of_map (filter : Filter) (r : Record) (answer : Bool)
    (h : (compile invoice filter).map r.meets = .ok answer) :
    Compiles invoice filter ∧ (Selects invoice filter r ↔ answer = true) := by
  obtain ⟨p, hp, rfl⟩ := map_ok h
  exact ⟨⟨p, hp⟩, selects_iff hp⟩

/-- Ten and twenty are kept, so the invoices between them are those from ten on and up to twenty. -/
theorem whole_bounds_inclusive :
    Compiles invoice ⟨"amount", .gte, .number (.int 10)⟩ ∧
    Compiles invoice ⟨"amount", .lte, .number (.int 20)⟩ ∧
    Compiles invoice ⟨"amount", .between, .array [.number (.int 10), .number (.int 20)]⟩ ∧
    Inclusive invoice amount (.number (.int 10)) (.number (.int 20)) := by
  have hregistered : invoices.Registered := .register (e := invoice) .empty rfl
  have hfind : invoices.find "invoice" = .ok invoice := rfl
  have hamount : amount ∈ invoice.fields := .head _
  have hlow : Compiles invoice ⟨"amount", .gte, .number (.int 10)⟩ :=
    (selects_of_map _ bill true (by decide +kernel)).1
  have hhigh : Compiles invoice ⟨"amount", .lte, .number (.int 20)⟩ :=
    (selects_of_map _ bill false (by decide +kernel)).1
  have hbetween : Compiles invoice ⟨"amount", .between, .array [.number (.int 10), .number (.int 20)]⟩ :=
    (selects_of_map _ bill false (by decide +kernel)).1
  obtain ⟨x, y, hx, hy, hkept, -⟩ :=
    (between_inclusive hregistered hfind hamount hlow hhigh hbetween).2 rfl
  have hten : (Json.number (.int 10)).asAmount? = some ⟨10, 0, by decide, by decide⟩ := by decide +kernel
  have htwenty : (Json.number (.int 20)).asAmount? = some ⟨20, 0, by decide, by decide⟩ := by decide +kernel
  cases hten.symm.trans hx
  cases htwenty.symm.trans hy
  exact ⟨hlow, hhigh, hbetween,
    (hkept (by decide)).2 ⟨Json.kept_int (by decide), Json.kept_int (by decide)⟩⟩

/-- **The bill is not between its own amount and itself**, though it is both from that amount on and up to
it. -/
theorem exact_amount_missed :
    Selects invoice ⟨"amount", .gte, exact⟩ bill ∧ Selects invoice ⟨"amount", .lte, exact⟩ bill ∧
    Compiles invoice ⟨"amount", .between, .array [exact, exact]⟩ ∧
    ¬Selects invoice ⟨"amount", .between, .array [exact, exact]⟩ bill := by
  have hlow := (selects_of_map ⟨"amount", .gte, exact⟩ bill true (by decide +kernel)).2
  have hhigh := (selects_of_map ⟨"amount", .lte, exact⟩ bill true (by decide +kernel)).2
  obtain ⟨hcompiles, hbetween⟩ :=
    selects_of_map ⟨"amount", .between, .array [exact, exact]⟩ bill false (by decide +kernel)
  exact ⟨hlow.2 rfl, hhigh.2 rfl, hcompiles, fun h => nomatch hbetween.1 h⟩

end Invoices

end Filter

end Dossier
