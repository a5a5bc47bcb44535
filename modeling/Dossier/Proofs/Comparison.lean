import Dossier.Proofs.ListingOrder
import Dossier.Proofs.Rendering

/-!
# Comparing values

Values of nine kinds are compared by arms that overlap: one for each kind with an order, two for numbers
against amounts, and one for whatever has a text. Lists and documents are only ever equal or not.

**Both ways round.** Comparing the other way round turns the result round (`Value.compare?_swap`), and loose
equality is symmetric at any depth of lists (`Value.looseEq_swap`), documents included.

**With itself.** NaN compares with nothing, so a value equals itself exactly when it holds none
(`Value.looseEq_self`).

**Within a kind** (`Value.Ranked`), where texts and references count as one, any two values compare
(`Value.compare?_of_ranked`), and only a number and an amount compare across kinds
(`Value.isSome_compare?_iff`). That case is left out of the order for a reason: several numbers are closest
to one amount (`Offers.mixed_kinds_cycle`).

Main result: `Value.comparison_coherent`.
-/

namespace Dossier

open Std

/-! ## Equality of documents -/

namespace Json

theorem Number.same_swap (m n : Number) : n.same m = m.same n := by
  cases m with
  | int i =>
    cases n with
    | int j => exact BEq.comm
    | double => rfl
  | double d =>
    cases n with
    | int => rfl
    | double e => exact BEq.comm

mutual

theorem same_swap (a b : Json) : b.same a = a.same b := by
  cases a with
  | null => cases b <;> rfl
  | bool x =>
    cases b with
    | bool y => exact BEq.comm
    | _ => rfl
  | number m =>
    cases b with
    | number n => exact m.same_swap n
    | _ => rfl
  | string s =>
    cases b with
    | string t => exact BEq.comm
    | _ => rfl
  | array as =>
    cases b with
    | array bs => exact sameItems_swap as bs
    | _ => rfl
  | object as =>
    cases b with
    | object bs => exact sameMembers_swap as bs
    | _ => rfl

theorem sameItems_swap (as bs : List Json) : sameItems bs as = sameItems as bs := by
  cases as with
  | nil => cases bs <;> rfl
  | cons a as =>
    cases bs with
    | nil => rfl
    | cons b bs => rw [sameItems, sameItems, same_swap a b, sameItems_swap as bs]

theorem sameMembers_swap (as bs : List (String × Json)) : sameMembers bs as = sameMembers as bs := by
  cases as with
  | nil => cases bs <;> rfl
  | cons a as =>
    cases bs with
    | nil => rfl
    | cons b bs =>
      obtain ⟨k, a⟩ := a
      obtain ⟨l, b⟩ := b
      rw [sameMembers, sameMembers, same_swap a b, sameMembers_swap as bs, BEq.comm (a := l)]

end

end Json

namespace Value

/-! ## Kinds -/

def kind? : Value → Option ValueSort
  | .text _ | .ref _ => some .text
  | .number _ => some .number
  | .bool _ => some .bool
  | .date _ => some .date
  | .currency _ => some .currency
  | .null | .list _ | .json _ => none

mutual

/-- Whether a value holds no NaN, at any depth of lists. -/
def nanFree : Value → Bool
  | .number .nan => false
  | .list items => allNanFree items
  | _ => true

def allNanFree : List Value → Bool
  | [] => true
  | item :: rest => item.nanFree && allNanFree rest

end

/-- Whether a value has a place among those of a kind. -/
structure Ranked (v : Value) (sort : ValueSort) : Prop where
  kind : v.kind? = some sort
  nanFree : v.nanFree = true

variable {v x y z : Value} {sort : ValueSort}

theorem Ranked.ranksAs (h : v.Ranked sort) : v.RanksAs sort := by
  obtain ⟨hkind, hnan⟩ := h
  cases v with
  | text s =>
    cases hkind
    exact .inl ⟨s, .inl rfl⟩
  | ref s =>
    cases hkind
    exact .inl ⟨s, .inr rfl⟩
  | number n =>
    cases hkind
    cases n with
    | finite d => exact .inl ⟨d, rfl⟩
    | infinite neg => exact .inr ⟨neg, rfl⟩
    | nan => cases hnan
  | bool | date | currency =>
    cases hkind
    exact .inl ⟨_, rfl⟩
  | null | list | json => cases hkind

theorem nanFree_number {n : Binary64} : (number n).nanFree = true ↔ n ≠ .nan := by
  cases n <;> simp [nanFree]

theorem isSome_cmp?_iff {m n : Binary64} : (m.cmp? n).isSome = true ↔ m ≠ .nan ∧ n ≠ .nan := by
  cases m <;> cases n <;> simp [Binary64.cmp?]

/-- Whether one of two values is a given number and the other one an amount. -/
def NumberAndAmount (x y : Value) (n : Binary64) : Prop :=
  ∃ d, x = .number n ∧ y = .currency d ∨ x = .currency d ∧ y = .number n

theorem isSome_compare?_of_ranked (hx : x.Ranked sort) (hy : y.Ranked sort) :
    (x.compare? y).isSome = true := by
  have hkind : x.kind? = y.kind? := hx.kind.trans hy.kind.symm
  cases x with
  | null | list | json => cases hx.kind
  | text | ref =>
    cases y with
    | text | ref => rfl
    | _ => cases hkind
  | number m =>
    cases y with
    | number n => exact isSome_cmp?_iff.2 ⟨nanFree_number.1 hx.nanFree, nanFree_number.1 hy.nanFree⟩
    | _ => cases hkind
  | bool =>
    cases y with
    | bool => rfl
    | _ => cases hkind
  | date =>
    cases y with
    | date => rfl
    | _ => cases hkind
  | currency =>
    cases y with
    | currency => rfl
    | _ => cases hkind

/-- **Values compare if they are of one kind and no NaN**, or else if they are an amount and a number that is
close to one. -/
theorem isSome_compare?_iff : (x.compare? y).isSome = true ↔
    (∃ sort, x.Ranked sort ∧ y.Ranked sort) ∨ ∃ n, NumberAndAmount x y n ∧ n.toDecimal?.isSome = true := by
  constructor
  · intro h
    cases x with
    | null | list | json => cases y <;> cases h
    | text | ref =>
      cases y with
      | text | ref => exact .inl ⟨.text, ⟨rfl, rfl⟩, ⟨rfl, rfl⟩⟩
      | _ => cases h
    | number m =>
      cases y with
      | number n =>
        obtain ⟨hm, hn⟩ := isSome_cmp?_iff.1 h
        exact .inl ⟨.number, ⟨rfl, nanFree_number.2 hm⟩, ⟨rfl, nanFree_number.2 hn⟩⟩
      | currency d => exact .inr ⟨m, ⟨d, .inl ⟨rfl, rfl⟩⟩, by simpa [compare?] using h⟩
      | _ => cases h
    | bool =>
      cases y with
      | bool => exact .inl ⟨.bool, ⟨rfl, rfl⟩, ⟨rfl, rfl⟩⟩
      | _ => cases h
    | date =>
      cases y with
      | date => exact .inl ⟨.date, ⟨rfl, rfl⟩, ⟨rfl, rfl⟩⟩
      | _ => cases h
    | currency d =>
      cases y with
      | currency => exact .inl ⟨.currency, ⟨rfl, rfl⟩, ⟨rfl, rfl⟩⟩
      | number n => exact .inr ⟨n, ⟨d, .inr ⟨rfl, rfl⟩⟩, by simpa [compare?] using h⟩
      | _ => cases h
  · rintro (⟨sort, hx, hy⟩ | ⟨n, ⟨d, ⟨rfl, rfl⟩ | ⟨rfl, rfl⟩⟩, hn⟩)
    · exact isSome_compare?_of_ranked hx hy
    · simpa [compare?] using hn
    · simpa [compare?] using hn

/-- **Any two values of one kind compare**, as in an order. -/
theorem compare?_of_ranked (hx : x.Ranked sort) (hy : y.Ranked sort) :
    x.compare? y = some (rankCmp sort x y) := by
  obtain ⟨o, ho⟩ := Option.isSome_iff_exists.1 (isSome_compare?_of_ranked hx hy)
  rw [← compare?_eq_rankCmp hx.ranksAs hy.ranksAs, ho]
  rfl

/-! ## Loose equality -/

/-- What has a kind is loosely equal to what it compares with as equal. -/
theorem looseEq_of_kind (h : x.kind? = some sort) (y : Value) :
    x.looseEq y = (x.compare? y == some .eq) := by
  cases x with
  | null | list | json => cases h
  | _ => cases y <;> rfl

theorem looseEq_of_kind_right (h : y.kind? = some sort) (x : Value) :
    x.looseEq y = (x.compare? y == some .eq) := by
  cases y with
  | null | list | json => cases h
  | _ => cases x <;> rfl

theorem swap_beq_eq (o : Option Ordering) : (o.map Ordering.swap == some .eq) = (o == some .eq) := by
  rcases o with _ | _ | _ | _ <;> rfl

mutual

/-- **Loose equality is symmetric.** -/
theorem looseEq_swap (x y : Value) : y.looseEq x = x.looseEq y := by
  cases x with
  | null => cases y <;> rfl
  | list xs =>
    cases y with
    | list ys => exact looseEqItems_swap xs ys
    | _ => rfl
  | json a =>
    cases y with
    | json b => exact a.same_swap b
    | _ => rfl
  | _ => rw [looseEq_of_kind_right rfl, looseEq_of_kind rfl, compare?_swap, swap_beq_eq]

theorem looseEqItems_swap (xs ys : List Value) : looseEqItems ys xs = looseEqItems xs ys := by
  cases xs with
  | nil => cases ys <;> rfl
  | cons x xs =>
    cases ys with
    | nil => rfl
    | cons y ys => rw [looseEqItems, looseEqItems, looseEq_swap x y, looseEqItems_swap xs ys]

end

theorem compare?_self (h : v.Ranked sort) : v.compare? v = some .eq := by
  rw [compare?_of_ranked h h]
  exact congrArg some ReflCmp.compare_self

mutual

/-- **A value is loosely equal to itself exactly when it holds no NaN.** -/
theorem looseEq_self (v : Value) : v.looseEq v = v.nanFree := by
  cases v with
  | null => rfl
  | number n =>
    cases n with
    | nan => rfl
    | finite | infinite => rw [looseEq_of_kind rfl, compare?_self ⟨rfl, rfl⟩]; rfl
  | list items => exact looseEqItems_self items
  | json document => exact document.same_refl
  | _ => rw [looseEq_of_kind rfl, compare?_self ⟨rfl, rfl⟩]; rfl

theorem looseEqItems_self (items : List Value) : looseEqItems items items = allNanFree items := by
  cases items with
  | nil => rfl
  | cons item rest => rw [looseEqItems, allNanFree, looseEq_self item, looseEqItems_self rest]

end

/-! ## Coherence -/

/-- Whether a value compares as less than another or as equal to it. -/
def atMost (x y : Value) : Bool := (x.compare? y).any Ordering.isLE

theorem atMost_of_ranked (hx : x.Ranked sort) (hy : y.Ranked sort) :
    x.atMost y = (rankCmp sort x y).isLE := by
  rw [atMost, compare?_of_ranked hx hy, Option.any_some]

theorem atMost_trans (hx : x.Ranked sort) (hy : y.Ranked sort) (hz : z.Ranked sort)
    (hxy : x.atMost y = true) (hyz : y.atMost z = true) : x.atMost z = true := by
  rw [atMost_of_ranked hx hy] at hxy
  rw [atMost_of_ranked hy hz] at hyz
  rw [atMost_of_ranked hx hz]
  exact TransCmp.isLE_trans hxy hyz

theorem atMost_total (hx : x.Ranked sort) (hy : y.Ranked sort) : x.atMost y = true ∨ y.atMost x = true := by
  rw [atMost, atMost, compare?_swap x y, compare?_of_ranked hx hy]
  cases rankCmp sort x y with
  | lt | eq => exact .inl rfl
  | gt => exact .inr rfl

theorem looseEq_iff_atMost (hx : x.Ranked sort) (hy : y.Ranked sort) :
    x.looseEq y = true ↔ x.atMost y = true ∧ y.atMost x = true := by
  rw [looseEq_of_kind hx.kind, atMost, atMost, compare?_swap x y, compare?_of_ranked hx hy]
  cases rankCmp sort x y <;> decide

/-- **The comparison of values is coherent.** The other way round the result is turned round, and there is
one in both directions or in none. Loose equality is symmetric, and reflexive for exactly the values that
hold no NaN. Values of one kind that are no NaN all compare, in a total preorder, and those on one level of
it are the loosely equal ones; across kinds only a number and an amount compare. -/
theorem comparison_coherent :
    (∀ a b : Value, b.compare? a = (a.compare? b).map Ordering.swap ∧
      (b.compare? a = none ↔ a.compare? b = none)) ∧
    (∀ a b : Value, b.looseEq a = a.looseEq b) ∧
    (∀ v : Value, v.looseEq v = v.nanFree) ∧
    (∀ (sort : ValueSort) (a b c : Value), a.Ranked sort → b.Ranked sort → c.Ranked sort →
      (a.compare? b).isSome = true ∧ a.atMost a = true ∧ (a.atMost b = true ∨ b.atMost a = true) ∧
      (a.atMost b = true → b.atMost c = true → a.atMost c = true) ∧
      (a.looseEq b = true ↔ a.atMost b = true ∧ b.atMost a = true)) ∧
    ∀ a b : Value, (a.compare? b).isSome = true ↔
      (∃ sort, a.Ranked sort ∧ b.Ranked sort) ∨ ∃ n, NumberAndAmount a b n ∧ n.toDecimal?.isSome = true := by
  refine ⟨?_, looseEq_swap, looseEq_self, ?_, fun a b => isSome_compare?_iff⟩
  · intro a b
    have hswap := compare?_swap a b
    exact ⟨hswap, by rw [hswap, Option.map_eq_none_iff]⟩
  · intro sort a b c ha hb hc
    have hself : a.atMost a = true := by
      rw [atMost, compare?_self ha]
      rfl
    exact ⟨isSome_compare?_of_ranked ha hb, hself, atMost_total ha hb, atMost_trans ha hb hc,
      looseEq_iff_atMost ha hb⟩

/-- Texts and references stand in one order, one tenth equals the amount it is close to from either side, and
a list with NaN in it does not equal itself. -/
theorem mixed_values_compared :
    (text "ann").looseEq (ref "ann") = true ∧ (ref "ann").atMost (text "cat") = true ∧
    (currency ⟨1, 1, by decide, by decide⟩).compare? (number (.finite Offers.tenth)) = some .eq ∧
    (list [null, list [number .nan]]).looseEq (list [null, list [number .nan]]) = false := by
  obtain ⟨hswap, -, hself, hranked, -⟩ := comparison_coherent
  have hann : (text "ann").Ranked .text := ⟨rfl, rfl⟩
  have href : (ref "ann").Ranked .text := ⟨rfl, rfl⟩
  have hbob : (ref "bob").Ranked .text := ⟨rfl, rfl⟩
  have hcat : (text "cat").Ranked .text := ⟨rfl, rfl⟩
  obtain ⟨-, -, -, -, hequal⟩ := hranked .text (text "ann") (ref "ann") (ref "ann") hann href href
  obtain ⟨-, -, -, htrans, -⟩ := hranked .text (ref "ann") (ref "bob") (text "cat") href hbob hcat
  have htenth : (number (.finite Offers.tenth)).compare? (currency ⟨1, 1, by decide, by decide⟩) =
      some .eq := by decide +kernel
  refine ⟨hequal.2 (by decide +kernel), htrans (by decide +kernel) (by decide +kernel), ?_, ?_⟩
  · rw [(hswap _ _).1, htenth]
    rfl
  · rw [hself]
    rfl

end Value

end Dossier
