import Dossier.Proofs.Predicate
import Dossier.Proofs.Sql.Condition
import Mathlib.Data.List.Forall2

/-!
# Conditions in three-valued logic

A comparison with a missing value is neither true nor false but unknown, and a query returns the rows
for which its condition is true. Here the expression of a condition is evaluated with any values of its
tests: it is true exactly when the predicate holds, if each test is true exactly when it holds. Whether a
test that fails is false or unknown makes no difference.

**Values.** `Expression.takes` says which values an expression can take when its comparisons take certain
values. A comparison that stands in two places may take a different one in each.

**Connectives.** An expression is decided by a Boolean (`Decides`) when every value it takes is true or
not as the Boolean says. Each connective of a condition keeps that (`Decides.and`, `Decides.or`,
`Decides.complement`), and an induction over the predicate does the rest.
-/

namespace Dossier

/-! ## The tests of a predicate -/

/-- A single test of a predicate. -/
inductive Leaf where
  | equals (field : String) (value : Value)
  | compares (field : String) (relation : Relation) (value : Value)
  | finds (field : String) (mode : TextMatch) (pattern : String)
  | between (field : String) (low high : Value)

namespace Leaf

def holds (source : FieldSource) : Leaf → Bool
  | .equals field value => Predicate.fieldEq (source field) value
  | .compares field relation value => Predicate.compareHolds (source field) relation value
  | .finds field mode pattern => Predicate.fieldTextHolds mode pattern (source field)
  | .between field low high => Predicate.betweenHolds (source field) low high

open Sql in
def test : Leaf → Test
  | .equals field value => .equals field value
  | .compares field relation value => .compares (.forValue field value) relation (.ofValue value)
  | .finds field mode pattern =>
    match SystemColumn.ofField? field with
    | some column => .columnLike column (likePattern mode pattern)
    | none => .dataLike field (likePattern mode pattern)
  | .between field low high => .between (.forValue field low) (.ofValue low) (.ofValue high)

/-- Tests with the number of the first parameter of each. -/
def numbered (n : Nat) : List Leaf → List (Nat × Leaf)
  | [] => []
  | leaf :: rest => (n, leaf) :: numbered (n + leaf.test.bound.length) rest

end Leaf

namespace Predicate

mutual

def leaves : Predicate → List Leaf
  | .always | .never => []
  | .compare field .eq value | .compare field .ne value => [.equals field value]
  | .compare field relation value => [.compares field relation value]
  | .among field values _ => values.map (.equals field)
  | .text field mode pattern => [.finds field mode pattern]
  | .between field low high => [.between field low high]
  | .and parts | .or parts => allLeaves parts
  | .not inner => inner.leaves

def allLeaves : List Predicate → List Leaf
  | [] => []
  | part :: rest => part.leaves ++ allLeaves rest

end

end Predicate

namespace Sql

open Statement

/-! ## Truth values -/

inductive Truth where
  | true
  | false
  | unknown
deriving DecidableEq

namespace Truth

def ofBool (b : Bool) : Truth := if b then .true else .false

def not : Truth → Truth
  | .true => .false
  | .false => .true
  | .unknown => .unknown

def and : Truth → Truth → Truth
  | .false, _ | _, .false => .false
  | .true, .true => .true
  | _, _ => .unknown

def or : Truth → Truth → Truth
  | .true, _ | _, .true => .true
  | .false, .false => .false
  | _, _ => .unknown

/-- The first of two values that is known. -/
def orElse : Truth → Truth → Truth
  | .unknown, b => b
  | a, _ => a

variable {a b : Truth}

theorem and_eq_true : a.and b = .true ↔ a = .true ∧ b = .true := by
  cases a <;> cases b <;> simp [and]

theorem or_eq_true : a.or b = .true ↔ a = .true ∨ b = .true := by
  cases a <;> cases b <;> simp [or]

theorem not_orElse_eq_true : (a.orElse .false).not = .true ↔ a ≠ .true := by
  cases a <;> simp [orElse, not]

end Truth

namespace Expression

variable {R : Expression → Truth → Prop}

/-- The value of a constant or of a comparison of numbers. -/
def constant? : Expression → Option Truth
  | .binary "=" (.number m) (.number n) => some (.ofBool (m == n))
  | .word "true" => some .true
  | .word "false" => some .false
  | _ => none

/-- The values that an expression without connectives can take. -/
def compared (R : Expression → Truth → Prop) (e : Expression) (t : Truth) : Prop :=
  match e.constant? with
  | some value => t = value
  | none => R e t

/-- The values that an expression can take, when comparisons take the values of a relation. -/
def takes (R : Expression → Truth → Prop) : Expression → Truth → Prop
  | .paren e, t => e.takes R t
  | .not e, t => ∃ a, e.takes R a ∧ t = a.not
  | .coalesce e f, t => ∃ a b, e.takes R a ∧ f.takes R b ∧ t = a.orElse b
  | .binary operator e f, t =>
    if operator = "and" then ∃ a b, e.takes R a ∧ f.takes R b ∧ t = a.and b
    else if operator = "or" then ∃ a b, e.takes R a ∧ f.takes R b ∧ t = a.or b
    else compared R (.binary operator e f) t
  | e, t => compared R e t

/-- Where every comparison takes a value, every expression does. -/
theorem exists_takes (hR : ∀ e, ∃ t, R e t) (e : Expression) : ∃ t, e.takes R t := by
  have hcompared (e : Expression) : ∃ t, compared R e t := by
    unfold compared
    cases e.constant? with
    | some value => exact ⟨value, rfl⟩
    | none => exact hR e
  induction e with
  | paren e ih => exact ih
  | not e ih =>
    obtain ⟨a, ha⟩ := ih
    exact ⟨a.not, a, ha, rfl⟩
  | coalesce e f ihe ihf =>
    obtain ⟨a, ha⟩ := ihe
    obtain ⟨b, hb⟩ := ihf
    exact ⟨a.orElse b, a, b, ha, hb, rfl⟩
  | binary operator e f ihe ihf =>
    obtain ⟨a, ha⟩ := ihe
    obtain ⟨b, hb⟩ := ihf
    unfold takes
    by_cases hand : operator = "and"
    · exact ⟨a.and b, by rw [if_pos hand]; exact ⟨a, b, ha, hb, rfl⟩⟩
    · by_cases hor : operator = "or"
      · exact ⟨a.or b, by rw [if_neg hand, if_pos hor]; exact ⟨a, b, ha, hb, rfl⟩⟩
      · simp only [if_neg hand, if_neg hor]
        exact hcompared _
  | _ => exact hcompared _

end Expression

/-! ## Decided expressions -/

variable {R : Expression → Truth → Prop}

/-- Whatever value an expression takes, it is true exactly as a Boolean says. -/
def Decides (R : Expression → Truth → Prop) (e : Expression) (b : Bool) : Prop :=
  ∀ t, e.takes R t → (t = .true ↔ b = true)

namespace Decides

variable {e f : Expression} {b c : Bool}

theorem paren (h : Decides R e b) : Decides R (.paren e) b := h

theorem constant (holds : Bool) : Decides R (.binary "=" (.number 1) (.number holds.toNat)) holds := by
  intro t ht
  have ht : t = .ofBool (1 == holds.toNat) := ht
  subst ht
  cases holds <;> decide

theorem and (he : Decides R e b) (hf : Decides R f c) : Decides R (.binary "and" e f) (b && c) := by
  rintro t ⟨x, y, hx, hy, rfl⟩
  rw [Truth.and_eq_true, he x hx, hf y hy, Bool.and_eq_true]

theorem or (he : Decides R e b) (hf : Decides R f c) : Decides R (.binary "or" e f) (b || c) := by
  rintro t ⟨x, y, hx, hy, rfl⟩
  rw [Truth.or_eq_true, he x hx, hf y hy, Bool.or_eq_true]

/-- A complement takes what is unknown for false. -/
theorem complement (he : Decides R e b) : Decides R (.not (.coalesce e (.word "false"))) (!b) := by
  rintro t ⟨x, ⟨y, z, hy, hz, rfl⟩, rfl⟩
  have hz : z = .false := hz
  rw [hz, Truth.not_orElse_eq_true, Ne, he y hy, Bool.not_eq_true', Bool.not_eq_true]

/-- An operator between decided expressions, where it keeps them so. -/
theorem joined {operator : String} {op : Bool → Bool → Bool}
    (hop : ∀ {e f b c}, Decides R e b → Decides R f c → Decides R (.binary operator e f) (op b c))
    {es : List Expression} {bs : List Bool} (he : Decides R e b) (hes : List.Forall₂ (Decides R) es bs) :
    Decides R (joined operator (e :: es)) (bs.foldl op b) := by
  show Decides R (es.foldl (.binary operator) e) (bs.foldl op b)
  induction hes generalizing e b with
  | nil => exact he
  | cons hf hfs ih => exact ih (hop he hf)

theorem joined_and {es : List Expression} {bs : List Bool} (hes : List.Forall₂ (Decides R) es bs)
    (hne : es ≠ []) : Decides R (Sql.joined "and" es) (bs.all id) := by
  have hfold (bs : List Bool) (b : Bool) : bs.foldl (· && ·) b = (b :: bs).all id := by
    induction bs generalizing b with
    | nil => simp
    | cons c bs ih => simp [ih, Bool.and_assoc]
  cases hes with
  | nil => exact absurd rfl hne
  | cons he hes =>
    rw [← hfold]
    exact joined and he hes

theorem joined_or {es : List Expression} {bs : List Bool} (hes : List.Forall₂ (Decides R) es bs)
    (hne : es ≠ []) : Decides R (Sql.joined "or" es) (bs.any id) := by
  have hfold (bs : List Bool) (b : Bool) : bs.foldl (· || ·) b = (b :: bs).any id := by
    induction bs generalizing b with
    | nil => simp
    | cons c bs ih => simp [ih, Bool.or_assoc]
  cases hes with
  | nil => exact absurd rfl hne
  | cons he hes =>
    rw [← hfold]
    exact joined or he hes

end Decides

/-! ## Conditions of predicates -/

/-- Numbered tests are decided by what a source shows. -/
def LeavesDecided (R : Expression → Truth → Prop) (source : FieldSource) (n : Nat)
    (leaves : List Leaf) : Prop :=
  ∀ l ∈ Leaf.numbered n leaves, Decides R (l.2.test.expression l.1) (l.2.holds source)

namespace LeavesDecided

variable {source : FieldSource} {n : Nat} {leaf : Leaf} {leaves others : List Leaf}

theorem cons_iff : LeavesDecided R source n (leaf :: leaves) ↔
    Decides R (leaf.test.expression n) (leaf.holds source) ∧
      LeavesDecided R source (n + leaf.test.bound.length) leaves := by
  simp [LeavesDecided, Leaf.numbered]

theorem append_iff : LeavesDecided R source n (leaves ++ others) ↔
    LeavesDecided R source n leaves ∧
      LeavesDecided R source (n + (leaves.flatMap fun l => l.test.bound).length) others := by
  induction leaves generalizing n with
  | nil => simp [LeavesDecided, Leaf.numbered]
  | cons leaf leaves ih =>
    rw [List.cons_append, cons_iff, cons_iff, ih, List.flatMap_cons, List.length_append, and_assoc,
      Nat.add_assoc]

end LeavesDecided

/-- A predicate binds the values of its tests. -/
theorem bound_among (field : String) (values : List Value) :
    values.flatMap (Value.boundFor field) =
      (values.map (Leaf.equals field)).flatMap fun l => l.test.bound := by
  rw [List.flatMap_map]
  exact congrArg (values.flatMap ·) (funext fun v => (Test.bound_equals field v).symm)

mutual

theorem bound_leaves (p : Predicate) : p.bound = p.leaves.flatMap fun l => l.test.bound := by
  match p with
  | .always | .never => rfl
  | .compare field .eq value | .compare field .ne value =>
    have h := bound_among field [value]
    rwa [List.flatMap_singleton] at h
  | .compare _ .gt value | .compare _ .gte value | .compare _ .lt value | .compare _ .lte value => rfl
  | .among field values negated => exact bound_among field values
  | .text field mode pattern =>
    show [_] = [Leaf.finds field mode pattern].flatMap _
    simp only [List.flatMap_singleton, Leaf.test]
    cases SystemColumn.ofField? field <;> rfl
  | .between field low high => rfl
  | .and parts | .or parts => exact allBound_leaves parts
  | .not inner => exact bound_leaves inner

theorem allBound_leaves (parts : List Predicate) :
    Predicate.allBound parts = (Predicate.allLeaves parts).flatMap fun l => l.test.bound := by
  match parts with
  | [] => rfl
  | part :: rest =>
    rw [Predicate.allBound, Predicate.allLeaves, List.flatMap_append, bound_leaves part,
      allBound_leaves rest]

end

namespace Clause

variable {source : FieldSource}

theorem expressions_ne_nil {n : Nat} {parts : List Clause} (h : parts ≠ []) :
    expressions n parts ≠ [] := by
  cases parts with
  | nil => exact absurd rfl h
  | cons part rest => exact List.cons_ne_nil _ _

theorem decides_members {n : Nat} {field : String} {values : List Value}
    (h : LeavesDecided R source n (values.map (.equals field))) :
    List.Forall₂ (Decides R) (expressions n (values.map fun v => .test (.equals field v)))
      (values.map (Predicate.fieldEq (source field))) := by
  induction values generalizing n with
  | nil => exact .nil
  | cons v rest ih =>
    obtain ⟨hv, hrest⟩ := LeavesDecided.cons_iff.1 h
    have hparams : params (test (.equals field v)).statement = (Leaf.equals field v).test.bound :=
      Test.params _
    refine .cons hv ?_
    rw [hparams]
    exact ih hrest

/-- A test for membership is decided by whether a member is equal. -/
theorem decides_among {n : Nat} {field : String} {v : Value} {rest : List Value}
    (h : LeavesDecided R source n ((v :: rest).map (.equals field))) :
    Decides R ((group (or ((v :: rest).map fun v => .test (.equals field v)))).expression n)
      ((v :: rest).any fun v => Predicate.fieldEq (source field) v) := by
  have hany := (Decides.joined_or (decides_members h) (List.cons_ne_nil _ _)).paren
  rwa [List.any_map] at hany

mutual

/-- **The condition of a predicate is decided by whether the predicate holds.** -/
theorem decides_ofPredicate (p : Predicate) (hp : p.full = true) (n : Nat)
    (h : LeavesDecided R source n p.leaves) :
    Decides R ((ofPredicate p).expression n) (p.holds source) := by
  match p with
  | .always => exact Decides.constant true
  | .never => exact Decides.constant false
  | .compare field .eq value => exact (LeavesDecided.cons_iff.1 h).1
  | .compare field .ne value => exact (LeavesDecided.cons_iff.1 h).1.complement
  | .compare _ .gt value | .compare _ .gte value | .compare _ .lt value | .compare _ .lte value =>
    exact (LeavesDecided.cons_iff.1 h).1
  | .among field [] negated =>
    have hconstant := Decides.constant (R := R) negated
    cases negated <;> exact hconstant
  | .among field (v :: rest) false =>
    have hany := decides_among h
    rwa [← Bool.bne_false ((v :: rest).any _)] at hany
  | .among field (v :: rest) true =>
    have hnone := (decides_among h).complement
    rwa [← Bool.bne_true] at hnone
  | .text field mode pattern =>
    have hfinds := (LeavesDecided.cons_iff.1 h).1
    simp only [Leaf.test] at hfinds
    rw [ofPredicate]
    cases hcolumn : SystemColumn.ofField? field <;> rw [hcolumn] at hfinds <;> exact hfinds
  | .between field low high => exact (LeavesDecided.cons_iff.1 h).1
  | .and parts =>
    obtain ⟨hne, hparts⟩ := Bool.and_eq_true_iff.1 hp
    have hall := Decides.joined_and (decides_groups parts hparts n h)
      (expressions_ne_nil (groups_ne_nil hne))
    rw [List.all_map] at hall
    rwa [Predicate.holds, Predicate.allHold_eq]
  | .or parts =>
    obtain ⟨hne, hparts⟩ := Bool.and_eq_true_iff.1 hp
    have hany := Decides.joined_or (decides_groups parts hparts n h)
      (expressions_ne_nil (groups_ne_nil hne))
    rw [List.any_map] at hany
    rwa [Predicate.holds, Predicate.anyHolds_eq]
  | .not inner => exact (decides_ofPredicate inner hp n h).paren.complement

theorem decides_groups (parts : List Predicate) (hparts : Predicate.allFull parts = true) (n : Nat)
    (h : LeavesDecided R source n (Predicate.allLeaves parts)) :
    List.Forall₂ (Decides R) (expressions n (groups parts)) (parts.map (Predicate.holds source)) := by
  match parts with
  | [] => exact .nil
  | part :: rest =>
    obtain ⟨hpart, hrest⟩ := Bool.and_eq_true_iff.1 hparts
    obtain ⟨hleaves, hothers⟩ := LeavesDecided.append_iff.1 h
    rw [← bound_leaves, ← params_whereClause] at hothers
    refine .cons (decides_ofPredicate part hpart n hleaves).paren ?_
    rw [params_group]
    exact decides_groups rest hrest _ hothers

end

end Clause

end Sql

end Dossier
