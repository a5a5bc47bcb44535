import Dossier.Proofs.CompiledFilter
import Dossier.Proofs.GuardedWrites
import Dossier.Proofs.Listing
import Dossier.Proofs.Predicate
import Dossier.Proofs.Sql.Condition
import Dossier.Proofs.Union

/-!
# The normal form of predicates

In normal form (`Predicate.normal`) a connective has two parts or more, and nothing stands below a node
that could be worked into it: no constant below any node, no node below one of its own kind. Such a
predicate has no empty connective (`full_of_normal`), so its text can be read back.

**Keeping it.** The building functions take parts in normal form to a predicate in normal form
(`normal_all`, `normal_any`, `normal_negate`). A part that is opened up leaves its own parts behind, and
these already stood below a node of the same kind (`fits_of_mem_parts`), so opening up one level is enough.

**What is built.** Single filters compile to single tests, and the rest is put together by the building
functions: compiled lists of filters, compiled conditions, the guards (`Predicate.Built`), and every
predicate that a call puts to a store (`ServiceRequest.Makes.normal`).

Main result: `meaning_and_form_kept`.
-/

namespace Dossier

namespace Predicate

/-! ## Normal form -/

/-- What stands at the root of a predicate. -/
inductive Root where
  | constant
  | test
  | and
  | or
  | not
deriving DecidableEq

def root : Predicate → Root
  | .always | .never => .constant
  | .compare .. | .among .. | .text .. | .between .. => .test
  | .and _ => .and
  | .or _ => .or
  | .not _ => .not

/-- The predicates directly below the root. -/
def parts : Predicate → List Predicate
  | .and parts | .or parts => parts
  | .not inner => [inner]
  | _ => []

/-- Whether a predicate may stand below a node: no constant may, and no node of the same kind. -/
def fits (outer : Root) (p : Predicate) : Bool := p.root != .constant && p.root != outer

mutual

def normal : Predicate → Bool
  | .and parts => decide (2 ≤ parts.length) && allNormal .and parts
  | .or parts => decide (2 ≤ parts.length) && allNormal .or parts
  | .not inner => inner.fits .not && inner.normal
  | _ => true

def allNormal (outer : Root) : List Predicate → Bool
  | [] => true
  | part :: rest => part.fits outer && part.normal && allNormal outer rest

end

theorem allNormal_iff {outer : Root} {ps : List Predicate} :
    allNormal outer ps = true ↔ ∀ p ∈ ps, p.fits outer = true ∧ p.normal = true := by
  induction ps with
  | nil => simp [allNormal]
  | cons p ps ih => simp [allNormal, ih]

theorem normal_and_iff {ps : List Predicate} : (Predicate.and ps).normal = true ↔
    2 ≤ ps.length ∧ ∀ p ∈ ps, p.fits .and = true ∧ p.normal = true := by
  rw [normal, Bool.and_eq_true, decide_eq_true_iff, allNormal_iff]

theorem normal_or_iff {ps : List Predicate} : (Predicate.or ps).normal = true ↔
    2 ≤ ps.length ∧ ∀ p ∈ ps, p.fits .or = true ∧ p.normal = true := by
  rw [normal, Bool.and_eq_true, decide_eq_true_iff, allNormal_iff]

theorem normal_not_iff {inner : Predicate} :
    (Predicate.not inner).normal = true ↔ inner.fits .not = true ∧ inner.normal = true := by
  rw [normal, Bool.and_eq_true]

/-- Constants and single tests are in normal form. -/
theorem normal_of_root {p : Predicate} (h : p.root = .constant ∨ p.root = .test) : p.normal = true := by
  cases p with
  | and | or | not => rcases h with h | h <;> cases h
  | _ => rfl

/-- What stands below a node fits there, and is in normal form as well. -/
theorem fits_of_mem_parts {p q : Predicate} (hp : p.normal = true) (hq : q ∈ p.parts) :
    q.fits p.root = true ∧ q.normal = true := by
  cases p with
  | and ps => exact (normal_and_iff.1 hp).2 q hq
  | or ps => exact (normal_or_iff.1 hp).2 q hq
  | not inner =>
    obtain rfl := List.mem_singleton.1 hq
    exact normal_not_iff.1 hp
  | _ => cases hq

theorem isEmpty_of_two_le {ps : List Predicate} (h : 2 ≤ ps.length) : ps.isEmpty = false := by
  cases ps with
  | nil => cases h
  | cons p rest => rfl

mutual

/-- **A predicate in normal form has no empty connective.** -/
theorem full_of_normal (p : Predicate) (hp : p.normal = true) : p.full = true := by
  match p with
  | .and ps =>
    obtain ⟨hlength, hparts⟩ := normal_and_iff.1 hp
    rw [full, isEmpty_of_two_le hlength, allFull_of_normal ps fun q hq => (hparts q hq).2]
    rfl
  | .or ps =>
    obtain ⟨hlength, hparts⟩ := normal_or_iff.1 hp
    rw [full, isEmpty_of_two_le hlength, allFull_of_normal ps fun q hq => (hparts q hq).2]
    rfl
  | .not inner => exact full_of_normal inner (normal_not_iff.1 hp).2
  | .always | .never | .compare .. | .among .. | .text .. | .between .. => rfl

theorem allFull_of_normal (ps : List Predicate) (hps : ∀ p ∈ ps, p.normal = true) :
    allFull ps = true := by
  match ps with
  | [] => rfl
  | p :: rest =>
    obtain ⟨hp, hrest⟩ := List.forall_mem_cons.1 hps
    rw [allFull, full_of_normal p hp, allFull_of_normal rest hrest, Bool.and_self]

end

/-! ## Keeping it -/

variable {ps kept : List Predicate} {q : Predicate}

/-- Where the parts that are left of a list come from: each stood in the list and fits below a node of the
kind, or it stood below a node of this kind in the list. -/
def Left (outer : Root) (ps : List Predicate) (q : Predicate) : Prop :=
  (q ∈ ps ∧ q.fits outer = true) ∨ ∃ p ∈ ps, p.root = outer ∧ q ∈ p.parts

theorem Left.tail {outer : Root} {p : Predicate} (h : Left outer ps q) : Left outer (p :: ps) q := by
  rcases h with ⟨hmem, hfits⟩ | ⟨r, hr, hroot, hmem⟩
  · exact .inl ⟨.tail _ hmem, hfits⟩
  · exact .inr ⟨r, .tail _ hr, hroot, hmem⟩

/-- **What is left of parts in normal form fits**, since opening up a node leaves what stood below it. -/
theorem Left.fits {outer : Root} (h : Left outer ps q) (hps : ∀ p ∈ ps, p.normal = true) :
    q.fits outer = true ∧ q.normal = true := by
  rcases h with ⟨hmem, hfits⟩ | ⟨p, hp, rfl, hmem⟩
  · exact ⟨hfits, hps q hmem⟩
  · exact fits_of_mem_parts (hps p hp) hmem

theorem left_of_mem_conjuncts (h : conjuncts ps = some kept) (hq : q ∈ kept) : Left .and ps q := by
  induction ps generalizing kept with
  | nil =>
    cases h
    cases hq
  | cons p ps ih =>
    cases p with
    | always => exact (ih h hq).tail
    | never => cases h
    | and inner =>
      obtain ⟨rest, hrest, rfl⟩ := Option.map_eq_some_iff.1 h
      rcases List.mem_append.1 hq with hq | hq
      · exact .inr ⟨_, .head _, rfl, hq⟩
      · exact (ih hrest hq).tail
    | _ =>
      obtain ⟨rest, hrest, rfl⟩ := Option.map_eq_some_iff.1 h
      rcases List.mem_cons.1 hq with rfl | hq
      · exact .inl ⟨.head _, rfl⟩
      · exact (ih hrest hq).tail

theorem left_of_mem_disjuncts (h : disjuncts ps = some kept) (hq : q ∈ kept) : Left .or ps q := by
  induction ps generalizing kept with
  | nil =>
    cases h
    cases hq
  | cons p ps ih =>
    cases p with
    | never => exact (ih h hq).tail
    | always => cases h
    | or inner =>
      obtain ⟨rest, hrest, rfl⟩ := Option.map_eq_some_iff.1 h
      rcases List.mem_append.1 hq with hq | hq
      · exact .inr ⟨_, .head _, rfl, hq⟩
      · exact (ih hrest hq).tail
    | _ =>
      obtain ⟨rest, hrest, rfl⟩ := Option.map_eq_some_iff.1 h
      rcases List.mem_cons.1 hq with rfl | hq
      · exact .inl ⟨.head _, rfl⟩
      · exact (ih hrest hq).tail

theorem two_le_length (hnil : ps ≠ []) (hone : ∀ p, ps ≠ [p]) : 2 ≤ ps.length := by
  match ps with
  | [] => exact absurd rfl hnil
  | [p] => exact absurd rfl (hone p)
  | _ :: _ :: rest => simp

/-- **A simplified conjunction of parts in normal form is in normal form.** -/
theorem normal_all (hps : ∀ p ∈ ps, p.normal = true) : (all ps).normal = true := by
  unfold all
  split
  · rfl
  · rfl
  · next p hkept => exact ((left_of_mem_conjuncts hkept (.head _)).fits hps).2
  · next kept hnil hone hkept =>
    exact normal_and_iff.2
      ⟨two_le_length hnil hone, fun q hq => (left_of_mem_conjuncts hkept hq).fits hps⟩

/-- **So is a simplified disjunction.** -/
theorem normal_any (hps : ∀ p ∈ ps, p.normal = true) : (any ps).normal = true := by
  unfold any
  split
  · rfl
  · rfl
  · next p hkept => exact ((left_of_mem_disjuncts hkept (.head _)).fits hps).2
  · next kept hnil hone hkept =>
    exact normal_or_iff.2
      ⟨two_le_length hnil hone, fun q hq => (left_of_mem_disjuncts hkept hq).fits hps⟩

/-- **And so is a complement**, as a second one is undone and constants change places. -/
theorem normal_negate {p : Predicate} (hp : p.normal = true) : p.negate.normal = true := by
  cases p with
  | always | never => rfl
  | not inner => exact (normal_not_iff.1 hp).2
  | _ => exact normal_not_iff.2 ⟨rfl, hp⟩

theorem normal_both {p q : Predicate} (hp : p.normal = true) (hq : q.normal = true) :
    (p.both q).normal = true :=
  normal_all (List.forall_mem_cons.2 ⟨hp, List.forall_mem_singleton.2 hq⟩)

theorem normal_either {p q : Predicate} (hp : p.normal = true) (hq : q.normal = true) :
    (p.either q).normal = true :=
  normal_any (List.forall_mem_cons.2 ⟨hp, List.forall_mem_singleton.2 hq⟩)

end Predicate

/-! ## Compilers and guards -/

namespace Filter

open Predicate

variable {e : Entity} {p : Predicate}

/-- A filter on a declared field compiles to a single test. -/
theorem root_of_compileDeclared {f : Field} {operator : FilterOp} {raw : Json}
    (h : compileDeclared f operator raw = .ok p) : p.root = .test := by
  cases operator with
  | eq | ne | gt | gte | lt | lte | among | notAmong =>
    obtain ⟨_, -, rfl⟩ := map_ok h
    rfl
  | contains | startsWith | endsWith =>
    obtain ⟨_, -, rfl⟩ | ⟨_, -, rfl⟩ := compileText_ok h <;> rfl
  | between =>
    obtain ⟨_, _, -, ⟨_, _, -, -, rfl⟩ | ⟨_, _, -, -, rfl⟩⟩ := compileBetween_ok h <;> rfl

/-- **A filter compiles to a single test**, or to none when it leaves nothing out. -/
theorem root_of_compile {f : Filter} (h : compile e f = .ok p) : p.root = .constant ∨ p.root = .test := by
  rcases compile_ok h with ⟨-, h⟩ | ⟨-, ⟨_, -, h⟩ | ⟨-, rfl⟩⟩
  · rcases compileId_ok h with rfl | ⟨_, rfl | rfl⟩ | ⟨_, _, rfl⟩
    · exact .inl rfl
    · exact .inr rfl
    · exact .inr rfl
    · exact .inr rfl
  · exact .inr (root_of_compileDeclared h)
  · exact .inr rfl

theorem normal_compile {f : Filter} (h : compile e f = .ok p) : p.normal = true :=
  normal_of_root (root_of_compile h)

theorem normal_compileAll {fs : List Filter} (h : compileAll e fs = .ok p) : p.normal = true := by
  obtain ⟨ps, hps, rfl⟩ := map_ok h
  refine normal_all fun q hq => ?_
  obtain ⟨f, -, hf⟩ := exists_of_mem_mapM hps hq
  exact normal_compile hf

end Filter

namespace Condition

variable {vars : Variables} {entity? : Option Entity}

theorem normal_comparison {c : Comparison} {p : Predicate} (h : c.compile vars entity? = .ok p) :
    p.normal = true := by
  obtain ⟨value, -, h⟩ := bind_ok h
  cases hfilter : Filter.compile (Comparison.target entity? c.field value) ⟨c.field, c.op, value⟩ with
  | error error =>
    rw [hfilter] at h
    cases h
  | ok q =>
    rw [hfilter] at h
    cases h
    exact Filter.normal_compile hfilter

mutual

/-- **A condition compiles to a predicate in normal form**, whatever its own form. -/
theorem normal_compile (c : Condition) {p : Predicate} (h : c.compile vars entity? = .ok p) :
    p.normal = true := by
  match c with
  | .always | .never =>
    cases h
    rfl
  | .and parts =>
    obtain ⟨ps, hps, rfl⟩ := map_ok h
    exact Predicate.normal_all (normal_compileAll parts hps)
  | .or parts =>
    obtain ⟨ps, hps, rfl⟩ := map_ok h
    exact Predicate.normal_any (normal_compileAll parts hps)
  | .not inner =>
    obtain ⟨q, hq, rfl⟩ := map_ok h
    exact Predicate.normal_negate (normal_compile inner hq)
  | .compare c => exact normal_comparison h

theorem normal_compileAll (parts : List Condition) {ps : List Predicate}
    (h : compileAll vars entity? parts = .ok ps) : ∀ p ∈ ps, p.normal = true := by
  match parts with
  | [] =>
    cases h
    nofun
  | part :: rest =>
    rw [compileAll] at h
    split at h
    · cases h
    · next q hq =>
      obtain ⟨qs, hqs, rfl⟩ := map_ok h
      exact List.forall_mem_cons.2 ⟨normal_compile part hq, normal_compileAll rest hqs⟩

end

end Condition

theorem normal_scopeWhere (tenant entity : String) (deleted : Bool) :
    (scopeWhere tenant entity deleted).normal = true := rfl

/-- The row condition of a permission is in normal form. -/
theorem Permission.normal_rowPredicate {permission : Permission} {vars : Variables} {entity : Entity}
    {p : Predicate} (h : permission.rowPredicate vars entity = .ok p) : p.normal = true := by
  cases hcondition : permission.condition with
  | none =>
    rw [rowPredicate_of_none hcondition] at h
    cases h
    rfl
  | some c => exact c.normal_compile (compile_of_rowPredicate hcondition h)

/-! ## Demands -/

/-- The predicate that a demand puts to the store. -/
def Demand.condition? : Demand → Option Predicate
  | .fetch _ p | .count _ p => some p
  | .list _ q => some q.predicate
  | .write _ _ guard _ _ => some guard
  | _ => none

namespace ServiceRequest

open Predicate

variable {s : Service} {q : ServiceRequest} {entity : Entity} {access : Access}

theorem normal_reachable {deleted : Bool} {id : Uuid} {forced : Predicate} (h : forced.normal = true) :
    (Service.reachable q.ctx entity deleted id forced).normal = true := by
  refine normal_all (List.forall_mem_cons.2 ⟨normal_scopeWhere .., ?_⟩)
  exact List.forall_mem_cons.2 ⟨rfl, List.forall_mem_singleton.2 h⟩

theorem Aims.normal {id : Uuid} {forced : Predicate} (h : q.Aims entity access id forced) :
    forced.normal = true := by
  obtain ⟨permission, -, hrow⟩ := Service.forced_ok h.forced
  exact permission.normal_rowPredicate hrow

/-- **Every predicate that a call puts to the store is in normal form.** -/
theorem Makes.normal {d : Demand} {p : Predicate} (h : q.Makes s entity access d)
    (hp : d.condition? = some p) : p.normal = true := by
  have hquery {request : ListRequest} {mask : FieldMask} {query : ListQuery}
      (hasks : s.listQuery q.ctx access entity request = .ok (mask, query)) :
      query.predicate.normal = true := by
    obtain ⟨permission, filters, condition, sort, -, -, hfilters, hrow, -, -, rfl⟩ :=
      Service.listQuery_ok hasks
    exact normal_both (normal_both (normal_scopeWhere ..) (Filter.normal_compileAll hfilters))
      (permission.normal_rowPredicate hrow)
  cases h <;> cases hp
  case fetch aims => exact normal_reachable aims.normal
  case explain id => exact normal_both (normal_scopeWhere ..) rfl
  case write aims writes => exact normal_both (normal_reachable aims.normal) rfl
  case target id find => exact normal_both (normal_scopeWhere ..) rfl
  case total operation asks => exact hquery asks
  case page operation asks => exact hquery asks
  case targets ids find => exact normal_both (normal_scopeWhere ..) rfl

end ServiceRequest

/-! ## Meaning and form -/

namespace Predicate

/-- What the compilers and the guards build. -/
inductive Built : Predicate → Prop
  | filter {e : Entity} {f : Filter} {p : Predicate} (compiles : Filter.compile e f = .ok p) : Built p
  | filters {e : Entity} {fs : List Filter} {p : Predicate} (compiles : Filter.compileAll e fs = .ok p) :
      Built p
  | condition {vars : Variables} {entity? : Option Entity} {c : Condition} {p : Predicate}
      (compiles : c.compile vars entity? = .ok p) : Built p
  | scope (tenant entity : String) (deleted : Bool) : Built (scopeWhere tenant entity deleted)
  | byId (id : Uuid) : Built (byId id)
  | unlocked : Built unlocked

theorem Built.normal {p : Predicate} (h : p.Built) : p.normal = true := by
  cases h with
  | filter compiles => exact Filter.normal_compile compiles
  | filters compiles => exact Filter.normal_compileAll compiles
  | condition compiles => exact Condition.normal_compile _ compiles
  | scope tenant entity deleted => exact normal_scopeWhere tenant entity deleted
  | byId | unlocked => rfl

/-- **Simplifying keeps the meaning and the normal form.** A conjunction holds where all its parts do, a
disjunction where one does, a complement where its inner predicate does not. All of them are in normal form
if their parts are, and so is whatever compilers and guards build and whatever a call puts to the store;
none of this has an empty connective. -/
theorem meaning_and_form_kept :
    (∀ (source : FieldSource) (ps : List Predicate) (p q : Predicate),
      ((all ps).holds source = true ↔ ∀ p ∈ ps, p.holds source = true) ∧
      ((any ps).holds source = true ↔ ∃ p ∈ ps, p.holds source = true) ∧
      ((p.both q).holds source = true ↔ p.holds source = true ∧ q.holds source = true) ∧
      ((p.either q).holds source = true ↔ p.holds source = true ∨ q.holds source = true) ∧
      (p.negate.holds source = true ↔ ¬p.holds source = true)) ∧
    (∀ ps : List Predicate, (∀ p ∈ ps, p.normal = true) → (all ps).normal = true ∧ (any ps).normal = true) ∧
    (∀ p q : Predicate, p.normal = true → q.normal = true →
      (p.both q).normal = true ∧ (p.either q).normal = true ∧ p.negate.normal = true) ∧
    (∀ p : Predicate, p.Built → p.normal = true ∧ p.full = true) ∧
    ∀ (s : Service) (q : ServiceRequest) (entity : Entity) (access : Access) (d : Demand) (p : Predicate),
      q.Makes s entity access d → d.condition? = some p → p.normal = true ∧ p.full = true := by
  refine ⟨?_, ?_, ?_, ?_, ?_⟩
  · intro source ps p q
    refine ⟨?_, ?_, ?_, ?_, ?_⟩
    · rw [holds_all, List.all_eq_true]
    · rw [holds_any, List.any_eq_true]
    · rw [holds_both, Bool.and_eq_true]
    · rw [holds_either, Bool.or_eq_true]
    · rw [holds_negate, Bool.not_eq_true', Bool.not_eq_true]
  · intro ps hps
    exact ⟨normal_all hps, normal_any hps⟩
  · intro p q hp hq
    exact ⟨normal_both hp hq, normal_either hp hq, normal_negate hp⟩
  · intro p hp
    exact ⟨hp.normal, full_of_normal p hp.normal⟩
  · intro s q entity access d p hd hp
    have hnormal := hd.normal hp
    exact ⟨hnormal, full_of_normal p hnormal⟩

namespace NormalSample

def flag (name : String) : Condition := .compare ⟨name, .eq, .bool true⟩

/-- Connectives below connectives of their kind, constants among their parts, and two complements. -/
def nested : Condition :=
  .not (.or [.not (flag "paid"), .never,
    .not (.not (.and [.always, flag "sent", .and [flag "open", flag "due"], .or [flag "late"]]))])

def test (name : String) : Predicate := .eq name (.bool true)

def simplified : Predicate :=
  .not (.or [.not (test "paid"), .and [test "sent", test "open", test "due", test "late"]])

end NormalSample

open NormalSample in
/-- A nested condition loses its constants and all connectives that say nothing. -/
theorem nested_condition_normal :
    nested.compile .empty none = .ok simplified ∧ simplified.normal = true ∧ simplified.full = true ∧
      (all [simplified, .and [test "open", test "due"]]).normal = true := by
  have hcompiles : nested.compile .empty none = .ok simplified := rfl
  obtain ⟨-, hlists, -, hbuilt, -⟩ := meaning_and_form_kept
  obtain ⟨hnormal, hfull⟩ := hbuilt simplified (.condition hcompiles)
  have hparts : ∀ p ∈ [simplified, .and [test "open", test "due"]], p.normal = true :=
    List.forall_mem_cons.2 ⟨hnormal, List.forall_mem_singleton.2 rfl⟩
  exact ⟨hcompiles, hnormal, hfull, (hlists _ hparts).1⟩

end Predicate

end Dossier
