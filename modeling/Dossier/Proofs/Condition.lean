import Dossier.Condition.Compile
import Dossier.Proofs.Predicate
import Mathlib.Tactic.Choose

/-!
# What a compiled condition means

A condition is a tree over comparisons, its leaves. Given the truth of each leaf, the tree has a
truth value as any boolean formula has (`truth`). Compilation works on predicates that flatten,
drop, cut short and cancel; none of this may show.

**Meaning** (`compile_of_leaves`). When every leaf compiles, so does the tree, and its predicate
holds exactly where the tree is true with each leaf read as its own predicate.

**Errors** (`compile_of_first_error`). When a leaf fails, compilation gives the error of the first
that does, from left to right. No constant elsewhere in the tree, such as `never` in a conjunction,
saves it.
-/

namespace Dossier

namespace Condition

/-! ## Trees over comparisons -/

mutual

def leaves : Condition → List Comparison
  | .always => []
  | .never => []
  | .and parts => leavesOfAll parts
  | .or parts => leavesOfAll parts
  | .not inner => inner.leaves
  | .compare c => [c]

def leavesOfAll : List Condition → List Comparison
  | [] => []
  | part :: rest => part.leaves ++ leavesOfAll rest

end

mutual

/-- The truth value of a condition as a boolean formula over its comparisons. -/
def truth (leaf : Comparison → Bool) : Condition → Bool
  | .always => true
  | .never => false
  | .and parts => allTrue leaf parts
  | .or parts => anyTrue leaf parts
  | .not inner => !inner.truth leaf
  | .compare c => leaf c

def allTrue (leaf : Comparison → Bool) : List Condition → Bool
  | [] => true
  | part :: rest => part.truth leaf && allTrue leaf rest

def anyTrue (leaf : Comparison → Bool) : List Condition → Bool
  | [] => false
  | part :: rest => part.truth leaf || anyTrue leaf rest

end

variable {vars : Variables} {entity? : Option Entity} {pred : Comparison → Predicate}

/-! ## Meaning -/

mutual

/-- **A condition whose comparisons compile has a predicate, and this holds where the condition is
true.** -/
theorem compile_of_leaves (c : Condition)
    (h : ∀ leaf ∈ c.leaves, leaf.compile vars entity? = .ok (pred leaf)) :
    ∃ p, c.compile vars entity? = .ok p ∧
      ∀ source, p.holds source = c.truth fun leaf => (pred leaf).holds source := by
  match c with
  | .always => exact ⟨.always, rfl, fun _ => rfl⟩
  | .never => exact ⟨.never, rfl, fun _ => rfl⟩
  | .and parts =>
    obtain ⟨ps, hps, hall, -⟩ := compileAll_of_leaves parts h
    refine ⟨.all ps, by simp [compile, hps, Except.map], fun source => ?_⟩
    rw [Predicate.holds_all, hall, truth]
  | .or parts =>
    obtain ⟨ps, hps, -, hany⟩ := compileAll_of_leaves parts h
    refine ⟨.any ps, by simp [compile, hps, Except.map], fun source => ?_⟩
    rw [Predicate.holds_any, hany, truth]
  | .not inner =>
    obtain ⟨p, hp, htruth⟩ := compile_of_leaves inner h
    refine ⟨p.negate, by simp [compile, hp, Except.map], fun source => ?_⟩
    rw [Predicate.holds_negate, htruth, truth]
  | .compare leaf => exact ⟨pred leaf, h leaf List.mem_cons_self, fun _ => rfl⟩

theorem compileAll_of_leaves (parts : List Condition)
    (h : ∀ leaf ∈ leavesOfAll parts, leaf.compile vars entity? = .ok (pred leaf)) :
    ∃ ps, compileAll vars entity? parts = .ok ps ∧
      (∀ source, (ps.all fun p => p.holds source) =
        allTrue (fun leaf => (pred leaf).holds source) parts) ∧
      ∀ source, (ps.any fun p => p.holds source) =
        anyTrue (fun leaf => (pred leaf).holds source) parts := by
  match parts with
  | [] => exact ⟨[], rfl, fun _ => rfl, fun _ => rfl⟩
  | part :: rest =>
    obtain ⟨p, hp, htruth⟩ :=
      compile_of_leaves part fun leaf hleaf => h leaf (List.mem_append_left _ hleaf)
    obtain ⟨ps, hps, hall, hany⟩ :=
      compileAll_of_leaves rest fun leaf hleaf => h leaf (List.mem_append_right _ hleaf)
    refine ⟨p :: ps, by simp [compileAll, hp, hps, Except.map], fun source => ?_, fun source => ?_⟩
    · rw [List.all_cons, htruth, hall, allTrue]
    · rw [List.any_cons, htruth, hany, anyTrue]

end

/-- Parts that each compile, compiled one after the other. -/
theorem compileAll_map {α : Type} {xs : List α} {part : α → Condition} {own : α → Predicate}
    (h : ∀ x ∈ xs, (part x).compile vars entity? = .ok (own x)) :
    compileAll vars entity? (xs.map part) = .ok (xs.map own) := by
  induction xs with
  | nil => rfl
  | cons x rest ih =>
    rw [List.map_cons, compileAll, h x List.mem_cons_self,
      ih fun y hy => h y (List.mem_cons_of_mem _ hy)]
    rfl

/-! ## Errors -/

/-- The first comparison of a list that does not compile fails with the given error. -/
def FirstError (vars : Variables) (entity? : Option Entity) (leaves : List Comparison)
    (error : ConditionError) : Prop :=
  ∃ before leaf after, leaves = before ++ leaf :: after ∧
    (∀ earlier ∈ before, ∃ p, earlier.compile vars entity? = .ok p) ∧
    leaf.compile vars entity? = .error error

variable {error : ConditionError}

/-- The first failure in two lists is that of the first list, or that of the second one after a
first without any. -/
theorem FirstError.append_cases {leaves others : List Comparison}
    (h : FirstError vars entity? (leaves ++ others) error) :
    FirstError vars entity? leaves error ∨
      ((∀ leaf ∈ leaves, ∃ p, leaf.compile vars entity? = .ok p) ∧
        FirstError vars entity? others error) := by
  obtain ⟨before, leaf, after, heq, hbefore, hleaf⟩ := h
  rcases List.append_eq_append_iff.1 heq with ⟨gap, rfl, hothers⟩ | ⟨gap, rfl, hgap⟩
  · exact Or.inr ⟨fun k hk => hbefore k (List.mem_append_left _ hk), gap, leaf, after, hothers,
      fun k hk => hbefore k (List.mem_append_right _ hk), hleaf⟩
  · cases gap with
    | nil => exact Or.inr ⟨by simpa using hbefore, [], leaf, after, by simpa using hgap.symm,
        by simp, hleaf⟩
    | cons first rest =>
      obtain ⟨rfl, -⟩ := List.cons.inj hgap
      exact Or.inl ⟨before, leaf, rest, rfl, hbefore, hleaf⟩

mutual

/-- **A condition with a comparison that fails has the error of the first one.** -/
theorem compile_of_first_error (c : Condition) (h : FirstError vars entity? c.leaves error) :
    c.compile vars entity? = .error error := by
  match c with
  | .always | .never =>
    obtain ⟨before, leaf, after, heq, -⟩ := h
    simp [leaves] at heq
  | .and parts => rw [compile, compileAll_of_first_error parts h]; rfl
  | .or parts => rw [compile, compileAll_of_first_error parts h]; rfl
  | .not inner => rw [compile, compile_of_first_error inner h]; rfl
  | .compare leaf =>
    rw [compile]
    obtain ⟨before, failing, after, heq, -, hfailing⟩ := h
    obtain ⟨rfl, rfl, rfl⟩ : before = [] ∧ failing = leaf ∧ after = [] := by
      cases before <;> simp_all [leaves]
    exact hfailing

theorem compileAll_of_first_error (parts : List Condition)
    (h : FirstError vars entity? (leavesOfAll parts) error) :
    compileAll vars entity? parts = .error error := by
  match parts with
  | [] =>
    obtain ⟨before, leaf, after, heq, -⟩ := h
    simp [leavesOfAll] at heq
  | part :: rest =>
    rw [compileAll]
    rcases FirstError.append_cases h with hfirst | ⟨hcompile, hrest⟩
    · rw [compile_of_first_error part hfirst]
    · choose! pred hpred using hcompile
      obtain ⟨p, hp, -⟩ := compile_of_leaves part hpred
      rw [hp, compileAll_of_first_error rest hrest]
      rfl

end

end Condition

end Dossier
