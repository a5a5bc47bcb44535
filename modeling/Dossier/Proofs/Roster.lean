import Dossier.Access.Roster
import Dossier.Proofs.Dict
import Mathlib.Data.List.Basic
import Mathlib.Data.List.Induction

/-!
# What the roster gives to whom

A roster is built by defining roles and giving them to users, in any order (`Roster.Change`).

**What should count.** The role names that were given to the very tenant and user (`given`), in order, and
for each name its latest definition (`latest`).

**What does count.** A tenant and a user are told from others by one text, with a slash between them, and a
slash may stand in either. So a role counts for everyone whose text is that of the one it was given to
(`held`). Two texts are the same only where one tenant continues, past a slash, into what is the other's
user (`Blurred`); where no tenant has a slash in it this does not happen (`Blurred.slash`).

Main result: `rolesOf_build`.
-/

namespace Dossier

namespace Roster

inductive Change where
  | define (role : Role)
  | assign (tenant user role : String)

def apply (r : Roster) : Change → Roster
  | .define role => r.define role
  | .assign tenant user role => r.assign tenant user role

/-- The roster that some changes lead to, the oldest first. -/
def build (changes : List Change) : Roster := changes.foldl apply {}

namespace Change

def definition? (name : String) : Change → Option Role
  | .define role => if role.name = name then some role else none
  | .assign .. => none

/-- The role that a change gives to a user of a tenant. -/
def gives? (tenant user : String) : Change → Option String
  | .assign t u role => if t = tenant ∧ u = user then some role else none
  | .define _ => none

def reaches? (key : String) : Change → Option String
  | .assign t u role => if holder t u = key then some role else none
  | .define _ => none

end Change

def latest (changes : List Change) (name : String) : Option Role :=
  changes.reverse.findSome? (Change.definition? name)

/-- The role names that were given to a user of a tenant, in order. -/
def given (changes : List Change) (tenant user : String) : List String :=
  changes.filterMap (Change.gives? tenant user)

/-- The role names that were given to a holder, in order. -/
def held (changes : List Change) (key : String) : List String :=
  changes.filterMap (Change.reaches? key)

/-- Two users are different, and yet make one holder: the one's tenant goes on, past a slash, into what is
the other's user. -/
def Blurred (tenant user tenant' user' : String) : Prop :=
  ∃ middle, (tenant' = tenant ++ "/" ++ middle ∧ user = middle ++ "/" ++ user') ∨
    (tenant = tenant' ++ "/" ++ middle ∧ user' = middle ++ "/" ++ user)

/-! ## Holders -/

theorem toList_holder (tenant user : String) :
    (holder tenant user).toList = tenant.toList ++ '/' :: user.toList := by
  simp [holder, String.toList_append]

/-- If a tenant ends where another one goes on, what follows its slash is the rest of the other's. -/
theorem eq_or_middle {t u t' u' : String} {gap : List Char} (htenant : t'.toList = t.toList ++ gap)
    (huser : '/' :: u.toList = gap ++ '/' :: u'.toList) :
    (t = t' ∧ u = u') ∨ ∃ middle, t' = t ++ "/" ++ middle ∧ u = middle ++ "/" ++ u' := by
  cases gap with
  | nil =>
    refine .inl ⟨?_, ?_⟩
    · simpa [String.toList_inj, eq_comm] using htenant
    · simpa [String.toList_inj] using huser
  | cons c rest =>
    obtain ⟨rfl, hrest⟩ := List.cons.inj huser
    refine .inr ⟨String.ofList rest, ?_, ?_⟩
    · rw [← String.toList_inj, htenant]
      simp [String.toList_append]
    · rw [← String.toList_inj, hrest]
      simp [String.toList_append]

theorem holder_eq_iff {t u t' u' : String} :
    holder t u = holder t' u' ↔ (t = t' ∧ u = u') ∨ Blurred t u t' u' := by
  constructor
  · intro h
    have hlists : t.toList ++ '/' :: u.toList = t'.toList ++ '/' :: u'.toList := by
      rw [← toList_holder, ← toList_holder, h]
    rcases List.append_eq_append_iff.1 hlists with ⟨gap, htenant, huser⟩ | ⟨gap, htenant, huser⟩
    · rcases eq_or_middle htenant huser with heq | ⟨middle, hmiddle⟩
      · exact .inl heq
      · exact .inr ⟨middle, .inl hmiddle⟩
    · rcases eq_or_middle htenant huser with ⟨rfl, rfl⟩ | ⟨middle, hmiddle⟩
      · exact .inl ⟨rfl, rfl⟩
      · exact .inr ⟨middle, .inr hmiddle⟩
  · rintro (⟨rfl, rfl⟩ | ⟨middle, ⟨rfl, rfl⟩ | ⟨rfl, rfl⟩⟩)
    · rfl
    · simp [holder, String.append_assoc]
    · simp [holder, String.append_assoc]

theorem Blurred.slash {t u t' u' : String} (h : Blurred t u t' u') : '/' ∈ t.toList ∨ '/' ∈ t'.toList := by
  obtain ⟨middle, ⟨rfl, -⟩ | ⟨rfl, -⟩⟩ := h
  · exact .inr (by simp [String.toList_append])
  · exact .inl (by simp [String.toList_append])

/-! ## Histories -/

theorem build_append (changes : List Change) (change : Change) :
    build (changes ++ [change]) = (build changes).apply change := List.foldl_concat ..

theorem latest_append (changes : List Change) (change : Change) (name : String) :
    latest (changes ++ [change]) name = (change.definition? name).or (latest changes name) := by
  unfold latest
  rw [List.reverse_concat, List.findSome?_cons]
  cases change.definition? name <;> rfl

/-- What is found under a name is its latest definition. The induction is on the changes, the last one
first, as it replaces what the others defined. -/
theorem get?_roles_build (changes : List Change) (name : String) :
    (build changes).roles.get? name = latest changes name := by
  induction changes using List.reverseRecOn with
  | nil => rfl
  | append_singleton changes change ih =>
    rw [build_append, latest_append, ← ih]
    cases change with
    | define role =>
      show ((build changes).roles.insert role.name role).get? name = _
      rw [Dict.get?_insert, Change.definition?]
      by_cases hname : role.name = name
      · rw [if_pos hname.symm, if_pos hname, Option.some_or]
      · rw [if_neg (Ne.symm hname), if_neg hname, Option.none_or]
    | assign t u role => rfl

/-- What stands under a holder are the names given to it, in order. -/
theorem get?_assignments_build (changes : List Change) (key : String) :
    ((build changes).assignments.get? key).getD [] = held changes key := by
  induction changes using List.reverseRecOn with
  | nil => rfl
  | append_singleton changes change ih =>
    rw [build_append, held, List.filterMap_append, ← held, ← ih]
    cases change with
    | define role => simp [apply, define, Change.reaches?]
    | assign t u role =>
      show (((build changes).assignments.insert (holder t u) _).get? key).getD [] = _
      rw [Dict.get?_insert]
      by_cases hkey : holder t u = key
      · simp [Change.reaches?, hkey]
      · simp [Change.reaches?, hkey, Ne.symm hkey]

/-- A roster read from definitions is built by them. -/
theorem ofRoles_eq_build (roles : List Role) : ofRoles roles = build (roles.map .define) := by
  rw [build, List.foldl_map]
  rfl

theorem gives?_eq_reaches? {change : Change} {tenant user : String}
    (h : ∀ t u role, change = .assign t u role → ¬ Blurred t u tenant user) :
    change.gives? tenant user = change.reaches? (holder tenant user) := by
  cases change with
  | define role => rfl
  | assign t u role =>
    have hiff : holder t u = holder tenant user ↔ t = tenant ∧ u = user :=
      holder_eq_iff.trans (or_iff_left (h t u role rfl))
    simp only [Change.gives?, Change.reaches?, hiff]

/-! ## The roles of a user -/

/-- The roles of a user are the latest definitions of those given to its holder, in order, undefined ones
left out. The holder is the user's own, so that these are the roles given to the very tenant and user,
unless one was given to someone blurred with it; and giving a role to anyone else changes nothing. -/
theorem rolesOf_build (changes : List Change) (tenant user : String) :
    (build changes).rolesOf tenant user =
      (held changes (holder tenant user)).filterMap (latest changes) ∧
    (∀ t u, holder t u = holder tenant user ↔ (t = tenant ∧ u = user) ∨ Blurred t u tenant user) ∧
    ((∀ t u role, .assign t u role ∈ changes → ¬ Blurred t u tenant user) →
      (build changes).rolesOf tenant user = (given changes tenant user).filterMap (latest changes)) ∧
    (∀ t u role, ¬ (t = tenant ∧ u = user) → ¬ Blurred t u tenant user →
      (build (changes ++ [.assign t u role])).rolesOf tenant user =
        (build changes).rolesOf tenant user) := by
  have hroles : ∀ changes : List Change, (build changes).rolesOf tenant user =
      (held changes (holder tenant user)).filterMap (latest changes) := by
    intro changes
    rw [rolesOf, get?_assignments_build]
    exact List.filterMap_congr fun name _ => get?_roles_build changes name
  refine ⟨hroles changes, fun _ _ => holder_eq_iff, fun hclear => ?_, fun t u role hother hclear => ?_⟩
  · have hsame : given changes tenant user = held changes (holder tenant user) :=
      List.filterMap_congr fun change hmem =>
        gives?_eq_reaches? fun t u role heq => hclear t u role (heq ▸ hmem)
    rw [hroles, hsame]
  · have hkey : holder t u ≠ holder tenant user := fun h => (holder_eq_iff.1 h).elim hother hclear
    have hheld : held (changes ++ [.assign t u role]) (holder tenant user) =
        held changes (holder tenant user) := by
      simp [held, Change.reaches?, hkey]
    rw [hroles, hroles, hheld]
    refine List.filterMap_congr fun name _ => ?_
    rw [latest_append, Change.definition?, Option.none_or]

namespace Sample

def clerk : Role := { name := "clerk" }

/-- The same role with more to it. -/
def busyClerk : Role := { name := "clerk", entities := Dict.ofList [("task", {})] }

def history : List Change :=
  [.define clerk, .assign "acme" "ann" "clerk", .assign "acme" "ann" "auditor",
    .assign "apex" "ann" "clerk", .define busyClerk]

end Sample

theorem clerk_redefined :
    (build Sample.history).rolesOf "acme" "ann" = [Sample.busyClerk] ∧
    (build (Sample.history ++ [.assign "apex" "bob" "clerk"])).rolesOf "acme" "bob" =
      (build Sample.history).rolesOf "acme" "bob" := by
  have hplain : ∀ {t u u' : String}, '/' ∉ t.toList → ¬ Blurred t u "acme" u' := fun hslash h =>
    h.slash.elim hslash (by decide)
  refine ⟨((rolesOf_build Sample.history "acme" "ann").2.2.1 fun t u role hmem => hplain ?_).trans ?_,
    (rolesOf_build Sample.history "acme" "bob").2.2.2 "apex" "bob" "clerk" (by decide) (hplain (by decide))⟩
  · simp only [Sample.history, List.mem_cons, Change.assign.injEq, reduceCtorEq, List.not_mem_nil] at hmem
    rcases hmem with h | ⟨rfl, -, -⟩ | ⟨rfl, -, -⟩ | ⟨rfl, -, -⟩ | h | h
    · exact h.elim
    · decide
    · decide
    · decide
    · exact h.elim
    · exact h.elim
  · rfl

/-- A role that was given to a user of one tenant counts for a user of another tenant. -/
theorem role_reaches_other_tenant :
    given [.define Sample.clerk, .assign "a/b" "c" "clerk"] "a" "b/c" = [] ∧
    (build [.define Sample.clerk, .assign "a/b" "c" "clerk"]).rolesOf "a" "b/c" = [Sample.clerk] :=
  ⟨rfl, rfl⟩

end Roster

end Dossier
