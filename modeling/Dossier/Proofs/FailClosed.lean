import Dossier.Proofs.Condition
import Dossier.Proofs.Interleaving

/-!
# Conditions that make no sense admit nothing

A permission whose row condition cannot be compiled must not become a permission without one. Each
operation on existing records compiles the condition before it asks the store for anything, so the
call ends with the access that it was granted: it is refused, and the store has neither been read
nor written (`Call.EndsOnAccess`).

Main result: `compiled_exactly_or_denied`, which puts this beside what a compiled condition means.
-/

namespace Dossier

/-! ## Calls that end on their access -/

/-- A call that asks for the access of its caller and, once that is granted, ends without asking
for anything else. -/
def Call.EndsOnAccess {α : Type} (c : Call α) (caller : Caller) (access : Access)
    (result : Except Fault α) : Prop :=
  ∃ next, c = .ask (.access caller) next ∧ next (.ok access) = .done result

theorem Call.EndsOnAccess.bind_error {α β : Type} {c : Call α} {caller : Caller} {access : Access}
    {fault : Fault} (h : c.EndsOnAccess caller access (.error fault)) (f : α → Call β) :
    (c >>= f).EndsOnAccess caller access (.error fault) := by
  obtain ⟨next, rfl, hnext⟩ := h
  refine ⟨fun answer => (next answer).bind f, rfl, ?_⟩
  dsimp only
  rw [hnext]
  rfl

namespace Service

variable {s : Service} {ctx : Context} {entity : Entity} {access : Access}
    {permission : Permission} {condition : Condition} {error : ConditionError}

theorem enter_endsOnAccess {α : Type} {name : String} (hfind : s.schema.find name = .ok entity)
    {f : Entity × Access → Call α} {result : Except Fault α}
    (hf : f (entity, access) = .done result) :
    (s.enter ctx name >>= f).EndsOnAccess ctx.toCaller access result := by
  refine ⟨fun answer => ((Call.done answer).bind fun access => pure (entity, access)).bind f,
    ?_, hf⟩
  show (((Call.done _).bind _).bind f) = _
  rw [hfind]
  rfl

theorem rowPredicate_denied {vars : Variables} (hcondition : permission.condition = some condition)
    (herror : condition.compile vars (some entity) = .error error) :
    permission.rowPredicate vars entity = .error Fault.conditionDenied := by
  rw [Permission.rowPredicate, hcondition]
  show (condition.compile vars (some entity)).mapError _ = _
  rw [herror]
  rfl

theorem forced_denied {action : Action}
    (hauth : access.authorize entity.name action = .ok permission)
    (hrow : permission.rowPredicate (ctx.variables access) entity = .error Fault.conditionDenied) :
    forced ctx access entity action = .error Fault.conditionDenied := by
  rw [forced, hauth]
  exact hrow

/-- The filters of a list request are looked at before the condition, so theirs may be the error. -/
theorem listQuery_denied (request : ListRequest)
    (hauth : access.authorize entity.name .read = .ok permission)
    (hrow : permission.rowPredicate (ctx.variables access) entity = .error Fault.conditionDenied) :
    ∃ fault, s.listQuery ctx access entity request = .error fault := by
  unfold listQuery
  rw [hauth]
  show ∃ fault, (permission.checkFilters request.filters >>= fun _ => _) = Except.error fault
  cases permission.checkFilters request.filters with
  | error fault => exact ⟨fault, rfl⟩
  | ok _ =>
    show ∃ fault, ((Filter.compileAll entity request.filters).mapError Fault.ofFilterError >>=
      fun _ => _) = Except.error fault
    cases (Filter.compileAll entity request.filters).mapError Fault.ofFilterError with
    | error fault => exact ⟨fault, rfl⟩
    | ok filters =>
      refine ⟨.conditionDenied, ?_⟩
      show (permission.rowPredicate _ _ >>= fun _ => _) = _
      rw [hrow]
      rfl

/-- Deletion and restoration end in the same way. -/
theorem mark_denied {name id : String} {deleted : Bool} {w : Write} {logged : Action}
    (hfind : s.schema.find name = .ok entity)
    (hforced : forced ctx access entity .delete = .error Fault.conditionDenied) :
    (s.mark ctx name id deleted w logged).EndsOnAccess ctx.toCaller access
      (.error .conditionDenied) := by
  refine enter_endsOnAccess hfind ?_
  dsimp only
  rw [hforced]
  rfl

end Service

/-! ## Requests -/

namespace ServiceRequest

open Service

variable {s : Service} {q : ServiceRequest} {entity : Entity} {access : Access}
    {permission : Permission}

/-- **A request on existing records whose condition does not compile ends before the store is asked
for anything**, with the refusal of the condition unless it is a list request whose filters are
refused first. -/
theorem endsOnAccess_of_denied (hexisting : ∀ payload, q.operation ≠ .create payload)
    (hfind : s.schema.find q.entity = .ok entity)
    (hauth : access.authorize entity.name q.operation.action = .ok permission)
    (hrow : permission.rowPredicate (q.ctx.variables access) entity =
      .error Fault.conditionDenied) :
    ∃ fault, (q.call s).EndsOnAccess q.ctx.toCaller access (.error fault) ∧
      ((∀ request, q.operation ≠ .list request) → fault = .conditionDenied) := by
  have hforced : forced q.ctx access entity q.operation.action = .error Fault.conditionDenied :=
    forced_denied hauth hrow
  unfold call
  cases hop : q.operation with
  | create payload => exact absurd hop (hexisting payload)
  | get id =>
    rw [hop] at hforced
    refine ⟨.conditionDenied, Call.EndsOnAccess.bind_error (enter_endsOnAccess hfind ?_) _,
      fun _ => rfl⟩
    dsimp only
    rw [show forced q.ctx access entity .read = _ from hforced]
    rfl
  | list request =>
    rw [hop] at hauth
    obtain ⟨fault, hfault⟩ := listQuery_denied (s := s) request hauth hrow
    refine ⟨fault, Call.EndsOnAccess.bind_error (enter_endsOnAccess hfind ?_) _,
      fun h => absurd rfl (h request)⟩
    dsimp only
    rw [hfault]
    rfl
  | update id payload =>
    rw [hop] at hforced hauth
    refine ⟨.conditionDenied, Call.EndsOnAccess.bind_error (enter_endsOnAccess hfind ?_) _,
      fun _ => rfl⟩
    dsimp only
    rw [show access.authorize entity.name .update = _ from hauth,
      show forced q.ctx access entity .update = _ from hforced]
    rfl
  | delete id =>
    rw [hop] at hforced
    exact ⟨.conditionDenied, (mark_denied hfind hforced).bind_error _, fun _ => rfl⟩
  | restore id =>
    rw [hop] at hforced
    exact ⟨.conditionDenied, (mark_denied hfind hforced).bind_error _, fun _ => rfl⟩

end ServiceRequest

namespace Condition

/-- **A condition is compiled to exactly what it says, or access is denied.** Where all comparisons
compile, the predicate holds where the condition is true, each comparison read as its own predicate.
Where one does not, compilation has the error of the first that does not. And a request to get,
list, update, delete or restore records under a condition that does not compile fails, all but
a list request with the refusal of the condition, having asked for nothing but the access of its
caller. -/
theorem compiled_exactly_or_denied :
    (∀ (c : Condition) (vars : Variables) (entity? : Option Entity),
      (∀ pred : Comparison → Predicate,
        (∀ leaf ∈ c.leaves, leaf.compile vars entity? = .ok (pred leaf)) →
        ∃ p, c.compile vars entity? = .ok p ∧
          ∀ source, p.holds source = c.truth fun leaf => (pred leaf).holds source) ∧
      ∀ before leaf after error, c.leaves = before ++ leaf :: after →
        (∀ earlier ∈ before, ∃ p, earlier.compile vars entity? = .ok p) →
        leaf.compile vars entity? = .error error → c.compile vars entity? = .error error) ∧
    ∀ (s : Service) (q : ServiceRequest) (entity : Entity) (access : Access)
      (permission : Permission) (condition : Condition) (error : ConditionError),
      (∀ payload, q.operation ≠ .create payload) → s.schema.find q.entity = .ok entity →
      access.authorize entity.name q.operation.action = .ok permission →
      permission.condition = some condition →
      condition.compile (q.ctx.variables access) (some entity) = .error error →
      ∃ fault, (q.call s).EndsOnAccess q.ctx.toCaller access (.error fault) ∧
        ((∀ request, q.operation ≠ .list request) → fault = .conditionDenied) := by
  constructor
  · intro c vars entity?
    constructor
    · intro pred hleaves
      exact c.compile_of_leaves hleaves
    · intro before leaf after error heq hbefore hleaf
      exact c.compile_of_first_error ⟨before, leaf, after, heq, hbefore, hleaf⟩
  · intro s q entity access permission condition error hexisting hfind hauth hcondition herror
    have hrow := Service.rowPredicate_denied hcondition herror
    exact ServiceRequest.endsOnAccess_of_denied hexisting hfind hauth hrow

open Sample in
/-- A comparison under two complements means what it says. The comparison with an unknown variable
fails behind a `never`, and a role with this condition is denied the reading of a task. -/
theorem unknown_variable_denied :
    (∃ p, compile ∅ (some task) (.not (.not (.compare ⟨"title", .eq, .string "Plan"⟩))) = .ok p ∧
      p.holds (fun _ => some (.text "Plan")) = true) ∧
    compile ∅ (some task) (.and [.never, .compare ⟨"title", .eq, .string "$user.manager"⟩]) =
      .error (.unknownVariable "$user.manager") ∧
    ∃ access, (ServiceRequest.call service ⟨ctx, task.name, .get "1"⟩).EndsOnAccess ctx.toCaller
      access (.error .conditionDenied) := by
  obtain ⟨hcompile, hdenied⟩ := compiled_exactly_or_denied
  refine ⟨?_, ?_, ?_⟩
  · obtain ⟨p, hp, hholds⟩ :=
      (hcompile (.not (.not (.compare ⟨"title", .eq, .string "Plan"⟩))) ∅ (some task)).1
        (fun _ => .eq "title" (.text "Plan")) (by
          intro leaf hleaf
          obtain rfl := List.mem_singleton.1 hleaf
          rfl)
    exact ⟨p, hp, by rw [hholds]; decide⟩
  · exact (hcompile _ ∅ (some task)).2 [] _ [] _ rfl (fun _ h => nomatch h) rfl
  · let secret : Condition := .compare ⟨"title", .eq, .string "$user.manager"⟩
    let access : Access := ⟨[⟨"guest", (∅ : Dict String EntityGrant).insert task.name
      { read := some { allowed := true, condition := some secret } }⟩]⟩
    obtain ⟨fault, hends, hfault⟩ := hdenied service ⟨ctx, task.name, .get "1"⟩ task access
      { allowed := true, condition := some secret } secret (.unknownVariable "$user.manager")
      (fun _ h => nomatch h) rfl rfl rfl rfl
    rw [hfault fun _ h => nomatch h] at hends
    exact ⟨access, hends⟩

end Condition

end Dossier
