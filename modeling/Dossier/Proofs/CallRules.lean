import Dossier.Service.Call

/-!
# Reasoning about calls

A call is a tree of demands. `Call.Obeys P Q` says that every demand on it meets `P` and every
result meets `Q`, whatever the answers are. The rules below go along the way calls are put
together, so that what a whole operation may ask for follows from what its parts ask for.

Answers are not restricted: what is proved in this way holds under any interference.
-/

namespace Dossier

/-- A statement about the value of a result, with nothing said about failures. -/
def WhenOk {α : Type} (Q : α → Prop) : Except Fault α → Prop
  | .ok a => Q a
  | .error _ => True

/-- A result that is no failure and whose value meets a statement. -/
def Succeeds {α : Type} (Q : α → Prop) : Except Fault α → Prop
  | .ok a => Q a
  | .error _ => False

namespace Call

variable {α β : Type} {P P' : Demand → Prop} {Q Q' : Except Fault α → Prop}
    {R : Except Fault β → Prop}

/-- Every demand of a call meets `P` and every result `Q`, whatever is answered. -/
inductive Obeys (P : Demand → Prop) (Q : Except Fault α → Prop) : Call α → Prop
  | done {result : Except Fault α} (h : Q result) : Obeys P Q (.done result)
  | ask {d : Demand} {next : d.Answer → Call α} (h : P d)
      (rest : ∀ answer, Obeys P Q (next answer)) :
      Obeys P Q (.ask d next)

theorem Obeys.result {result : Except Fault α} (h : (Call.done result).Obeys P Q) : Q result := by
  cases h
  assumption

theorem Obeys.demand {d : Demand} {next : d.Answer → Call α} (h : (Call.ask d next).Obeys P Q) :
    P d := by
  cases h
  assumption

theorem Obeys.next {d : Demand} {next : d.Answer → Call α} (h : (Call.ask d next).Obeys P Q)
    (answer : d.Answer) : (next answer).Obeys P Q := by
  cases h with
  | ask _ rest => exact rest answer

/-! ## Rules -/

theorem bind_assoc {γ : Type} (c : Call α) (f : α → Call β) (g : β → Call γ) :
    c >>= f >>= g = c >>= fun a => f a >>= g := by
  induction c with
  | done result => cases result <;> rfl
  | ask d next ih => exact congrArg (Call.ask d) (funext ih)

theorem Obeys.mono {c : Call α} (h : c.Obeys P Q) (hP : ∀ d, P d → P' d) (hQ : ∀ r, Q r → Q' r) :
    c.Obeys P' Q' := by
  induction h with
  | done h => exact .done (hQ _ h)
  | ask h _ ih => exact .ask (hP _ h) ih

/-- A call followed by another: failures of the first are failures of the whole. -/
theorem Obeys.bind {c : Call α} {f : α → Call β} (h : c.Obeys P Q)
    (ok : ∀ a, Q (.ok a) → (f a).Obeys P R) (error : ∀ fault, Q (.error fault) → R (.error fault)) :
    (c >>= f).Obeys P R := by
  induction h with
  | @done result h =>
    cases result with
    | ok a => exact ok a h
    | error fault => exact .done (error fault h)
  | ask h _ ih => exact .ask h ih

/-- The rule for sequences where nothing is said about failures. -/
theorem Obeys.bind' {S : α → Prop} {T : β → Prop} {c : Call α} {f : α → Call β}
    (h : c.Obeys P (WhenOk S)) (ok : ∀ a, S a → (f a).Obeys P (WhenOk T)) :
    (c >>= f).Obeys P (WhenOk T) :=
  h.bind ok fun _ _ => trivial

theorem obeys_pure {a : α} (h : Q (.ok a)) : (pure a : Call α).Obeys P Q := .done h

/-- A computation between two demands. -/
theorem obeys_done_bind {result : Except Fault α} {f : α → Call β}
    (ok : ∀ a, result = .ok a → (f a).Obeys P R)
    (error : ∀ fault, result = .error fault → R (.error fault)) :
    (Call.done result >>= f).Obeys P R := by
  cases result with
  | ok a => exact ok a rfl
  | error fault => exact .done (error fault rfl)

theorem obeys_done_bind' {T : β → Prop} {result : Except Fault α} {f : α → Call β}
    (ok : ∀ a, result = .ok a → (f a).Obeys P (WhenOk T)) :
      (Call.done result >>= f).Obeys P (WhenOk T) :=
  obeys_done_bind ok fun _ _ => trivial

theorem obeys_fail {T : α → Prop} {fault : Fault} : (Call.fail fault : Call α).Obeys P (WhenOk T) :=
  .done trivial

/-- A demand that is answered in any case, followed by a call. -/
theorem obeys_demand_bind {d : Demand} {f : d.Answer → Call β} (h : P d)
    (rest : ∀ answer, (f answer).Obeys P R) :
    (Call.demand d >>= f).Obeys P R :=
  .ask h rest

/-- A demand on the store, which may fail, followed by a call. -/
theorem obeys_store_bind {T : β → Prop} {d : Demand} {answered : d.Answer → Except StoreError α}
    {f : α → Call β} (h : P d) (rest : ∀ a, (f a).Obeys P (WhenOk T)) :
    ((Call.ask d fun answer => Call.ofStore (answered answer)) >>= f).Obeys P (WhenOk T) :=
  .ask h fun answer => by
    show ((Call.ofStore (answered answer)).bind f).Obeys P _
    cases answered answer with
    | ok a => exact rest a
    | error error => exact .done trivial

/-- Who decides about a new record may also fail. -/
theorem obeys_approval_bind {T : β → Prop} {workflows : Workflows} {caller : Caller} {entity : Entity}
    {draft : Draft} {f : Option Approval → Call β} (h : P (.approval workflows caller entity draft))
    (rest : ∀ state, (f state).Obeys P (WhenOk T)) :
    (Call.approval workflows caller entity draft >>= f).Obeys P (WhenOk T) :=
  .ask h fun answer => by
    cases answer with
    | ok state => exact rest state
    | error error => exact .done trivial

theorem Obeys.whenOk {T : α → Prop} {c : Call α} (h : c.Obeys P (Succeeds T)) :
    c.Obeys P (WhenOk T) :=
  h.mono (fun _ h => h) fun r h => by
    cases r with
    | ok a => exact h
    | error fault => trivial

end Call

end Dossier
