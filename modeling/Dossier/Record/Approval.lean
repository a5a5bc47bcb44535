import Dossier.Json.Structure
import Dossier.Time.Text

/-!
# Approvals

A record can be in an approval workflow. While its approval is pending, nobody may change it.
-/

namespace Dossier

inductive ApprovalStatus where
  | draft
  | pending
  | approved
  | rejected
deriving DecidableEq

namespace ApprovalStatus

def name : ApprovalStatus → String
  | .draft => "draft"
  | .pending => "pending"
  | .approved => "approved"
  | .rejected => "rejected"

def ofName? (name : String) : Option ApprovalStatus :=
  [draft, .pending, .approved, .rejected].find? fun s => s.name == name

end ApprovalStatus

/-- A step that a workflow has taken with a record. -/
structure ApprovalStep where
  step : Nat
  action : String
  actor : String
  comment : Option String
  time : Instant
deriving DecidableEq

structure Approval where
  status : ApprovalStatus
  currentStep : Nat
  workflow : String
  history : List ApprovalStep
deriving DecidableEq

def Json.instant? : Json → Option Instant
  | .string s => Instant.readStored? s
  | _ => none

/-- Step numbers are below this bound. -/
def stepBound : Nat := 0x100000000

namespace ApprovalStep

def ofJson? (document : Json) : Option ApprovalStep := do
  match ← document.parts? ["step", "action", "actor", "comment", "at"] with
  | [step, action, actor, comment, time] =>
    some {
      step := ← Json.needed? (Json.nat? stepBound) step
      action := ← Json.needed? Json.text? action
      actor := ← Json.needed? Json.text? actor
      comment := ← Json.optional? Json.text? comment
      time := ← Json.needed? Json.instant? time }
  | _ => none

def render (s : ApprovalStep) : Json :=
  .ofMembers [("step", .number (.int s.step)), ("action", .string s.action), ("actor", .string s.actor),
    ("comment", (s.comment.map Json.string).getD .null), ("at", .string s.time.text)]

end ApprovalStep

namespace Approval

def entered (workflow : String) : Approval := ⟨.pending, 1, workflow, []⟩

/-- A workflow that a new record enters: its author submits it. -/
def submitted (workflow author : String) (time : Instant) : Approval :=
  { entered workflow with history := [⟨0, "submitted", author, none, time⟩] }

def ofJson? (document : Json) : Option Approval := do
  match ← document.parts? ["status", "current_step", "workflow_id", "history"] with
  | [status, currentStep, workflow, history] =>
    some {
      status := ← Json.needed? Json.choice? status >>= ApprovalStatus.ofName?
      currentStep := ← Json.needed? (Json.nat? stepBound) currentStep
      workflow := ← Json.needed? Json.text? workflow
      history := ← Json.given? [] (Json.list? ApprovalStep.ofJson?) history }
  | _ => none

def render (a : Approval) : Json :=
  .ofMembers [("status", .string a.status.name), ("current_step", .number (.int a.currentStep)),
    ("workflow_id", .string a.workflow), ("history", .array (a.history.map ApprovalStep.render))]

end Approval

end Dossier
