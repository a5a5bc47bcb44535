import Dossier.Access.Grant
import Dossier.Notify.Notification
import Dossier.Service.AuditEntry
import Dossier.Service.Workflows
import Dossier.Store.Query

/-!
# Calls of the service

A call is what the service does for one request, written down as the demands it makes on its
surroundings: the caller's access, the store, the files, the workflows, the audit trail and the
notifiers. Between two demands a call only computes.

A demand is one step. Other calls, and workflows, may come in between two demands of a call but not into
one, so a guarded write is checked and done at once. Identifiers and times of writes belong to the
surroundings, which give them out when a write reaches the store.
-/

namespace Dossier

/-- A request that is served: who asks for what tenant, and when. -/
structure Context extends Caller where
  now : Instant

/-- A record about to be created. -/
structure Draft where
  tenant : String
  entity : String
  author : String
  data : Dict String Value
  approval : Option Approval := none

def Draft.record (d : Draft) (id : Uuid) (time : Instant) : Record :=
  (Record.create id d.tenant d.entity ⟨d.author, time⟩ d.data).withApproval d.approval

structure StoredFile where
  id : String
  originalName : String
  url : String

/-- What a call asks of its surroundings. -/
inductive Demand where
  | access (caller : Caller)
  | fetch (entity : Entity) (p : Predicate)
  | list (entity : Entity) (q : ListQuery)
  | count (entity : Entity) (p : Predicate)
  /-- The state of approval that a new record of a caller begins in. -/
  | approval (workflows : Workflows) (caller : Caller) (entity : Entity) (draft : Draft)
  | create (entity : Entity) (draft : Draft)
  | write (entity : Entity) (id : Uuid) (guard : Predicate) (w : Write) (actor : String)
  /-- A file of a tenant; nothing comes back if it is unknown or cannot be looked up. -/
  | file (tenant id : String)
  | audit (entry : AuditEntry)
  | notify (n : Notification)

/-- What comes back. -/
abbrev Demand.Answer : Demand → Type
  | .access _ => Except Fault Access
  | .fetch .. => Except StoreError (Option Record)
  | .list .. => Except StoreError (List Record)
  | .count .. => Except StoreError Nat
  | .approval .. => Except ObserverError (Option Approval)
  | .create .. => Except StoreError Record
  | .write .. => Except StoreError (Option Record)
  | .file .. => Option StoredFile
  | .audit _ => Unit
  | .notify _ => Unit

/-- What the service does for one request. -/
inductive Call (α : Type) where
  | done (result : Except Fault α)
  | ask (d : Demand) (next : d.Answer → Call α)

namespace Call

variable {α β : Type}

/-- Goes on with the result of a call, unless it fails. -/
def bind : Call α → (α → Call β) → Call β
  | .done (.ok a), f => f a
  | .done (.error fault), _ => .done (.error fault)
  | .ask d next, f => .ask d fun answer => (next answer).bind f

instance : Monad Call where
  pure a := .done (.ok a)
  bind := bind

def fail (fault : Fault) : Call α := .done (.error fault)

/-- A demand whose answer is the result. -/
def demand (d : Demand) : Call d.Answer := .ask d fun answer => .done (.ok answer)

/-- A demand on the store, whose errors the caller is told nothing about. -/
def ofStore (answer : Except StoreError α) : Call α := .done (answer.mapError Fault.ofStoreError)

def access (caller : Caller) : Call Access := .ask (.access caller) .done

def fetch (entity : Entity) (p : Predicate) : Call (Option Record) := .ask (.fetch entity p) ofStore

def list (entity : Entity) (q : ListQuery) : Call (List Record) := .ask (.list entity q) ofStore

def count (entity : Entity) (p : Predicate) : Call Nat := .ask (.count entity p) ofStore

def approval (workflows : Workflows) (caller : Caller) (entity : Entity) (draft : Draft) :
    Call (Option Approval) :=
  .ask (.approval workflows caller entity draft) fun answer => .done (answer.mapError Fault.ofObserverError)

def create (entity : Entity) (draft : Draft) : Call Record := .ask (.create entity draft) ofStore

def write (entity : Entity) (id : Uuid) (guard : Predicate) (w : Write) (actor : String) :
    Call (Option Record) :=
  .ask (.write entity id guard w actor) ofStore

def audit (entry : AuditEntry) : Call Unit := demand (.audit entry)

def notify (n : Notification) : Call Unit := demand (.notify n)

end Call

end Dossier
