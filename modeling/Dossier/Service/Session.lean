import Dossier.Access.Roster
import Dossier.Notify.Queue
import Dossier.Service.Call
import Dossier.Store.Basic

/-!
# Sessions

A session is the surroundings of a service over a store in memory, in which calls run one after the
other. It gives out identifiers and times by counting what reaches the store, and keeps what the calls
have left in the audit trail and the queue of notifications.

**Trouble.** A session can be told to let a store operation fail, and to let another writer interfere
just before the next write reaches the store. Failing operations do nothing at all, and are not counted.

**Deadlines.** Finding out the access of a caller takes time. A call that has no time left for it is cut
off, and whatever it has done so far stays done.
-/

namespace Dossier

inductive StoreOperation where
  | create
  | get
  | list
  | count
  | update
  | delete
  | restore
deriving DecidableEq

def StoreOperation.name : StoreOperation → String
  | .create => "create"
  | .get => "get"
  | .list => "list"
  | .count => "count"
  | .update => "update"
  | .delete => "delete"
  | .restore => "restore"

def StoreOperation.ofName? (name : String) : Option StoreOperation :=
  [create, .get, .list, .count, .update, .delete, .restore].find? fun o => o.name == name

def Write.operation : Write → StoreOperation
  | .update _ => .update
  | .delete => .delete
  | .restore => .restore

/-- A failure of an operation that comes after some more uses of it. -/
structure PlannedFailure where
  operation : StoreOperation
  usesBefore : Nat

/-- What another writer does to a record. -/
inductive Interference where
  | write (entity : Entity) (id : Uuid) (w : Write) (stamp : Stamp)
  | approval (entity : Entity) (id : Uuid) (state : Option Approval)

/-- The store after an interference; no guard holds it back. -/
def Interference.apply (store : Store) : Interference → Store
  | .write entity id w stamp => (store.write entity id .always w stamp).2
  | .approval entity id state => (store.setApproval entity id state).2

structure FileEntry where
  originalName : String
  url : String

structure Session where
  store : Store := .empty
  /-- The roles of everyone, or why they cannot be told. -/
  roster : Except Fault Roster
  /-- How long it takes to tell them, in milliseconds. -/
  rosterDelay : Nat := 0
  files : Dict String FileEntry := ∅
  /-- Whether the audit trail takes entries. -/
  auditing : Bool := true
  /-- The audit trail, oldest entry first. -/
  trail : List AuditEntry := []
  notifications : Option (Queue Notification) := none
  /-- The identifier of the n-th record created. -/
  idOf : Nat → Uuid
  /-- The time of the n-th write, creations included. -/
  timeOf : Nat → Instant
  /-- How many records were created. -/
  creations : Nat := 0
  /-- How many writes reached the store. -/
  writes : Nat := 0
  failures : List PlannedFailure := []
  interferences : List Interference := []

namespace Session

/-! ## Trouble -/

def planFailure (s : Session) (f : PlannedFailure) : Session := { s with failures := f :: s.failures }

def planInterference (s : Session) (i : Interference) : Session :=
  { s with interferences := s.interferences ++ [i] }

/-- Uses an operation once: whether it fails, and the session in which one use less is left before later
failures of it. -/
def use (s : Session) (operation : StoreOperation) : Bool × Session :=
  let (own, others) := s.failures.partition fun f => f.operation == operation
  let later := (own.filter fun f => f.usesBefore != 0).map fun f => { f with usesBefore := f.usesBefore - 1 }
  (own.any fun f => f.usesBefore == 0, { s with failures := later ++ others })

/-- Lets planned interferences happen. -/
def interfered (s : Session) : Session :=
  { s with store := s.interferences.foldl Interference.apply s.store, interferences := [] }

/-! ## Answers to demands -/

/-- An operation that fails if that was planned. -/
def attempt {α : Type} (s : Session) (operation : StoreOperation)
    (run : Session → Except StoreError α × Session) : Except StoreError α × Session :=
  match s.use operation with
  | (true, s) => (.error .database, s)
  | (false, s) => run s

def create (s : Session) (draft : Draft) : Except StoreError Record × Session :=
  let s := { s with creations := s.creations + 1, writes := s.writes + 1 }
  let r := draft.record (s.idOf s.creations) (s.timeOf s.writes)
  match s.store.create r with
  | .ok store => (.ok r, { s with store })
  | .error e => (.error e, s)

def write (s : Session) (entity : Entity) (id : Uuid) (guard : Predicate) (w : Write) (actor : String) :
    Option Record × Session :=
  let s := { s.interfered with writes := s.writes + 1 }
  let (r, store) := s.store.write entity id guard w ⟨actor, s.timeOf s.writes⟩
  (r, { s with store })

def accessOf (s : Session) (caller : Caller) : Except Fault Access :=
  s.roster.map fun roster => ⟨roster.rolesOf caller.tenant caller.user⟩

/-- A file as a tenant sees it. -/
def file? (s : Session) (tenant id : String) : Option StoredFile :=
  (s.files.get? id).map fun f => ⟨id, f.originalName, f.url ++ "/" ++ tenant⟩

def audit (s : Session) (entry : AuditEntry) : Session :=
  if s.auditing then { s with trail := s.trail ++ [entry] } else s

/-- Puts a notification into the queue, if there is one. -/
def notify (s : Session) (n : Notification) : Session :=
  { s with notifications := s.notifications.map fun q => (q.offer n).2 }

def answer (s : Session) : (d : Demand) → d.Answer × Session
  | .access caller => (s.accessOf caller, s)
  | .fetch entity p => s.attempt .get fun s => (.ok (s.store.get entity p), s)
  | .list entity q => s.attempt .list fun s => (.ok (s.store.list entity q), s)
  | .count entity p => s.attempt .count fun s => (.ok (s.store.count entity p), s)
  | .approval workflows caller entity draft =>
    (workflows.approval caller entity (draft.record (s.idOf (s.creations + 1)) (s.timeOf (s.writes + 1))), s)
  | .create _ draft => s.attempt .create fun s => s.create draft
  | .write entity id guard w actor =>
    s.attempt w.operation fun s =>
      let (r, s) := s.write entity id guard w actor
      (.ok r, s)
  | .file tenant id => (s.file? tenant id, s)
  | .audit entry => ((), s.audit entry)
  | .notify n => ((), s.notify n)

/-- How long a demand takes, in milliseconds. -/
def delay (s : Session) : Demand → Nat
  | .access _ => s.rosterDelay
  | _ => 0

end Session

/-- Runs a call with some milliseconds left for it. -/
def Call.run {α : Type} : Call α → Nat → Session → Except Fault α × Session
  | .done result, _, s => (result, s)
  | .ask d next, left, s =>
    if s.delay d ≤ left then
      let (answer, after) := s.answer d
      (next answer).run (left - s.delay d) after
    else (.error .deadlineExceeded, s)

end Dossier
