import Dossier.Schema.Field
import Dossier.Store.Error
import Dossier.Store.Listing

/-!
# A store in memory

Records by identifier. Every operation names an entity and sees only the records of that entity.

**Guarded writes.** A write names a record and a guard, and is applied if the record meets the guard at
that moment; else the store stays as it is and the write answers nothing. Checking and changing are one
step, so nothing comes between them.
-/

namespace Dossier

structure Store where
  records : Dict Uuid Record := ∅

namespace Store

def empty : Store := {}

/-- The number of records of all entities. -/
def size (s : Store) : Nat := s.records.size

def isEmpty (s : Store) : Bool := s.size == 0

/-- The record of an identifier, whatever its entity. -/
def find? (s : Store) (id : Uuid) : Option Record := s.records.get? id

/-- Whether an operation on an entity under a predicate concerns a record. -/
def concerns (entity : Entity) (p : Predicate) (r : Record) : Bool :=
  r.entity == entity.name && r.meets p

/-! ## Reading -/

/-- The records that meet a predicate, by identifier. -/
def matching (s : Store) (entity : Entity) (p : Predicate) : List Record :=
  s.records.values.filter (concerns entity p)

/-- A record that meets a predicate, the one with the least identifier if there are several. -/
def get (s : Store) (entity : Entity) (p : Predicate) : Option Record :=
  s.records.values.find? (concerns entity p)

def count (s : Store) (entity : Entity) (p : Predicate) : Nat := (s.matching entity p).length

def list (s : Store) (entity : Entity) (q : ListQuery) : List Record :=
  q.page (s.matching entity q.predicate)

/-! ## Writing -/

def put (s : Store) (r : Record) : Store := ⟨s.records.insert r.id r⟩

def create (s : Store) (r : Record) : Except StoreError Store :=
  if s.records.contains r.id then .error (.duplicate r.id) else .ok (s.put r)

/-- Changes the record of an identifier if it meets a guard. Answers the record as changed. -/
def change (s : Store) (entity : Entity) (id : Uuid) (guard : Predicate) (f : Record → Record) :
    Option Record × Store :=
  match s.find? id with
  | none => (none, s)
  | some r => if concerns entity guard r then (some (f r), ⟨s.records.insert id (f r)⟩) else (none, s)

/-- Carries out a write if its guard holds. -/
def write (s : Store) (entity : Entity) (id : Uuid) (guard : Predicate) (w : Write) (stamp : Stamp) :
    Option Record × Store :=
  s.change entity id guard (w.apply stamp)

/-- Puts a record into a state of approval. Only workflows do this, and no guard holds them back. -/
def setApproval (s : Store) (entity : Entity) (id : Uuid) (state : Option Approval) :
    Option Record × Store :=
  s.change entity id .always fun r => r.withApproval state

end Store

end Dossier
