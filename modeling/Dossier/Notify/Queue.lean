/-!
# A bounded queue

A queue of things to deliver with room for a fixed number. Whoever puts something in never waits: what
finds no room, or a queue that is closed, is dropped for good.
-/

namespace Dossier

/-- What becomes of a thing that is put in. -/
inductive Admission where
  | enqueued
  | full
  | closed
deriving DecidableEq

structure Queue (α : Type) where
  capacity : Nat
  /-- What waits, oldest first. -/
  waiting : List α
  /-- Whether there is still someone to take things out. -/
  accepting : Bool
  capacity_pos : 0 < capacity := by omega

namespace Queue

variable {α : Type}

/-- A queue with nothing in it. There is always room for one. -/
def ofCapacity (capacity : Nat) : Queue α where
  capacity := max capacity 1
  waiting := []
  accepting := true

/-- Puts something in, if there is room. -/
def offer (q : Queue α) (a : α) : Admission × Queue α :=
  if !q.accepting then (.closed, q)
  else if q.waiting.length < q.capacity then (.enqueued, { q with waiting := q.waiting ++ [a] })
  else (.full, q)

def take? (q : Queue α) : Option (α × Queue α) :=
  match q.waiting with
  | [] => none
  | a :: rest => some (a, { q with waiting := rest })

def emptied (q : Queue α) : Queue α := { q with waiting := [] }

/-- Ends the queue; what waits is lost. -/
def close (q : Queue α) : Queue α := { q with waiting := [], accepting := false }

theorem length_take? {q rest : Queue α} {a : α} (h : q.take? = some (a, rest)) :
    rest.waiting.length + 1 = q.waiting.length := by
  unfold take? at h
  split at h
  · cases h
  · next heq => cases h; simp [heq]

end Queue

end Dossier
