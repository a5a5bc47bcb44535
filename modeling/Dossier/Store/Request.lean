import Dossier.Store.Basic

/-!
# Requests to a store

Everything that can be asked of a store, as data, so that it can be put to a store in memory
(`Store.perform`) as well as to a database.
-/

namespace Dossier

inductive StoreRequest where
  | create (r : Record)
  | get (p : Predicate)
  | list (q : ListQuery)
  | count (p : Predicate)
  | write (id : Uuid) (guard : Predicate) (w : Write) (stamp : Stamp)
  | setApproval (id : Uuid) (state : Option Approval)

inductive StoreResult where
  | created (r : Record)
  /-- The record found or written, if there was one. -/
  | record (r : Option Record)
  | records (rs : List Record)
  | count (n : Nat)

def StoreResult.render : StoreResult → Json
  | .created r => r.render
  | .record r => (r.map Record.render).getD .null
  | .records rs => .array (rs.map Record.render)
  | .count n => .number (.int n)

/-- Carries out a request on the records of an entity. -/
def Store.perform (s : Store) (entity : Entity) : StoreRequest → Except StoreError StoreResult × Store
  | .create r =>
    match s.create r with
    | .ok s => (.ok (.created r), s)
    | .error e => (.error e, s)
  | .get p => (.ok (.record (s.get entity p)), s)
  | .list q => (.ok (.records (s.list entity q)), s)
  | .count p => (.ok (.count (s.count entity p)), s)
  | .write id guard w stamp =>
    let (r, s) := s.write entity id guard w stamp
    (.ok (.record r), s)
  | .setApproval id state =>
    let (r, s) := s.setApproval entity id state
    (.ok (.record r), s)

end Dossier
