import Dossier.Filter.Sort
import Dossier.Predicate.Basic
import Dossier.Record.Basic

/-!
# Queries and writes

What is asked of a store of records. A query has two predicates, the caller's and the one that the
caller's permission forces on it; a record has to meet both. A write changes one record, and every store
gives it the same effect.
-/

namespace Dossier

structure ListQuery where
  /-- The filters of the caller, with the guard on tenant and entity. -/
  wanted : Predicate
  /-- The row condition of the caller's permission. -/
  forced : Predicate
  limit : Nat
  offset : Nat
  sort : List SortSpec

/-- Limits and offsets are below this bound. -/
def ListQuery.bound : Nat := 0x100000000

/-- What a listed record meets. -/
def ListQuery.predicate (q : ListQuery) : Predicate := q.wanted.both q.forced

inductive Write where
  | update (changes : Changes)
  | delete
  | restore

def Write.apply (w : Write) (stamp : Stamp) (r : Record) : Record :=
  match w with
  | .update changes => r.update changes stamp
  | .delete => r.delete stamp
  | .restore => r.restore stamp

def Record.withApproval (r : Record) (state : Option Approval) : Record := { r with approval := state }

end Dossier
