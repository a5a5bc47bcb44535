import Dossier.Sql.Row
import Dossier.Sql.Statement
import Dossier.Store.Query

/-!
# Assignments

What an update statement sets in a row, once as SQL (`statement`) and once as a function on rows
(`apply`).
-/

namespace Dossier

namespace Sql

inductive Assignment where
  /-- Takes members out of the data and merges others in. -/
  | data (removed : List String) (added : List (String × Json))
  /-- Sets the approval state; a null document empties the column. -/
  | approval (document : Json)
  | updatedAt (t : Instant)
  | updatedBy (user : String)
  | deleted (flag : Bool)
  | deletedAt (t : Option Instant)
  | deletedBy (user : Option String)

namespace Assignment

def statement : Assignment → Statement
  | .data removed added =>
    [.fixed "\"data\" = (\"data\" - ", .param (.textList removed), .fixed "::text[]) || ",
      .param (.json (.object added)), .fixed "::jsonb"]
  | .approval document =>
    [.fixed "\"approval\" = NULLIF(", .param (.json document), .fixed "::jsonb, 'null'::jsonb)"]
  | .updatedAt t => [.fixed "\"updated_at\" = ", .param (.timestamp t)]
  | .updatedBy user => [.fixed "\"updated_by\" = ", .param (.text user)]
  | .deleted flag => [.fixed (if flag then "\"deleted\" = true" else "\"deleted\" = false")]
  | .deletedAt none => [.fixed "\"deleted_at\" = NULL"]
  | .deletedAt (some t) => [.fixed "\"deleted_at\" = ", .param (.timestamp t)]
  | .deletedBy none => [.fixed "\"deleted_by\" = NULL"]
  | .deletedBy (some user) => [.fixed "\"deleted_by\" = ", .param (.text user)]

/-- A document without some of its members, and with others merged in. -/
def mergeData (removed : List String) (added : List (String × Json)) : Json → Json
  | .object members =>
    .object (added.foldl (fun acc member => Entries.insert member.1 member.2 acc)
      (removed.foldl (fun acc key => Entries.erase key acc) members))
  | document => document

def apply (row : Row) : Assignment → Row
  | .data removed added => { row with data := row.data.map (mergeData removed added) }
  | .approval document => { row with approval := if document.isNull then none else some document }
  | .updatedAt t => { row with updatedAt := t }
  | .updatedBy user => { row with updatedBy := user }
  | .deleted flag => { row with deleted := flag }
  | .deletedAt t => { row with deletedAt := t }
  | .deletedBy user => { row with deletedBy := user }

end Assignment

def assign (row : Row) (assignments : List Assignment) : Row := assignments.foldl Assignment.apply row

def removals (changes : Changes) : List String :=
  changes.entries.filterMap fun change => if change.2.isNone then some change.1 else none

/-- The members that a set of changes puts in, in document form. -/
def additions (changes : Changes) : List (String × Json) :=
  changes.entries.filterMap fun change => change.2.map fun value => (change.1, value.render)

def writeAssignments (stamp : Stamp) : Write → List Assignment
  | .update changes =>
    [.data (removals changes) (additions changes), .updatedAt stamp.time, .updatedBy stamp.actor]
  | .delete => [.deleted true, .deletedAt (some stamp.time), .deletedBy (some stamp.actor)]
  | .restore =>
    [.deleted false, .deletedAt none, .deletedBy none, .updatedAt stamp.time, .updatedBy stamp.actor]

def approvalAssignments (state : Option Approval) : List Assignment :=
  [.approval ((state.map Approval.render).getD .null)]

end Sql

end Dossier
