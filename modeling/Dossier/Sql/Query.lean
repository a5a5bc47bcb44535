import Dossier.Sql.Assignment
import Dossier.Sql.Clause
import Dossier.Sql.Order
import Dossier.Sql.Table
import Dossier.Store.Request

/-!
# Store operations in SQL

Each operation of a store as one statement, together with what the database's reply to it means.
Statements name the entity first and put the condition of the caller in parentheses, so it cannot reach
beyond the records of that entity.
-/

namespace Dossier

namespace Sql

inductive Reply where
  | rows (rows : List Row)
  | count (n : Int)
  /-- An error, by its five-character code. -/
  | refused (state : String)

/-- The code for a key that is already taken. -/
def uniqueViolation : String := "23505"

/-- An operation: its statement, and how to read the reply. -/
structure Query (α : Type) where
  statement : Statement
  answer : Reply → Except StoreError α

/-! ## Reading replies -/

/-- The first record of a reply, where there is one. -/
def firstRecord (entity : Entity) : Reply → Except StoreError (Option Record)
  | .rows [] => .ok none
  | .rows (row :: _) => (row.record entity).map some
  | _ => .error .database

def allRecords (entity : Entity) : Reply → Except StoreError (List Record)
  | .rows rows => rows.mapM (Row.record entity)
  | _ => .error .database

/-- A count; none is below zero. -/
def countOf : Reply → Except StoreError Nat
  | .count n => .ok n.toNat
  | _ => .error .database

def createdRecord (entity : Entity) (id : Uuid) : Reply → Except StoreError Record
  | .rows (row :: _) => row.record entity
  | .refused state => .error (if state = uniqueViolation then .duplicate id else .database)
  | _ => .error .database

/-! ## Statements -/

/-- The parameter for a document column that may be empty. -/
def Param.ofColumn (content : Option Json) : Param := (content.map Param.json).getD .nothing

/-- The statement that stores a record. A record is new, so it is not deleted. -/
def insertStatement (r : Record) : Statement :=
  let row := Row.ofRecord r
  .fixed ("INSERT INTO " ++ table ++ " (\"id\", \"tenant_id\", \"entity_name\", \"data\", \"approval\", " ++
      "\"created_at\", \"updated_at\", \"created_by\", \"updated_by\", \"deleted\") VALUES (") ::
    Statement.separated ", "
      [[.param (.uuid row.id)], [.param (.text row.tenant)], [.param (.text row.entity)],
        [.param (.ofColumn row.data)], [.param (.ofColumn row.approval)],
        [.param (.timestamp row.createdAt)], [.param (.timestamp row.updatedAt)],
        [.param (.text row.createdBy)], [.param (.text row.updatedBy)]] ++
    [.fixed ", false) RETURNING *"]

def entityCondition (entity : Entity) (p : Predicate) : Statement :=
  [.fixed " WHERE \"entity_name\" = ", .param (.text entity.name), .fixed " AND ("] ++ whereClause p ++
    [.fixed ")"]

def getStatement (entity : Entity) (p : Predicate) : Statement :=
  .fixed ("SELECT * FROM " ++ table) :: entityCondition entity p ++ [.fixed " LIMIT 1"]

def countStatement (entity : Entity) (p : Predicate) : Statement :=
  .fixed ("SELECT COUNT(*) AS count FROM " ++ table) :: entityCondition entity p

/-- A sort order with the identifier last, so that it leaves no two records equal. -/
def totalOrder (entity : Entity) (sort : List SortSpec) : Statement :=
  match sort with
  | [] => [.fixed "ORDER BY \"id\" ASC"]
  | sort => orderClause entity sort ++ [.fixed ", \"id\" ASC"]

def listStatement (entity : Entity) (q : ListQuery) : Statement :=
  .fixed ("SELECT * FROM " ++ table) :: entityCondition entity q.predicate ++ [.fixed " "] ++
    totalOrder entity q.sort ++
    [.fixed " LIMIT ", .param (.integer q.limit), .fixed " OFFSET ", .param (.integer q.offset)]

/-- An update of one record of an entity that meets a guard. -/
def guardedStatement (entity : Entity) (id : Uuid) (guard : Predicate) (assignments : List Assignment) :
    Statement :=
  .fixed ("UPDATE " ++ table ++ " SET ") ::
    Statement.separated ", " (assignments.map Assignment.statement) ++
    [.fixed " WHERE \"id\" = ", .param (.uuid id), .fixed " AND \"entity_name\" = ",
      .param (.text entity.name), .fixed " AND ("] ++ whereClause guard ++ [.fixed ") RETURNING *"]

/-! ## Operations -/

namespace Query

def create (entity : Entity) (r : Record) : Query Record := ⟨insertStatement r, createdRecord entity r.id⟩

def get (entity : Entity) (p : Predicate) : Query (Option Record) :=
  ⟨getStatement entity p, firstRecord entity⟩

def list (entity : Entity) (q : ListQuery) : Query (List Record) :=
  ⟨listStatement entity q, allRecords entity⟩

def count (entity : Entity) (p : Predicate) : Query Nat := ⟨countStatement entity p, countOf⟩

def write (entity : Entity) (id : Uuid) (guard : Predicate) (w : Write) (stamp : Stamp) :
    Query (Option Record) :=
  ⟨guardedStatement entity id guard (writeAssignments stamp w), firstRecord entity⟩

def setApproval (entity : Entity) (id : Uuid) (state : Option Approval) : Query (Option Record) :=
  ⟨guardedStatement entity id .always (approvalAssignments state), firstRecord entity⟩

/-- A query whose answer is made into something else. -/
def map {α β : Type} (f : α → β) (q : Query α) : Query β := ⟨q.statement, fun reply => (q.answer reply).map f⟩

def ofRequest (entity : Entity) : StoreRequest → Query StoreResult
  | .create r => (create entity r).map .created
  | .get p => (get entity p).map .record
  | .list q => (list entity q).map .records
  | .count p => (count entity p).map .count
  | .write id guard w stamp => (write entity id guard w stamp).map .record
  | .setApproval id state => (setApproval entity id state).map .record

/-- A statement of which only the success matters. -/
def execute (statement : Statement) : Query Unit where
  statement := statement
  answer
    | .refused _ => .error .database
    | _ => .ok ()

/-- Executes statements up to the first that the database refuses; with what was executed. -/
def executeAll (reply : Reply) : List Statement → List Statement × Except StoreError Unit
  | [] => ([], .ok ())
  | statement :: rest =>
    match (execute statement).answer reply with
    | .ok () => ((executeAll reply rest).map (statement :: ·) id)
    | .error e => ([statement], .error e)

end Query

end Sql

end Dossier
