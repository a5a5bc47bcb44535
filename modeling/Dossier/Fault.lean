import Dossier.Condition.Basic
import Dossier.Schema.Registry
import Dossier.Store.Error

/-!
# Faults

How a record operation fails, as told to its caller: a status, a code, and a body that gives away no
detail of stores and schemas. Errors of the parts of the engine are turned into faults here.
-/

namespace Dossier

inductive Action where
  | create
  | read
  | update
  | delete
deriving DecidableEq

def Action.name : Action → String
  | .create => "create"
  | .read => "read"
  | .update => "update"
  | .delete => "delete"

def Action.ofName? (name : String) : Option Action :=
  [create, .read, .update, .delete].find? fun a => a.name == name

/-- How somebody fails who is told of a write, or asked about one. -/
inductive ObserverError where
  | audit (what : String)
  | notifier (name what : String)
deriving DecidableEq

inductive Fault where
  | invalid (error : FieldError)
  | badRequest (reason : String)
  | denied (reason : String)
  | notWritable (field : String)
  | locked (id : Uuid)
  | danglingReference (field id : String)
  | notFound (what : String)
  | deadlineExceeded
  | internal (what : String)
deriving DecidableEq

namespace Fault

def status : Fault → Nat
  | .invalid _ | .badRequest _ | .danglingReference .. => 400
  | .denied _ | .notWritable _ => 403
  | .notFound _ => 404
  | .locked _ => 409
  | .internal _ => 500
  | .deadlineExceeded => 504

def code : Fault → String
  | .invalid error => error.flaw.code
  | .badRequest _ => "BAD_REQUEST"
  | .denied _ => "PERMISSION_DENIED"
  | .notWritable _ => "FIELD_NOT_WRITABLE"
  | .locked _ => "RECORD_LOCKED"
  | .danglingReference .. => "REFERENCE_NOT_FOUND"
  | .notFound _ => "NOT_FOUND"
  | .deadlineExceeded => "DEADLINE_EXCEEDED"
  | .internal _ => "INTERNAL_SERVER_ERROR"

def message : Fault → String
  | .invalid error => error.message
  | .badRequest reason => reason
  | .denied reason => s!"Permission denied: {reason}"
  | .notWritable field => s!"Field '{field}' is not writable"
  | .locked id => s!"Record {id.text} is locked by a pending approval"
  | .danglingReference field id => s!"{field} references a record that does not exist: {id}"
  | .notFound what => what
  | .deadlineExceeded => "Request deadline exceeded"
  | .internal what => what

/-- The part of the body that names the field at fault. -/
def fieldMembers : Fault → List (String × Json)
  | .invalid error =>
    [("field", .string error.field), ("field_errors", .object [(error.field, .string error.message)])]
  | .notWritable field => [("field", .string field)]
  | .danglingReference field _ => [("field", .string field)]
  | _ => []

def body (f : Fault) : Json :=
  .ofMembers <|
    [("error", .bool true), ("message", .string f.message), ("code", .string f.code)] ++ f.fieldMembers

/-! ## Causes -/

def actionDenied (action : Action) (entity : String) : Fault :=
  .denied s!"{action.name} on '{entity}' is not allowed"

/-- A filter on a field that no role lets the caller filter on. -/
def filterDenied (field : String) : Fault := .denied s!"Filtering on '{field}' is not allowed"

/-- The caller's row condition makes no sense, so it admits nothing. -/
def conditionDenied : Fault := .denied "Access condition could not be evaluated"

def payloadNotObject : Fault := .badRequest "Record payload must be a JSON object"

/-- No record of an entity goes by an identifier, as given or as read. -/
def recordNotFound (entity id : String) : Fault := .notFound s!"{entity} record '{id}' not found"

def ofFilterError : FilterError → Fault
  | .invalidValue error => .invalid error
  | error => .badRequest error.message

def ofConditionError (_ : ConditionError) : Fault := conditionDenied

def ofSchemaError : SchemaError → Fault
  | .notFound name => .notFound s!"Entity '{name}' not found"
  | _ => .internal "Schema registry failure"

def ofStoreError (_ : StoreError) : Fault := .internal "Database operation failed"

def rolesMalformed : Fault := .internal "Invalid role definitions"

def auditFailed (what : String) : Fault := .internal s!"Audit error: {what}"

def notifierFailed (name what : String) : Fault := .internal s!"Notifier '{name}' failed: {what}"

def ofObserverError : ObserverError → Fault
  | .audit what => auditFailed what
  | .notifier name what => notifierFailed name what

end Fault

end Dossier
