import Dossier.Service.Basic
import Dossier.Value.Conversion

/-!
# Payloads

What a caller sends to be stored. A payload is an object, and each of its members must be writable. The
values of its fields are converted in the order of the definition; a lookup must name a live record of
its target in the caller's tenant.
-/

namespace Dossier

/-- Whether a document says nothing: null, a blank text, or an empty array. -/
def Json.isBlank : Json → Bool
  | .null => true
  | .string s => (trimmed s).isEmpty
  | .array items => items.isEmpty
  | _ => false

def Changes.values (changes : Changes) : Dict String Value :=
  .ofList <| changes.entries.filterMap fun change => change.2.map fun value => (change.1, value)

namespace Service

/-- The members of a payload, if all of them may be written. -/
def payloadMembers (mask : FieldMask) : Json → Except Fault (List (String × Json))
  | .object members => (mask.checkWritable members).map fun () => members
  | _ => .error .payloadNotObject

def lacks (members : List (String × Json)) (f : Field) : Bool :=
  ((Entries.get? f.name members).map Json.isBlank).getD true

def checkRequired (members : List (String × Json)) : List Field → Except Fault Unit
  | [] => .ok ()
  | f :: rest =>
    if f.required && lacks members f then .error (.invalid (.of f .missing))
    else checkRequired members rest

def checkTarget (s : Service) (ctx : Context) (f : Field) (target : LookupTarget) (id : String) : Call Unit := do
  let entity ← .done ((s.schema.find target.entity).mapError Fault.ofSchemaError)
  match Uuid.read? id with
  | none => .fail (.invalid (.of f (.wrongForm .recordId)))
  | some uuid =>
    let found ← Call.count entity ((scope ctx.tenant entity.name).both (byId uuid))
    if found = 0 then .fail (.danglingReference f.name id) else return ()

/-- The value of a document for a field, with the target of a lookup checked. -/
def convert (s : Service) (ctx : Context) (f : Field) (raw : Json) : Call (Option Value) := do
  let value ← .done ((f.convert raw).mapError Fault.invalid)
  match f.kind, f.lookup, value with
  | .lookup, some target, some (.ref id) => s.checkTarget ctx f target id
  | _, _, _ => pure ()
  return value

def gatherField (s : Service) (ctx : Context) (f : Field) (raw : Json) (changes : Changes) : Call Changes :=
  if f.required && raw.isBlank then .fail (.invalid (.of f .missing))
  else do return changes.insert f.name (← s.convert ctx f raw)

/-- The changes that a payload asks for. -/
def gather (s : Service) (ctx : Context) (members : List (String × Json)) : List Field → Changes → Call Changes
  | [], changes => return changes
  | f :: rest, changes =>
    match Entries.get? f.name members with
    | none => s.gather ctx members rest changes
    | some raw => do s.gather ctx members rest (← s.gatherField ctx f raw changes)

end Service

end Dossier
