import Dossier.Service.Basic

/-!
# References shown with what they refer to

Where a record is read, a lookup is shown as the identifier with the label of its target, and a file as
what is known about it. The targets of all records are read at once for each field. A reference that
cannot be resolved stays as it is stored: an unknown entity, a failing store or a missing target is no
reason to fail.
-/

namespace Dossier

/-- A record with its object as far as it has been worked out. -/
structure Shown where
  record : Record
  members : List (String × Json)

namespace Shown

def ofRecord (r : Record) : Shown := ⟨r, r.members⟩

/-- The identifier that a field of the record refers to. -/
def reference? (v : Shown) (field : String) : Option String := (v.record.data.get? field).bind Value.text?

def put (v : Shown) (field : String) (content : Json) : Shown :=
  { v with members := Entries.insert field content v.members }

/-- Shows the target of a lookup, if its label is known. -/
def putLabel (labels : Dict String Json) (field : String) (v : Shown) : Shown :=
  match v.reference? field with
  | none => v
  | some id =>
    match labels.get? id with
    | none => v
    | some label => v.put field (.ofMembers [("id", .string id), ("display_label", label)])

def putFile (field : String) (v : Shown) (file : StoredFile) : Shown :=
  v.put field <| .ofMembers
    [("id", .string file.id), ("original_name", .string file.originalName), ("url", .string file.url)]

end Shown

namespace Service

/-- The identifiers that a field of some records refers to, ascending and each once. -/
def references (field : String) (views : List Shown) : List String :=
  (Dict.ofList (views.filterMap fun v => (v.reference? field).map fun id => (id, ()))).keys

/-- The live targets of the given identifiers, as many as there are identifiers. -/
def targetQuery (ctx : Context) (target : Entity) (ids : List String) : ListQuery where
  wanted := scope ctx.tenant target.name
  forced := .among "id" (ids.map .ref) false
  limit := ids.length % ListQuery.bound
  offset := 0
  sort := []

/-- The labels of some targets, by identifier; a target without one is labelled by its identifier. -/
def labels (labelField : String) (targets : List Record) : Dict String Json :=
  .ofList <| targets.map fun t =>
    (t.id.text, ((t.data.get? labelField).map Value.render).getD (.string t.id.text))

def populateLookup (s : Service) (ctx : Context) (f : Field) (views : List Shown) : Call (List Shown) :=
  match f.lookup with
  | none => return views
  | some target =>
    match references f.name views, s.schema.find target.entity with
    | [], _ | _, .error _ => return views
    | ids, .ok entity => do
      match ← Call.demand (.list entity (targetQuery ctx entity ids)) with
      | .error _ => return views
      | .ok targets => return views.map (Shown.putLabel (labels target.labelField targets) f.name)

def populateFiles (ctx : Context) (f : Field) : List Shown → Call (List Shown)
  | [] => return []
  | v :: rest => do
    let v ← match v.reference? f.name with
      | none => pure v
      | some id => do
        match ← Call.demand (.file ctx.tenant id) with
        | some file => pure (v.putFile f.name file)
        | none => pure v
    return v :: (← populateFiles ctx f rest)

/-- Shows what a field refers to, if it is of a kind that refers to something. -/
def populateField (s : Service) (ctx : Context) (f : Field) (views : List Shown) : Call (List Shown) :=
  if f.kind = .lookup then s.populateLookup ctx f views
  else if f.kind.isReference then populateFiles ctx f views
  else return views

/-- Shows what the given fields refer to, one field after the other. -/
def populateFields (s : Service) (ctx : Context) : List Field → List Shown → Call (List Shown)
  | [], views => return views
  | f :: rest, views => do s.populateFields ctx rest (← s.populateField ctx f views)

def populate (s : Service) (ctx : Context) (entity : Entity) (records : List Record) : Call (List Shown) :=
  s.populateFields ctx entity.fields (records.map Shown.ofRecord)

end Service

end Dossier
