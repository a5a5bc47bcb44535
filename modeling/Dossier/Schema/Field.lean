import Dossier.Json.Basic

/-!
# Fields and entities

An entity is a named record type made of fields. A field has a kind, which says what its values are, a
label for people, and for some kinds options or a target.
-/

namespace Dossier

/-- What the values of a field are. -/
inductive FieldKind where
  | text
  | textarea
  | number
  | boolean
  | date
  | email
  | url
  | phone
  | currency
  | select
  | multiselect
  | lookup
  | file
  | image
  /-- A kind this engine gives no meaning to; its values are kept as they come. -/
  | other
deriving DecidableEq, Repr

namespace FieldKind

def all : List FieldKind :=
  [.text, .textarea, .number, .boolean, .date, .email, .url, .phone, .currency, .select, .multiselect,
    .lookup, .file, .image, .other]

def name : FieldKind → String
  | .text => "text"
  | .textarea => "textarea"
  | .number => "number"
  | .boolean => "boolean"
  | .date => "date"
  | .email => "email"
  | .url => "url"
  | .phone => "phone"
  | .currency => "currency"
  | .select => "select"
  | .multiselect => "multiselect"
  | .lookup => "lookup"
  | .file => "file"
  | .image => "image"
  | .other => "other"

/-- The kind of a name; unknown names are `other`. -/
def ofName (name : String) : FieldKind := (all.find? fun kind => kind.name == name).getD .other

/-- Kinds stored as one text, where searching inside the text makes sense. -/
def isTextLike : FieldKind → Bool
  | .text | .textarea | .email | .url | .phone | .select => true
  | _ => false

/-- Kinds for which the empty text is a value and not an absence. -/
def keepsEmpty : FieldKind → Bool
  | .text | .textarea => true
  | _ => false

/-- Kinds stored as an identifier of something else. -/
def isReference : FieldKind → Bool
  | .lookup | .file | .image => true
  | _ => false

end FieldKind

/-- What a lookup field refers to: records of an entity, shown by one of their fields. -/
structure LookupTarget where
  entity : String
  labelField : String
deriving DecidableEq

structure Field where
  name : String
  label : String
  kind : FieldKind
  required : Bool
  options : Option (List String)
  lookup : Option LookupTarget
deriving DecidableEq

namespace Field

/-- A field of a kind, labelled by its name, optional, with neither options nor target. -/
def plain (name : String) (kind : FieldKind) : Field :=
  { name, label := name, kind, required := false, options := none, lookup := none }

/-- The label shown to people; the name stands in for an empty one. -/
def displayLabel (f : Field) : String := if f.label.isEmpty then f.name else f.label

/-- The document form; absent options and targets are left out. -/
def render (f : Field) : Json :=
  .ofMembers <|
    [("name", .string f.name), ("label", .string f.label), ("type", .string f.kind.name),
      ("required", .bool f.required)] ++
    (f.options.map fun options => ("options", Json.array (options.map .string))).toList ++
    (f.lookup.map fun target =>
      ("lookup", Json.ofMembers [("entity", .string target.entity), ("label_field", .string target.labelField)])).toList

end Field

/-- A record type. -/
structure Entity where
  name : String
  label : Option String
  fields : List Field
deriving DecidableEq

namespace Entity

def bare (name : String) : Entity := { name, label := none, fields := [] }

def find? (e : Entity) (name : String) : Option Field := e.fields.find? fun f => f.name == name

def requiredFields (e : Entity) : List Field := e.fields.filter (·.required)

def render (e : Entity) : Json :=
  .ofMembers [("name", .string e.name), ("label", (e.label.map Json.string).getD .null),
    ("fields", .array (e.fields.map Field.render))]

end Entity

end Dossier
