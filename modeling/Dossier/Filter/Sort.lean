import Dossier.Filter.Basic
import Dossier.Json.Printer
import Dossier.Text.Blank

/-!
# Sort orders

A sort order is a list of fields with directions. It can be asked for as one text
(`created_at desc, name`), as an array of such texts and of objects with a field and a direction, or as
an object of directions by field. Names in texts and keys are made of ASCII letters, digits,
underscores and points.
-/

namespace Dossier

inductive SortDirection where
  | asc
  | desc
deriving DecidableEq

namespace SortDirection

def name : SortDirection → String
  | .asc => "asc"
  | .desc => "desc"

def ofName? (name : String) : Option SortDirection :=
  if name = "asc" then some .asc else if name = "desc" then some .desc else none

def read (word : List Char) : Except FilterError SortDirection :=
  if word.map Char.toLower = "desc".toList then .ok .desc
  else if word.map Char.toLower = "asc".toList then .ok .asc
  else .error (.invalidSort s!"unknown direction '{String.ofList word}'")

end SortDirection

structure SortSpec where
  field : String
  direction : SortDirection
deriving DecidableEq

namespace SortSpec

def render (spec : SortSpec) : Json :=
  .ofMembers [("field", .string spec.field), ("direction", .string spec.direction.name)]

def ofJson? (document : Json) : Option SortSpec := do
  match ← document.parts? ["field", "direction"] with
  | [field, direction] =>
    some {
      field := ← Json.needed? Json.text? field
      direction := ← Json.needed? Json.choice? direction >>= SortDirection.ofName? }
  | _ => none

def isNameChar (c : Char) : Bool := c.isAlphanum || c == '_' || c == '.'

/-- A name that may be sorted by. -/
def checkField (name : List Char) : Except FilterError String :=
  if !name.isEmpty && name.all isNameChar then .ok (String.ofList name)
  else .error (.invalidSort s!"invalid field '{String.ofList name}'")

/-- A part between commas: a field and perhaps a direction. -/
def readPart (part : List Char) : Except FilterError SortSpec :=
  match blankSeparated part with
  | [] => .error (.invalidSort "")
  | field :: rest => do
    let direction ← match rest with
      | [] => .ok .asc
      | word :: _ => SortDirection.read word
    if 1 < rest.length then .error (.invalidSort (String.ofList part))
    else
      let field ← checkField field
      .ok ⟨field, direction⟩

/-- A text of parts between commas, empty ones passed over. -/
def readText (s : String) : Except FilterError (List SortSpec) :=
  (((s.toList.splitOn ',').map trimBlanks).filter fun part => !part.isEmpty).mapM readPart

/-- An item of an array: a text of parts, or an object that is one specification. -/
def readItem : Json → Except FilterError (List SortSpec)
  | .string s => readText s
  | .object members =>
    match ofJson? (.object members) with
    | some spec => .ok [spec]
    | none => .error .malformedSort
  | other => .error (.invalidSort other.compact)

/-- A member of an object: a direction under a field. What is no text stands for ascending. -/
def readMember (member : String × Json) : Except FilterError SortSpec := do
  let direction ← SortDirection.read (member.2.text?.getD "asc").toList
  let field ← checkField member.1.toList
  .ok ⟨field, direction⟩

def readAll : Json → Except FilterError (List SortSpec)
  | .null => .ok []
  | .string s => readText s
  | .array items => (items.mapM readItem).map List.flatten
  | .object members => members.mapM readMember
  | other => .error (.invalidSort other.compact)

end SortSpec

end Dossier
