import Dossier.Value.Basic

/-!
# Values with their kinds

A document form that keeps the kind of every value: an object with the kind under `t` and the content
under `v`. Amounts keep their trailing zeros. Unlike the plain form it can be read back without knowing
the field.
-/

namespace Dossier

namespace Value

def withKind (kind : String) (content : Json) : Json := .object [("t", .string kind), ("v", content)]

mutual

def tagged : Value → Json
  | .null => .object [("t", .string "null")]
  | .text s => withKind "text" (.string s)
  | .number n => withKind "number" (renderNumber n)
  | .bool b => withKind "bool" (.bool b)
  | .date t => withKind "date" (.string t.text)
  | .currency d => withKind "currency" (.string d.text)
  | .list items => withKind "list" (.array (taggedItems items))
  | .ref s => withKind "ref" (.string s)
  | .json document => withKind "json" document

def taggedItems : List Value → List Json
  | [] => []
  | item :: rest => item.tagged :: taggedItems rest

end

/-- The value of a kind that holds no other values. -/
def ofKind? (kind : String) (content : Json) : Option Value :=
  match kind, content with
  | "null", _ => some .null
  | "text", .string s => some (.text s)
  | "number", .number n => n.toDouble?.map fun d => .number (.finite d)
  | "bool", .bool b => some (.bool b)
  | "date", .string s => (Instant.read? s).map .date
  | "currency", .string s => (Decimal.read? s.toList).map .currency
  | "ref", .string s => some (.ref s)
  | "json", document => some (.json document)
  | _, _ => none

mutual

def ofTagged? : Json → Option Value
  | .object [("t", .string kind)] => ofKind? kind .null
  | .object [("t", .string "list"), ("v", .array items)] => (ofTaggedItems? items).map .list
  | .object [("t", .string kind), ("v", content)] => ofKind? kind content
  | _ => none

def ofTaggedItems? : List Json → Option (List Value)
  | [] => some []
  | item :: rest =>
    match ofTagged? item, ofTaggedItems? rest with
    | some value, some values => some (value :: values)
    | _, _ => none

end

end Value

end Dossier
