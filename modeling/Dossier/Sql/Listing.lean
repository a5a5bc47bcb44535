import Dossier.Sql.Statement
import Dossier.Text.Quoted

/-!
# Listings of bound values

A bound value as people read it: its type, and its content in brackets.
-/

namespace Dossier

def Binary64.listed : Binary64 → String
  | .finite d => NumberLayout.write .listing d
  | .infinite neg => if neg then "-inf" else "inf"
  | .nan => "NaN"

/-- Items in a listing, between brackets of some kind. -/
def listedItems (opening closing : String) (items : List String) : String :=
  opening ++ String.intercalate ", " items ++ closing

namespace Json

mutual

/-- A document in a listing, every part with its type. -/
def listed : Json → String
  | .null => "Null"
  | .bool b => if b then "Bool(true)" else "Bool(false)"
  | .number n => s!"Number({n.text})"
  | .string s => s!"String({listedText s})"
  | .array items => listedItems "Array [" "]" (listedAll items)
  | .object members => listedItems "Object \x7b" "\x7d" (listedMembers members)

def listedAll : List Json → List String
  | [] => []
  | item :: rest => item.listed :: listedAll rest

def listedMembers : List (String × Json) → List String
  | [] => []
  | (key, value) :: rest => s!"{listedText key}: {value.listed}" :: listedMembers rest

end

end Json

namespace Sql

def Param.listed : Param → String
  | .text s => s!"Text({listedText s})"
  | .uuid id => s!"Uuid({id.text})"
  | .number n => s!"Number({n.listed})"
  | .integer i => s!"Integer({i})"
  | .bool b => if b then "Bool(true)" else "Bool(false)"
  | .timestamp t => s!"Timestamp({t.text})"
  | .decimal d => s!"Decimal({d.text})"
  | .json document => s!"Json({document.listed})"
  | .textList items => "TextList" ++ listedItems "([" "])" (items.map listedText)
  | .nothing => "Null"

end Sql

end Dossier
