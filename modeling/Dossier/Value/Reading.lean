import Dossier.Text.Blank
import Dossier.Uuid
import Dossier.Value.Basic

/-!
# Readings of raw values

How a raw document is read as a number, a truth value, an amount, a text, an identifier, or several
values at once, before any field has a say.
-/

namespace Dossier

namespace Json

def asNumber? : Json → Option Double
  | .number n => n.toDouble?
  | .string s => Double.read? (trimBlanks s.toList)
  | _ => none

def truthSpellings : List (String × Bool) :=
  [("1", true), ("t", true), ("T", true), ("true", true), ("TRUE", true), ("True", true),
    ("0", false), ("f", false), ("F", false), ("false", false), ("FALSE", false), ("False", false)]

def asBool? : Json → Option Bool
  | .bool b => some b
  | .string s => truthSpellings.lookup (trimmed s)
  | _ => none

/-- An amount: a number, or a text that holds one. -/
def asAmount? : Json → Option Decimal
  | .number n => Decimal.read? n.text.toList
  | .string s => Decimal.read? (trimBlanks s.toList)
  | _ => none

/-- The text of a text, a number or a truth value. -/
def asText? : Json → Option String
  | .string s => some s
  | .number n => some n.text
  | .bool b => some (if b then "true" else "false")
  | _ => none

def asInstant? : Json → Option Instant
  | .string s => Instant.read? s
  | _ => none

/-- An identifier: a text, or the `id` (failing that the `_id`) of an object. -/
def asReference? : Json → Option String
  | .string s => some s
  | .object members =>
    match Entries.get? "id" members with
    | some id => id.text?
    | none => (Entries.get? "_id" members).bind text?
  | _ => none

/-- A record identifier in a text, blanks at the ends aside. -/
def asRecordId? : Json → Option Uuid
  | .string s => Uuid.read? (trimmed s)
  | _ => none

/-- The values in a document: the items of an array, the parts of a text between commas with blanks
around them and empty ones dropped, nothing for null, and else the document itself. -/
def splitValues : Json → List Json
  | .array items => items
  | .string s => (((commaSeparated s).map trimmed).filter fun part => !part.isEmpty).map .string
  | .null => []
  | other => [other]

end Json

end Dossier
