import Dossier.Dict
import Dossier.Numeric.Numeral

/-!
# Documents

A document is null, a truth value, a number, a text, an array or an object. Numbers keep their kind:
an integer that fits 64 bits, or a double. The members of an object are in ascending key order, each
key once; the functions here keep that order and rely on it.
-/

namespace Dossier

inductive Json.Number where
  | int (i : Int)
  | double (d : Double)
deriving DecidableEq

inductive Json where
  | null
  | bool (b : Bool)
  | number (n : Json.Number)
  | string (s : String)
  | array (items : List Json)
  | object (members : List (String × Json))

instance : Inhabited Json := ⟨.null⟩

namespace Json

/-- The object of a list of members; of two with one key the later one stays. -/
def ofMembers (members : List (String × Json)) : Json := .object (Entries.ofList members)

def ofDict (d : Dict String Json) : Json := .object d.entries

def text? : Json → Option String
  | .string s => some s
  | _ => none

def isNull : Json → Bool
  | .null => true
  | _ => false

def member? (key : String) : Json → Option Json
  | .object members => Entries.get? key members
  | _ => none

namespace Number

/-- The nearest double. Every integer of a document is in range. -/
def toDouble? : Number → Option Double
  | .int i => Double.ofInt? i
  | .double d => some d

/-- The printed form: digits for an integer, the shortest form for a double. -/
def text : Number → String
  | .int i => toString i
  | .double d => NumberLayout.write .document d

/-- Equality of numbers of one kind; an integer never equals a double. -/
def same : Number → Number → Bool
  | .int a, .int b => a == b
  | .double a, .double b => a.sameValue b
  | _, _ => false

end Number

mutual

/-- Equality of documents, with doubles compared by value. -/
def same : Json → Json → Bool
  | .null, .null => true
  | .bool a, .bool b => a == b
  | .number a, .number b => a.same b
  | .string a, .string b => a == b
  | .array a, .array b => sameItems a b
  | .object a, .object b => sameMembers a b
  | _, _ => false

def sameItems : List Json → List Json → Bool
  | [], [] => true
  | a :: as, b :: bs => a.same b && sameItems as bs
  | _, _ => false

def sameMembers : List (String × Json) → List (String × Json) → Bool
  | [], [] => true
  | (k, a) :: as, (l, b) :: bs => k == l && a.same b && sameMembers as bs
  | _, _ => false

end

end Json

end Dossier
