import Dossier.Json.Basic
import Dossier.Numeric.Decimal
import Dossier.Time.Text

/-!
# Values

A record stores values, each of one kind. Texts and references compare as texts, numbers with amounts
through the amount closest to the number; values of other pairs of kinds do not compare.

`compare?` is the order, `looseEq` the equality that filters use, `same` strict equality of kind and
content. `render` gives the document form.
-/

namespace Dossier

inductive Value where
  | null
  | text (s : String)
  | number (n : Binary64)
  | bool (b : Bool)
  | date (t : Instant)
  | currency (d : Decimal)
  | list (items : List Value)
  /-- The identifier of a record or a stored file. -/
  | ref (id : String)
  /-- A document kept as it came. -/
  | json (document : Json)

instance : Inhabited Value := ⟨.null⟩

namespace Value

def isNull : Value → Bool
  | .null => true
  | _ => false

/-- The content of a text or a reference. -/
def text? : Value → Option String
  | .text s | .ref s => some s
  | _ => none

/-! ## Documents and values -/

/-- Integers below this magnitude are exact as doubles and are written without a point. -/
def exactBound : Nat := 0x20000000000000

/-- A number as a document: an integer where that is exact, else a double; null outside the finite
range. -/
def renderNumber : Binary64 → Json
  | .finite d =>
    match d.toInt? with
    | some i => if i.natAbs < exactBound then .number (.int i) else .number (.double d)
    | none => .number (.double d)
  | _ => .null

mutual

def render : Value → Json
  | .null => .null
  | .text s => .string s
  | .ref s => .string s
  | .number n => renderNumber n
  | .bool b => .bool b
  | .date t => .string t.text
  | .currency d => .string d.normalize.text
  | .list items => .array (renderItems items)
  | .json document => document

def renderItems : List Value → List Json
  | [] => []
  | item :: rest => item.render :: renderItems rest

end

mutual

/-- The value of a document that no field describes. -/
def ofJson : Json → Value
  | .null => .null
  | .bool b => .bool b
  | .number n => (n.toDouble?.map fun d => .number (.finite d)).getD .null
  | .string s => .text s
  | .array items => .list (ofItems items)
  | .object members => .json (.object members)

def ofItems : List Json → List Value
  | [] => []
  | item :: rest => ofJson item :: ofItems rest

end

/-! ## Order and equality -/

/-- Order between two values of comparable kinds. -/
def compare? : Value → Value → Option Ordering
  | .number a, .number b => a.cmp? b
  | .currency a, .currency b => some (a.cmp b)
  | .currency a, .number b => b.toDecimal?.map fun b => a.cmp b
  | .number a, .currency b => a.toDecimal?.map fun a => a.cmp b
  | .date a, .date b => some (a.cmp b)
  | .bool a, .bool b => some (compare a.toNat b.toNat)
  | a, b =>
    match a.text?, b.text? with
    | some a, some b => some (compare a b)
    | _, _ => none

mutual

/-- Equality as filters see it: texts equal references of the same content, numbers equal amounts of
the same value, lists go item by item. -/
def looseEq : Value → Value → Bool
  | .null, .null => true
  | .list as, .list bs => looseEqItems as bs
  | .json a, .json b => a.same b
  | a, b => compare? a b == some .eq

def looseEqItems : List Value → List Value → Bool
  | [], [] => true
  | a :: as, b :: bs => looseEq a b && looseEqItems as bs
  | _, _ => false

end

mutual

/-- Equality of kind and content, with numbers and amounts compared by value. -/
def same : Value → Value → Bool
  | .null, .null => true
  | .text a, .text b => a == b
  | .number a, .number b => a.cmp? b == some .eq
  | .bool a, .bool b => a == b
  | .date a, .date b => a == b
  | .currency a, .currency b => a.sameValue b
  | .list as, .list bs => sameItems as bs
  | .ref a, .ref b => a == b
  | .json a, .json b => a.same b
  | _, _ => false

def sameItems : List Value → List Value → Bool
  | [], [] => true
  | a :: as, b :: bs => same a b && sameItems as bs
  | _, _ => false

end

/-! ## Texts and their lists -/

theorem same_text (s : String) : (text s).same (text s) = true := by simp [same]

theorem same_ref (s : String) : (ref s).same (ref s) = true := by simp [same]

theorem renderItems_texts (ss : List String) :
    renderItems (ss.map text) = ss.map Json.string := by
  induction ss with
  | nil => rfl
  | cons s ss ih => rw [List.map_cons, renderItems, render, ih, List.map_cons]

theorem sameItems_texts (ss : List String) :
    sameItems (ss.map text) (ss.map text) = true := by
  induction ss with
  | nil => simp [sameItems]
  | cons s ss ih => simp [sameItems, same_text, ih]

end Value

end Dossier
