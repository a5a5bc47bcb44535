import Dossier.Text.Lowercase
import Dossier.Value.Basic

/-!
# Predicates

A constraint on records, independent of where they are stored. User filters, permission conditions and
the guard on tenant and entity all become predicates, so that they combine by conjunction.

`all`, `any`, `both`, `either` and `negate` build simplified predicates: nested connectives of one kind
are flattened, constants are absorbed, a double negation is undone.
-/

namespace Dossier

inductive Relation where
  | eq
  | ne
  | gt
  | gte
  | lt
  | lte
deriving DecidableEq

def Relation.name : Relation → String
  | .eq => "eq"
  | .ne => "ne"
  | .gt => "gt"
  | .gte => "gte"
  | .lt => "lt"
  | .lte => "lte"

def Relation.ofName? (name : String) : Option Relation :=
  [eq, .ne, .gt, .gte, .lt, .lte].find? fun r => r.name == name

/-- Whether an ordering is what a relation asks for. -/
def Relation.admits (relation : Relation) (ordering : Ordering) : Bool :=
  match relation with
  | .eq => ordering == .eq
  | .ne => ordering != .eq
  | .gt => ordering == .gt
  | .gte => ordering != .lt
  | .lt => ordering == .lt
  | .lte => ordering != .gt

inductive TextMatch where
  | contains
  | startsWith
  | endsWith
deriving DecidableEq

def TextMatch.name : TextMatch → String
  | .contains => "contains"
  | .startsWith => "starts_with"
  | .endsWith => "ends_with"

def TextMatch.ofName? (name : String) : Option TextMatch :=
  [contains, .startsWith, .endsWith].find? fun m => m.name == name

/-- Whether a pattern stands anywhere in a text. -/
def occursIn (pattern : List Char) : List Char → Bool
  | [] => pattern.isEmpty
  | c :: rest => pattern.isPrefixOf (c :: rest) || occursIn pattern rest

/-- Whether a pattern stands in a text at the place a mode names. -/
def TextMatch.holds (mode : TextMatch) (pattern text : List Char) : Bool :=
  match mode with
  | .contains => occursIn pattern text
  | .startsWith => pattern.isPrefixOf text
  | .endsWith => pattern.isSuffixOf text

inductive Predicate where
  | always
  | never
  | compare (field : String) (relation : Relation) (value : Value)
  /-- Membership in a list, or the lack of it. -/
  | among (field : String) (values : List Value) (negated : Bool)
  | text (field : String) (mode : TextMatch) (pattern : String)
  | between (field : String) (low high : Value)
  | and (parts : List Predicate)
  | or (parts : List Predicate)
  | not (inner : Predicate)

instance : Inhabited Predicate := ⟨.always⟩

/-- What a predicate looks at: the value of each field, where there is one. -/
abbrev FieldSource := String → Option Value

namespace Predicate

/-! ## Building -/

def eq (field : String) (value : Value) : Predicate := .compare field .eq value

def ne (field : String) (value : Value) : Predicate := .compare field .ne value

/-- The parts of a conjunction with nested ones opened up and `always` dropped; `none` if one is
`never`. -/
def conjuncts : List Predicate → Option (List Predicate)
  | [] => some []
  | .always :: rest => conjuncts rest
  | .never :: _ => none
  | .and inner :: rest => (conjuncts rest).map (inner ++ ·)
  | part :: rest => (conjuncts rest).map (part :: ·)

/-- The parts of a disjunction with nested ones opened up and `never` dropped; `none` if one is
`always`. -/
def disjuncts : List Predicate → Option (List Predicate)
  | [] => some []
  | .never :: rest => disjuncts rest
  | .always :: _ => none
  | .or inner :: rest => (disjuncts rest).map (inner ++ ·)
  | part :: rest => (disjuncts rest).map (part :: ·)

/-- The conjunction of a list, simplified. -/
def all (parts : List Predicate) : Predicate :=
  match conjuncts parts with
  | none => .never
  | some [] => .always
  | some [part] => part
  | some parts => .and parts

def any (parts : List Predicate) : Predicate :=
  match disjuncts parts with
  | none => .always
  | some [] => .never
  | some [part] => part
  | some parts => .or parts

def both (p q : Predicate) : Predicate := all [p, q]

def either (p q : Predicate) : Predicate := any [p, q]

def negate : Predicate → Predicate
  | .always => .never
  | .never => .always
  | .not inner => inner
  | p => .not p

/-! ## Meaning -/

/-- Whether a field, if it has a value, equals a value. Nothing equals null only; a list equals a
value that is no list when one of its items does. -/
def fieldEq (actual : Option Value) (expected : Value) : Bool :=
  match actual, expected with
  | none, expected => expected.isNull
  | some (.list items), .list others => (Value.list items).looseEq (.list others)
  | some (.list items), expected => items.any fun item => item.looseEq expected
  | some actual, expected => actual.looseEq expected

/-- Whether a field stands in a relation to a value. Only `eq` null and `ne` hold of a missing field. -/
def compareHolds (actual : Option Value) (relation : Relation) (value : Value) : Bool :=
  match relation with
  | .eq => fieldEq actual value
  | .ne => !fieldEq actual value
  | relation =>
    match actual.bind fun a => a.compare? value with
    | some ordering => relation.admits ordering
    | none => false

/-- Whether a value is a text that matches a pattern, letter case aside. -/
def textHolds (mode : TextMatch) (pattern : String) (value : Value) : Bool :=
  match value.text? with
  | some s => mode.holds (lowered pattern.toList) (lowered s.toList)
  | none => false

/-- Whether a field, or one of the items of a list, matches a pattern. -/
def fieldTextHolds (mode : TextMatch) (pattern : String) : Option Value → Bool
  | some (.list items) => items.any (textHolds mode pattern)
  | some value => textHolds mode pattern value
  | none => false

/-- Whether a field lies between two values, both included. -/
def betweenHolds (actual : Option Value) (low high : Value) : Bool :=
  match actual with
  | some a =>
    ((a.compare? low).map (Relation.admits .gte)).getD false &&
      ((a.compare? high).map (Relation.admits .lte)).getD false
  | none => false

mutual

def holds (source : FieldSource) : Predicate → Bool
  | .always => true
  | .never => false
  | .compare field relation value => compareHolds (source field) relation value
  | .among field values negated => (values.any fun v => fieldEq (source field) v) != negated
  | .text field mode pattern => fieldTextHolds mode pattern (source field)
  | .between field low high => betweenHolds (source field) low high
  | .and parts => allHold source parts
  | .or parts => anyHolds source parts
  | .not inner => !inner.holds source

def allHold (source : FieldSource) : List Predicate → Bool
  | [] => true
  | part :: rest => part.holds source && allHold source rest

def anyHolds (source : FieldSource) : List Predicate → Bool
  | [] => false
  | part :: rest => part.holds source || anyHolds source rest

end

end Predicate

end Dossier
