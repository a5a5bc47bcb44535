import Dossier.Json.Basic
import Dossier.Yaml.Node

/-!
# What plain scalars mean

A plain scalar is null, a truth value, an integer, a double, or else a text. A tag of the language
decides instead, whatever the style; then a scalar that is nothing of the kind is refused. All other
scalars are texts.

As a document (`Node.document?`) a mapping is an object whose keys are the texts of scalars; of two members
with one key the later one stays.
-/

namespace Dossier

namespace Yaml

/-- The spellings of null, other than leaving it out. -/
def isNull (s : String) : Bool := s == "null" || s == "Null" || s == "NULL" || s == "~"

def truth? (s : String) : Option Bool :=
  if s == "true" || s == "True" || s == "TRUE" then some true
  else if s == "false" || s == "False" || s == "FALSE" then some false
  else none

/-! ## Numbers -/

/-- The number written by digits of a base, at least one. -/
def natural? (base : Nat) (cs : List Char) : Option Nat := if cs.isEmpty then none else numberIn? base cs

/-- Digits after a superfluous zero, which make no number. -/
def isPaddedNumber (cs : List Char) : Bool :=
  let (_, digits) := splitSign cs
  1 < digits.length && digits.head? == some '0' && digits.all Char.isDigit

/-- An integer without its sign: hexadecimal, octal, binary or decimal digits. -/
def magnitude? : List Char → Option Nat
  | '0' :: 'x' :: rest => natural? 16 rest
  | '0' :: 'o' :: rest => natural? 8 rest
  | '0' :: 'b' :: rest => natural? 2 rest
  | cs => natural? 10 cs

/-- An integer: an optional sign and a magnitude. -/
def integer? (cs : List Char) : Option Int :=
  if isPaddedNumber cs then none
  else
    let (neg, rest) := splitSign cs
    (magnitude? rest).map fun n => if neg then -(n : Int) else n

/-- A scalar that names a number outside the reals. -/
def isBeyondReals (cs : List Char) : Bool :=
  let (neg, rest) := splitSign cs
  let name := String.ofList rest
  name == ".inf" || name == ".Inf" || name == ".INF" ||
    (!neg && rest == cs && (name == ".nan" || name == ".NaN" || name == ".NAN"))

/-- An integer as a document, if it fits 64 bits. -/
def integerDocument? (i : Int) : Option Json :=
  if -0x8000000000000000 ≤ i ∧ i < 0x10000000000000000 then some (.number (.int i)) else none

/-- A number as a document: integers of 128 bits must fit 64, longer ones are doubles, and a document has
no number outside the reals. The outer `none` says that the text is no number, the inner one that it is
refused. -/
def number? (cs : List Char) : Option (Option Json) :=
  match integer? cs with
  | some i =>
    if -0x80000000000000000000000000000000 ≤ i ∧ i < 0x100000000000000000000000000000000 then
      some (integerDocument? i)
    else double
  | none => if isPaddedNumber cs then none else double
where
  double : Option (Option Json) :=
    if isBeyondReals cs then some (some .null)
    else (Double.read? cs).map fun d => some (.number (.double d))

/-! ## Scalars as documents -/

def plainDocument? (text : String) : Option Json :=
  if text.isEmpty || isNull text then some .null
  else
    match truth? text with
    | some b => some (.bool b)
    | none => (number? text.toList).getD (some (.string text))

def declaredInteger? (text : String) : Option Json := integer? text.toList >>= integerDocument?

def declaredDouble? (text : String) : Option Json :=
  if isBeyondReals text.toList then some .null else (Double.read? text.toList).map fun d => .number (.double d)

def scalarDocument? (tag : Option Tag) (style : ScalarStyle) (text : String) : Option Json :=
  match tag with
  | some (.core name) =>
    if name == "bool" then (truth? text).map .bool
    else if name == "int" then declaredInteger? text
    else if name == "float" then declaredDouble? text
    else if name == "null" then if isNull text then some .null else none
    else some (.string text)
  | some (.own _) => none
  | some _ => some (.string text)
  | none => if style = .plain then plainDocument? text else some (.string text)

/-- Tags of the document's own mean nothing to a collection's content, so they are refused. -/
def isOwn : Option Tag → Bool
  | some (.own _) => true
  | _ => false

namespace Node

def text? : Node → Option String
  | .scalar _ _ text => some text
  | _ => none

/-- How deep collections may nest in a document. -/
def depth : Nat := 128

mutual

/-- A node as a document inside containers that may go `depth` deeper. -/
def documentWithin? (depth : Nat) : Node → Option Json
  | .scalar tag style text => scalarDocument? tag style text
  | .sequence tag items =>
    match depth with
    | 0 => none
    | depth + 1 => if isOwn tag then none else (itemsWithin? depth items).map .array
  | .mapping tag members =>
    match depth with
    | 0 => none
    | depth + 1 => if isOwn tag then none else (membersWithin? depth members).map Json.ofMembers

def itemsWithin? (depth : Nat) : List Node → Option (List Json)
  | [] => some []
  | item :: rest => do
    let item ← documentWithin? depth item
    (itemsWithin? depth rest).map (item :: ·)

def membersWithin? (depth : Nat) : List (Node × Node) → Option (List (String × Json))
  | [] => some []
  | (key, value) :: rest => do
    let key ← key.text?
    let value ← documentWithin? depth value
    (membersWithin? depth rest).map ((key, value) :: ·)

end

def document? (node : Node) : Option Json := node.documentWithin? depth

end Node

/-- A text as a document; a text without one is null. -/
def document? (text : String) : Option Json :=
  (Node.read? text).bind fun node => (node.map Node.document?).getD (some .null)

end Yaml

end Dossier
