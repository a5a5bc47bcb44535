import Dossier.Json.Basic

/-!
# Structures in documents

A structure is written as an object with its parts under their names, or as an array with its parts in
order. Names that a structure does not know are passed over; an array may stop early but not run over. A
part that is left out takes its default if it has one.

A choice is written as its name, or as an object with the name over null.
-/

namespace Dossier

namespace Json

/-- The parts of a structure in the order of their names, where they are given. -/
def parts? (names : List String) : Json → Option (List (Option Json))
  | .object members => some (names.map fun name => Entries.get? name members)
  | .array items =>
    if items.length ≤ names.length then
      some (items.map some ++ List.replicate (names.length - items.length) none)
    else none
  | _ => none

/-- A part that has to be given. -/
def needed? {α : Type} (read : Json → Option α) (part : Option Json) : Option α := part >>= read

/-- A part with a default. -/
def given? {α : Type} (default : α) (read : Json → Option α) : Option Json → Option α
  | some document => read document
  | none => some default

/-- Null for nothing, else what `read` makes of it. -/
def nullable? {α : Type} (read : Json → Option α) : Json → Option (Option α)
  | .null => some none
  | document => (read document).map some

/-- A part that may be left out or null. -/
def optional? {α : Type} (read : Json → Option α) : Option Json → Option (Option α) :=
  given? none (nullable? read)

def bool? : Json → Option Bool
  | .bool b => some b
  | _ => none

def int? (low high : Int) : Json → Option Int
  | .number (.int i) => if low ≤ i ∧ i ≤ high then some i else none
  | _ => none

/-- A natural number below a bound. -/
def nat? (bound : Nat) : Json → Option Nat
  | .number (.int i) => if 0 ≤ i ∧ i < bound then some i.toNat else none
  | _ => none

def list? {α : Type} (read : Json → Option α) : Json → Option (List α)
  | .array items => items.mapM read
  | _ => none

def dict? {α : Type} (read : Json → Option α) : Json → Option (Dict String α)
  | .object members =>
    (members.mapM fun (entry : String × Json) => (read entry.2).map fun a => (entry.1, a)).map Dict.ofList
  | _ => none

/-- The name of a choice without content. -/
def choice? : Json → Option String
  | .string s => some s
  | .object [(name, .null)] => some name
  | _ => none

end Json

end Dossier
