import Dossier.Condition.Basic
import Dossier.Text.Shape
import Dossier.Time.Text

/-!
# Variables of row conditions

A condition can refer to the request that is served: `$user.id`, `$user.roles`, `$tenant.id`,
`$system.now`, `$system.today`, and `$path.…` for the parameters of the path. References are replaced in
one pass; what a variable holds is not looked at again.
-/

namespace Dossier

structure Caller where
  tenant : String
  user : String
  path : Dict String String := ∅

/-- The variables of one request, by dotted name. -/
abbrev Variables := Dict String Json

namespace Variables

def ofCaller (caller : Caller) (roles : List String) (now : Instant) : Variables :=
  .ofList <|
    [("user.id", .string caller.user), ("user.roles", .array (roles.map .string)),
      ("tenant.id", .string caller.tenant), ("system.now", .string now.textToSecond),
      ("system.today", .string now.date.text)] ++
    caller.path.entries.map fun (name, value) => ("path." ++ name, .string value)

/-- What a text stands for: the variable it refers to, or itself. -/
def ofText (vars : Variables) (s : String) : Except ConditionError Json :=
  match variableName? s with
  | none => .ok (.string s)
  | some name =>
    match vars.get? name with
    | some value => .ok value
    | none => .error (.unknownVariable s)

def isReference : Json → Bool
  | .string s => (variableName? s).isSome
  | _ => false

/-- What an item of an array becomes: its own items where a reference stands for an array. -/
def spliced (item resolved : Json) : List Json :=
  match resolved with
  | .array inner => if isReference item then inner else [.array inner]
  | other => [other]

mutual

/-- A document with the references in it, at any depth of arrays, replaced. -/
def resolve (vars : Variables) : Json → Except ConditionError Json
  | .string s => vars.ofText s
  | .array items => (resolveItems vars items).map .array
  | other => .ok other

def resolveItems (vars : Variables) : List Json → Except ConditionError (List Json)
  | [] => .ok []
  | item :: rest =>
    match resolve vars item with
    | .error e => .error e
    | .ok resolved => (resolveItems vars rest).map (spliced item resolved ++ ·)

end

end Variables

end Dossier
