/-!
# Commands

What can be asked for on the command line, and how it is written. A command is two words, then its
operands and options in any order:

    schema check FILE
    schema fields FILE ENTITY
    filter compile --schema FILE --entity NAME --filters JSON [--sort ORDER]
    condition compile --schema FILE --entity NAME --condition JSON [--tenant ID] --user ID [--role NAME]…

The switches `--text` and `--json` may stand anywhere; with both the answer is a document. An option
takes the next word, which then may not look like an option, or the rest of its own word after an equals
sign. After `--` every word is an operand.
-/

namespace Dossier

inductive Command where
  /-- Check a file of entity definitions. -/
  | checkSchema (file : String)
  /-- Show the fields of an entity. -/
  | listFields (file entity : String)
  /-- Show what a list of filters compiles to. -/
  | compileFilters (file entity filters : String) (sort : Option String)
  /-- Show what a row condition compiles to for a user. -/
  | compileCondition (file entity condition tenant user : String) (roles : List String)
deriving DecidableEq, Repr

def Command.file : Command → String
  | .checkSchema file | .listFields file _ | .compileFilters file .. | .compileCondition file .. => file

structure Invocation where
  command : Command
  /-- Whether the answer is a document rather than a text for people. -/
  asDocument : Bool
deriving DecidableEq, Repr

/-! ## Words -/

/-- What may follow the name of a command. -/
structure Usage where
  operands : Nat
  /-- Options that may be given once. -/
  single : List String := []
  /-- Options that may be given any number of times. -/
  repeated : List String := []

/-- What did follow. -/
structure Arguments where
  text : Bool := false
  json : Bool := false
  operands : List String := []
  /-- Options with their values, in order. -/
  options : List (String × String) := []

namespace Arguments

def operand? (usage : Usage) (a : Arguments) (word : String) : Option Arguments :=
  if a.operands.length < usage.operands then some { a with operands := a.operands ++ [word] } else none

def option? (usage : Usage) (a : Arguments) (name value : String) : Option Arguments :=
  if usage.repeated.contains name || (usage.single.contains name && (a.options.lookup name).isNone) then
    some { a with options := a.options ++ [(name, value)] }
  else none

/-- Takes in a switch, once. -/
def switch? (a : Arguments) (name : String) : Option Arguments :=
  if name == "text" && !a.text then some { a with text := true }
  else if name == "json" && !a.json then some { a with json := true }
  else none

def isSwitch (name : String) : Bool := name == "text" || name == "json"

/-- Whether a word stands for itself: it has no hyphen at its start, or is one. -/
def isPlain (word : String) : Bool := word == "-" || word.toList.head? != some '-'

/-- The name of an option and the value in the same word, if there is one. -/
def splitOption (name : List Char) : String × Option String :=
  let value := name.dropWhile (· ≠ '=')
  (String.ofList (name.takeWhile (· ≠ '=')), if value.isEmpty then none else some (String.ofList (value.drop 1)))

/-- Reads the words after the name of a command. -/
def read? (usage : Usage) (a : Arguments) : List String → Option Arguments
  | [] => some a
  | word :: rest =>
    if isPlain word then (a.operand? usage word).bind fun a => read? usage a rest
    else if word == "--" then rest.foldlM (operand? usage) a
    else
      match word.toList with
      | '-' :: '-' :: name =>
        match splitOption name with
        | (name, some value) => (a.option? usage name value).bind fun a => read? usage a rest
        | (name, none) =>
          if isSwitch name then (a.switch? name).bind fun a => read? usage a rest
          else
            match rest with
            | value :: rest =>
              if isPlain value then (a.option? usage name value).bind fun a => read? usage a rest else none
            | [] => none
      | _ => none

/-- Reads the switches before a word. -/
def switches? (a : Arguments) : List String → Option (Arguments × List String)
  | [] => some (a, [])
  | word :: rest =>
    match word.toList with
    | '-' :: '-' :: name => (a.switch? (String.ofList name)).bind fun a => switches? a rest
    | _ => some (a, word :: rest)

def value? (a : Arguments) (name : String) : Option String := a.options.lookup name

def values (a : Arguments) (name : String) : List String :=
  a.options.filterMap fun (option : String × String) => if option.1 == name then some option.2 else none

end Arguments

/-! ## Commands in words -/

namespace Command

/-- The name of a file, which is not empty. -/
def fileName? (name : String) : Option String := if name.isEmpty then none else some name

/-- The tenant a condition is compiled for when none is named. -/
def defaultTenant : String := "default"

def usage? (subject action : String) : Option Usage :=
  if subject == "schema" then
    if action == "check" then some { operands := 1 }
    else if action == "fields" then some { operands := 2 }
    else none
  else if action != "compile" then none
  else if subject == "filter" then some { operands := 0, single := ["schema", "entity", "filters", "sort"] }
  else if subject == "condition" then
    some { operands := 0, single := ["schema", "entity", "condition", "tenant", "user"], repeated := ["role"] }
  else none

/-- The command of two words and their arguments. -/
def ofArguments? (subject action : String) (a : Arguments) : Option Command :=
  match subject, action, a.operands with
  | "schema", "check", [file] => (fileName? file).map .checkSchema
  | "schema", "fields", [file, entity] => (fileName? file).map (.listFields · entity)
  | "filter", "compile", [] => do
    let file ← a.value? "schema" >>= fileName?
    some (.compileFilters file (← a.value? "entity") (← a.value? "filters") (a.value? "sort"))
  | "condition", "compile", [] => do
    let file ← a.value? "schema" >>= fileName?
    let tenant := (a.value? "tenant").getD defaultTenant
    some (.compileCondition file (← a.value? "entity") (← a.value? "condition") tenant (← a.value? "user")
      (a.values "role"))
  | _, _, _ => none

end Command

/-- Reads the words of a command line. Each switch may stand once before the first word of the
command, once between its words, and once after them. -/
def Invocation.read? (words : List String) : Option Invocation := do
  let (outer, rest) ← Arguments.switches? {} words
  match rest with
  | [] => none
  | subject :: rest =>
    let (middle, rest) ← Arguments.switches? {} rest
    match rest with
    | [] => none
    | action :: rest =>
      let usage ← Command.usage? subject action
      let inner ← Arguments.read? usage {} rest
      let command ← Command.ofArguments? subject action inner
      some ⟨command, outer.json || middle.json || inner.json⟩

end Dossier
