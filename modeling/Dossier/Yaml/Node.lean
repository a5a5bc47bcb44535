import Dossier.Yaml.Layout

/-!
# YAML nodes

A stream holds at most one document here, and a document is one node. An alias stands for the node that
its anchor names, which has to come before it and be complete.

Reading follows the tokens. Where a node may be left out an empty plain scalar takes its place: after
an item mark, a key mark or a colon with nothing behind it, and after properties alone.
-/

namespace Dossier

namespace Yaml

inductive Node where
  | scalar (tag : Option Tag) (style : ScalarStyle) (text : String)
  | sequence (tag : Option Tag) (items : List Node)
  | mapping (tag : Option Tag) (members : List (Node × Node))

namespace Node

def empty : Node := .scalar none .plain ""

instance : Inhabited Node := ⟨empty⟩

end Node

/-- The tokens left, and the nodes that have been named. -/
structure Supply where
  tokens : List Token
  anchors : List (String × Node) := []

abbrev Parse := StateT Supply Option

namespace Parse

def peek : Parse (Option Token) := do return (← get).tokens.head?

def next (among : List Token) : Parse Bool := do
  return (← peek).elim false among.contains

def skip : Parse Unit := modify fun s => { s with tokens := s.tokens.drop 1 }

/-- Goes over the next token if it is the one given. -/
def accept (token : Token) : Parse Bool := do
  if ← next [token] then
    skip
    return true
  else return false

def expect (token : Token) : Parse Unit := do
  if !(← accept token) then failure

/-- The anchor and the tag before a node, in either order. -/
def properties : Parse (Option String × Option Tag) := do
  match ← peek with
  | some (.anchor name) =>
    skip
    match ← peek with
    | some (.tag tag) =>
      skip
      return (some name, some tag)
    | _ => return (some name, none)
  | some (.tag tag) =>
    skip
    match ← peek with
    | some (.anchor name) =>
      skip
      return (some name, some tag)
    | _ => return (none, some tag)
  | _ => return (none, none)

/-- The tag of a scalar: a lone mark says nothing. -/
def scalarTag : Option Tag → Option Tag
  | some .unspecific => none
  | tag => tag

mutual

/-- A node. Block collections may stand only where `block` holds, and items at the indentation of
the mapping around them only where `level` does. -/
def node (fuel : Nat) (block level : Bool) : Parse Node :=
  match fuel with
  | 0 => failure
  | fuel + 1 => do
    match ← peek with
    | some (.alias name) =>
      skip
      match (← get).anchors.lookup name with
      | some node => return node
      | none => failure
    | _ =>
      let (anchor, tag) ← properties
      let node ← content fuel block level tag (anchor.isSome || tag.isSome)
      if let some name := anchor then
        modify fun s => { s with anchors := (name, node) :: s.anchors }
      return node

/-- A node after its properties; with properties it may be left out. -/
def content (fuel : Nat) (block level : Bool) (tag : Option Tag) (optional : Bool) : Parse Node :=
  match fuel with
  | 0 => failure
  | fuel + 1 => do
    match ← peek with
    | some (.scalar style text) =>
      skip
      return .scalar (scalarTag tag) (if tag = some .unspecific then .plain else style) text
    | some .flowSequence =>
      skip
      return .sequence tag (← flowItems fuel true)
    | some .flowMapping =>
      skip
      return .mapping tag (← flowMembers fuel true)
    | some .item =>
      if level then return .sequence tag (← levelItems fuel)
      else if optional then return .scalar (scalarTag tag) .plain ""
      else failure
    | some .blockSequence =>
      if block then
        skip
        return .sequence tag (← blockItems fuel)
      else if optional then return .scalar (scalarTag tag) .plain ""
      else failure
    | some .blockMapping =>
      if block then
        skip
        return .mapping tag (← blockMembers fuel)
      else if optional then return .scalar (scalarTag tag) .plain ""
      else failure
    | _ => if optional then return .scalar (scalarTag tag) .plain "" else failure

/-- A node unless one of some tokens, or the end, comes first. -/
def nodeBefore (fuel : Nat) (block level : Bool) (tokens : List Token) : Parse Node :=
  match fuel with
  | 0 => failure
  | fuel + 1 => do
    if ← next tokens then return .empty
    else node fuel block level

def blockItems (fuel : Nat) : Parse (List Node) :=
  match fuel with
  | 0 => failure
  | fuel + 1 => do
    if ← accept .blockEnd then return []
    expect .item
    let item ← nodeBefore fuel true false [.item, .blockEnd]
    return item :: (← blockItems fuel)

/-- Items at the indentation of the mapping around them. -/
def levelItems (fuel : Nat) : Parse (List Node) :=
  match fuel with
  | 0 => failure
  | fuel + 1 => do
    if ← accept .item then
      let item ← nodeBefore fuel true false [.item, .key, .value, .blockEnd]
      return item :: (← levelItems fuel)
    else return []

def blockMembers (fuel : Nat) : Parse (List (Node × Node)) :=
  match fuel with
  | 0 => failure
  | fuel + 1 => do
    if ← accept .blockEnd then return []
    expect .key
    let key ← nodeBefore fuel true true [.key, .value, .blockEnd]
    let value ← if ← accept .value then nodeBefore fuel true true [.key, .value, .blockEnd] else pure .empty
    return (key, value) :: (← blockMembers fuel)

/-- The items of a sequence in brackets. A key mark makes an item a mapping of one member. -/
def flowItems (fuel : Nat) (first : Bool) : Parse (List Node) :=
  match fuel with
  | 0 => failure
  | fuel + 1 => do
    if ← accept .flowSequenceEnd then return []
    if !first then expect .comma
    if ← accept .key then
      let key ← nodeBefore fuel false false [.value, .comma, .flowSequenceEnd]
      let value ← if ← accept .value then nodeBefore fuel false false [.comma, .flowSequenceEnd] else pure .empty
      return .mapping none [(key, value)] :: (← flowItems fuel false)
    else if ← accept .flowSequenceEnd then return []
    else
      let item ← node fuel false false
      return item :: (← flowItems fuel false)

def flowMembers (fuel : Nat) (first : Bool) : Parse (List (Node × Node)) :=
  match fuel with
  | 0 => failure
  | fuel + 1 => do
    if ← accept .flowMappingEnd then return []
    if !first then expect .comma
    if ← accept .key then
      let key ← nodeBefore fuel false false [.value, .comma, .flowMappingEnd]
      let value ← if ← accept .value then nodeBefore fuel false false [.comma, .flowMappingEnd] else pure .empty
      return (key, value) :: (← flowMembers fuel false)
    else if ← accept .flowMappingEnd then return []
    else
      let key ← node fuel false false
      return (key, .empty) :: (← flowMembers fuel false)

end

/-- The tokens that no content starts with. -/
def outside : List Token := [.directive, .documentStart, .documentEnd]

/-- The only document of a stream; none in an empty stream. A start marker is needed only after a
directive. -/
def document (fuel : Nat) : Parse (Option Node) := do
  if (← peek).isNone then return none
  let directive ← accept .directive
  let marked ← accept .documentStart
  if directive && !marked then failure
  let bare ← peek
  if marked && bare.isNone then return some .empty
  let node ← if marked then nodeBefore fuel true false outside else node fuel true false
  return some node

end Parse

namespace Node

/-- The node of a text; none for a text without a document. Every call takes a token or is one of
three made for a token, which bounds the depth of calls. -/
def read? (text : String) : Option (Option Node) := do
  let tokens ← tokens? text
  let (node, left) ← (Parse.document (4 * tokens.length + 4)).run { tokens }
  if (left.tokens.dropWhile (· == .documentEnd)).isEmpty then some node else none

end Node

end Yaml

end Dossier
