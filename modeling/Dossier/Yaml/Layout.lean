import Dossier.Yaml.Block
import Dossier.Yaml.Scalar
import Dossier.Yaml.Token

/-!
# From text to tokens

**Indentation.** Outside brackets and braces a block collection starts with the first item mark, key mark
or colon at a column greater than that of the collection around it, and ends before the first token at
a lesser column.

**Keys.** A node is known to be a key only when the colon after it is met. So the place before every node that
could be a key is remembered, and its key token is put there in retrospect. Such a place is given up when
the line ends or a thousand characters on; giving it up is an error where nothing but a key may stand.
-/

namespace Dossier

namespace Yaml

/-- A place where a key may turn out to start. -/
structure KeyPlace where
  place : Place
  /-- How many tokens come before it. -/
  index : Nat
  /-- Whether nothing but a key may stand there. -/
  required : Bool

/-- Reading in progress. -/
structure Layout where
  cursor : Cursor
  /-- The tokens so far, newest first. -/
  tokens : List Token := []
  /-- The columns of the open block collections, innermost first. -/
  columns : List Nat := []
  /-- A possible key outside brackets and braces, and one inside each open pair, innermost first. -/
  keys : List (Option KeyPlace) := [none]
  /-- Whether a key may start here. -/
  keyAllowed : Bool := true

namespace Layout

def inFlow (s : Layout) : Bool := 1 < s.keys.length

/-- The least column of what belongs inside the innermost block collection. -/
def margin (s : Layout) : Nat := (s.columns.head?.map (· + 1)).getD 0

def push (s : Layout) (token : Token) : Layout := { s with tokens := token :: s.tokens }

def moveTo (s : Layout) (cursor : Cursor) : Layout := { s with cursor }

def forward (s : Layout) (n : Nat) : Layout := s.moveTo (s.cursor.forward n)

/-! ## Keys and indentation -/

/-- Puts tokens where only `index` tokens have been. -/
def insertAt (s : Layout) (index : Nat) (tokens : List Token) : Layout :=
  let later := s.tokens.length - index
  { s with tokens := s.tokens.take later ++ tokens.reverse ++ s.tokens.drop later }

def dropKey (s : Layout) : Option Layout :=
  match s.keys with
  | some key :: outer => if key.required then none else some { s with keys := none :: outer }
  | _ => some s

def offerKey (s : Layout) : Option Layout :=
  if s.keyAllowed then
    s.dropKey.map fun s =>
      let key : KeyPlace :=
        ⟨s.cursor.place, s.tokens.length, !s.inFlow && s.columns.head? == some s.cursor.place.column⟩
      { s with keys := some key :: s.keys.drop 1 }
  else some s

/-- Gives up the keys that are too far back. -/
def dropStale (s : Layout) : Option Layout :=
  let here := s.cursor.place
  let check (key : Option KeyPlace) : Option (Option KeyPlace) :=
    match key with
    | some k =>
      if k.place.line < here.line || k.place.offset + 1024 < here.offset then
        if k.required then none else some none
      else some (some k)
    | none => some none
  (s.keys.mapM check).map fun keys => { s with keys }

/-- Opens a block collection at a column unless one is open there; the token is put at `index`. -/
def openBlock (s : Layout) (column index : Nat) (token : Token) : Layout :=
  if !s.inFlow && s.margin ≤ column then
    { s.insertAt index [token] with columns := column :: s.columns }
  else s

/-- Closes the block collections at columns where `deeper` holds. -/
def closeBlocks (s : Layout) (deeper : Nat → Bool) : Layout :=
  if s.inFlow then s
  else
    let closed := s.columns.takeWhile deeper
    { s with
      columns := s.columns.drop closed.length
      tokens := List.replicate closed.length .blockEnd ++ s.tokens }

/-! ## Kinds of tokens -/

/-- A token that ends all that is open: a marker, a directive, or the end of the stream. -/
def boundary (s : Layout) : Option Layout :=
  (s.closeBlocks fun _ => true).dropKey.map fun s => { s with keyAllowed := false }

/-- A directive: only the version of the language is known. -/
def directive (s : Layout) : Option Layout := do
  let line := s.cursor.rest.takeWhile fun c => !isBreak c
  let words := (line.takeWhile (· ≠ '#')).splitOnP isGap
  match words.filter (! ·.isEmpty) with
  | [name, version] =>
    if name == "%YAML".toList && (version == "1.1".toList || version == "1.2".toList) then
      (← s.boundary).push .directive |>.forward line.length
    else none
  | _ => none

def marker (s : Layout) (token : Token) : Option Layout :=
  s.boundary.map fun s => (s.push token).forward 3

def openFlow (s : Layout) (token : Token) : Option Layout :=
  s.offerKey.map fun s => { (s.push token).forward 1 with keys := none :: s.keys, keyAllowed := true }

def closeFlow (s : Layout) (token : Token) : Option Layout :=
  s.dropKey.map fun s =>
    { (s.push token).forward 1 with
      keys := if s.inFlow then s.keys.drop 1 else s.keys
      keyAllowed := false }

def comma (s : Layout) : Option Layout :=
  s.dropKey.map fun s => { (s.push .comma).forward 1 with keyAllowed := true }

/-- A mark that opens a block collection of its own outside brackets and braces. -/
def blockMark (s : Layout) (collection token : Token) (keyAllowed : Bool) : Option Layout :=
  if !s.inFlow && !s.keyAllowed then none
  else
    (s.openBlock s.cursor.place.column s.tokens.length collection).dropKey.map fun s =>
      { (s.push token).forward 1 with keyAllowed }

/-- A colon: its key is the one remembered, if any. -/
def value (s : Layout) : Option Layout :=
  match s.keys with
  | some key :: outer =>
    let s := { s.insertAt key.index [.key] with keys := none :: outer, keyAllowed := false }
    some (((s.openBlock key.place.column key.index .blockMapping).push .value).forward 1)
  | _ => s.blockMark .blockMapping .value !s.inFlow

/-- A token that a key may start with, of some characters after a mark. -/
def leading (s : Layout) (token : Token) (length : Nat) : Option Layout :=
  s.offerKey.map fun s => { (s.push token).forward (1 + length) with keyAllowed := false }

def isNameChar (c : Char) : Bool := c.isAlphanum || c == '_' || c == '-'

/-- What may follow the name of an anchor or alias. -/
def endsName (cs : List Char) : Bool :=
  endsWord cs || (cs.head?.map fun c => "?:,]\x7d%@\x60".toList.contains c).getD false

/-- An anchor or alias. -/
def named (s : Layout) (token : String → Token) : Option Layout :=
  let name := (s.cursor.rest.drop 1).takeWhile isNameChar
  if name.isEmpty || !endsName (s.cursor.rest.drop (1 + name.length)) then none
  else s.leading (token (String.ofList name)) name.length

def isTagChar (c : Char) : Bool := isNameChar c || ";/?:@&=+$.!~*'()".toList.contains c

def tagOf? (cs : List Char) : Option Tag :=
  match cs with
  | [] => some .unspecific
  | '!' :: name => if name.isEmpty || name.contains '!' then none else some (.core (String.ofList name))
  | name => if name.contains '!' then none else some (.own (String.ofList name))

/-- The tag written out between angle brackets. -/
def spelledTag (cs : List Char) : Tag :=
  let core := "tag:yaml.org,2002:".toList
  match cs with
  | '!' :: name => if name.isEmpty then .unspecific else .own (String.ofList name)
  | name => if core.isPrefixOf name then .core (String.ofList (name.drop core.length)) else .other (String.ofList name)

def tag (s : Layout) : Option Layout := do
  let body := s.cursor.rest.drop 1
  let (tag, length) ← match body with
    | '<' :: spelled =>
      let name := spelled.takeWhile fun c => isTagChar c || c == ',' || c == '[' || c == ']'
      if name.isEmpty || spelled[name.length]? ≠ some '>' then none
      else some (spelledTag name, name.length + 2)
    | _ =>
      let name := body.takeWhile isTagChar
      (tagOf? name).map (·, name.length)
  let after := body.drop length
  if endsWord after || (s.inFlow && after.head? == some ',') then s.leading (.tag tag) length else none

/-- A literal or folded scalar. -/
def block (s : Layout) (folded : Bool) : Option Layout := do
  let line := (s.cursor.rest.drop 1).takeWhile fun c => !isBreak c
  let header ← BlockHeader.read? folded line
  let s ← s.dropKey
  let body := (s.cursor.forward (1 + line.length)).skipLines 1
  let (text, taken) ← block? header s.margin body.rest
  let scalar := Token.scalar (if folded then .folded else .literal) text
  some { (s.push scalar).moveTo (body.skipLines taken) with keyAllowed := true }

def quoted (s : Layout) (double : Bool) : Option Layout := do
  let s ← s.offerKey
  let start := s.cursor.forward 1
  let (content, next) ← quoted? double [] start.place start.rest
  let text ← unquoted? double content
  some { (s.push (.scalar .quoted text)).moveTo next with keyAllowed := false }

def plain (s : Layout) : Option Layout := do
  let s ← s.offerKey
  let scalar ← plain? s.inFlow s.margin .word [] s.cursor.place s.cursor.rest
  some { (s.push (.scalar .plain scalar.text)).moveTo scalar.next with keyAllowed := scalar.lineEnded }

/-- Characters that no plain scalar starts with. -/
def isIndicator (c : Char) : Bool := "-?:,[]\x7b\x7d#&*!|>'\"%@\x60".toList.contains c

/-- Whether a plain scalar starts with a character before some others. -/
def startsPlain (s : Layout) (c : Char) (rest : List Char) : Bool :=
  !(isGap c || isBreak c || isIndicator c) || (c == '-' && !(rest.head?.map isGap).getD false) ||
    (!s.inFlow && (c == '?' || c == ':') && !endsWord rest)

/-! ## Reading on -/

/-- Goes to the next token, over blanks, comments and line ends. A tab is a blank only where no key may
start, and a line end outside brackets and braces lets a key start. -/
def toToken (s : Layout) : Layout :=
  let (cursor, keyAllowed) := go false s.keyAllowed s.cursor.place s.cursor.rest
  { s with cursor, keyAllowed }
where
  go (comment keyAllowed : Bool) (place : Place) : List Char → Cursor × Bool
    | [] => (⟨place, []⟩, keyAllowed)
    | c :: rest =>
      if isBreak c then go false (keyAllowed || !s.inFlow) (place.after c) rest
      else if comment || c == '#' then go true keyAllowed (place.after c) rest
      else if c == ' ' || (c == '\t' && (s.inFlow || !keyAllowed)) then go false keyAllowed (place.after c) rest
      else (⟨place, c :: rest⟩, keyAllowed)

def token (s : Layout) (c : Char) (rest : List Char) : Option Layout :=
  let lineStart := s.cursor.place.column == 0
  if lineStart && c == '%' then s.directive
  else if lineStart && startsMarker (c :: rest) then
    s.marker (if c == '-' then .documentStart else .documentEnd)
  else if c == '[' then s.openFlow .flowSequence
  else if c == '\x7b' then s.openFlow .flowMapping
  else if c == ']' then s.closeFlow .flowSequenceEnd
  else if c == '\x7d' then s.closeFlow .flowMappingEnd
  else if c == ',' then s.comma
  else if c == '-' && endsWord rest then s.blockMark .blockSequence .item true
  else if c == '?' && (!s.inFlow || endsWord rest) then s.blockMark .blockMapping .key !s.inFlow
  else if c == ':' && (s.inFlow || endsWord rest) then s.value
  else if c == '*' then s.named .alias
  else if c == '&' then s.named .anchor
  else if c == '!' then s.tag
  else if c == '|' && !s.inFlow then s.block false
  else if c == '>' && !s.inFlow then s.block true
  else if c == '\'' then s.quoted false
  else if c == '"' then s.quoted true
  else if s.startsPlain c rest then s.plain
  else none

/-- Reads to the end of the stream. Every token takes a character, so `fuel` is the number of characters
left and one more. -/
def finish : Nat → Layout → Option Layout
  | 0, _ => none
  | fuel + 1, s => do
    let s ← s.toToken.dropStale
    let s := s.closeBlocks fun column => s.cursor.place.column < column
    match s.cursor.rest with
    | [] => s.boundary
    | c :: rest => (← s.token c rest).finish fuel

end Layout

def tokens? (text : String) : Option (List Token) := do
  let cs ← characters? text
  let s ← Layout.finish (cs.length + 1) { cursor := { rest := cs } }
  some s.tokens.reverse

end Yaml

end Dossier
