import Dossier.Numeric.Digit
import Dossier.Yaml.Text

/-!
# Scalars in flow

Plain and quoted scalars may run over several lines. Their content is a sequence of pieces: characters
that fold, characters that an escape has made literal, and line ends that an escape has taken away.

**Folding** (`fold`): blanks around a line end disappear. A single line end becomes a blank; of several,
the first disappears. Blanks within a line stay.

Reading finds where a scalar ends and what stands in it (`plain?`, `quoted?`); the pieces of a quoted one
come from `singlePieces` and `doublePieces?`.
-/

namespace Dossier

namespace Yaml

/-! ## Folding -/

inductive Piece where
  | folding (c : Char)
  /-- A character that stands for itself, even a blank. -/
  | literal (c : Char)
  /-- The place of a line end that was escaped. -/
  | joint

/-- What separates two words: blanks within a line, or line ends. -/
inductive Gap where
  | blanks (cs : List Char)
  /-- The first line end, if it counts, and those after it. -/
  | breaks (first : Option Char) (more : List Char)

namespace Gap

def empty : Gap := .blanks []

def add (c : Char) : Gap → Gap
  | .blanks cs => if isBreak c then .breaks (some c) [] else .blanks (cs ++ [c])
  | .breaks first more => if isBreak c then .breaks first (more ++ [c]) else .breaks first more

/-- What is left of a gap. -/
def folded : Gap → List Char
  | .blanks cs => cs
  | .breaks (some '\n') [] => [' ']
  | .breaks (some '\n') more => more
  | .breaks first more => first.toList ++ more

end Gap

/-- Folds pieces after a gap; `keep` says whether a gap at the end stays. -/
def fold (keep : Bool) (gap : Gap) : List Piece → List Char
  | [] => if keep then gap.folded else []
  | .literal c :: rest => gap.folded ++ c :: fold keep .empty rest
  | .joint :: rest => gap.folded ++ fold keep (.breaks none []) rest
  | .folding c :: rest =>
    if isGap c || isBreak c then fold keep (gap.add c) rest
    else gap.folded ++ c :: fold keep .empty rest

/-! ## Plain scalars -/

/-- A plain scalar as found: its text, whether a line ended after it, and where reading goes on. -/
structure PlainScalar where
  text : String
  lineEnded : Bool
  next : Cursor

/-- Where reading a plain scalar is: inside a word, or in a gap in which a line may have ended. -/
inductive PlainState where
  | word
  | gap (lineEnded : Bool)

/-- The plain scalar whose characters have been taken, newest first. -/
def PlainState.found (state : PlainState) (taken : List Char) (next : Cursor) : PlainScalar where
  text := String.ofList (fold false .empty (taken.reverse.map .folding))
  lineEnded := match state with
    | .word => false
    | .gap lineEnded => lineEnded
  next := next

/-- Whether a plain scalar ends before a text: at a comment or a marker, at a lesser indentation, before
a colon that ends a word, and at a delimiter of the collection it stands in. -/
def endsPlain (flow : Bool) (margin : Nat) (state : PlainState) (place : Place) : List Char → Bool
  | [] => true
  | c :: rest =>
    (match state with
      | .word => false
      | .gap _ =>
        c == '#' || (place.column == 0 && startsMarker (c :: rest)) || (!flow && place.column < margin)) ||
    (c == ':' && endsWord rest) || (flow && isDelimiter c)

/-- Reads a plain scalar. Inside brackets and braces a colon before a delimiter is refused; after a line
end a tab may not stand in for indentation. -/
def plain? (flow : Bool) (margin : Nat) (state : PlainState) (taken : List Char) (place : Place)
    (cs : List Char) : Option PlainScalar :=
  match cs with
  | [] => some (state.found taken ⟨place, cs⟩)
  | c :: rest =>
    if isBreak c then plain? flow margin (.gap true) (c :: taken) (place.after c) rest
    else if isGap c then
      match state with
      | .gap true =>
        if c == '\t' && place.column < margin then none
        else plain? flow margin state (c :: taken) (place.after c) rest
      | .gap false => plain? flow margin state (c :: taken) (place.after c) rest
      | .word => plain? flow margin (.gap false) (c :: taken) (place.after c) rest
    else if endsPlain flow margin state place cs then some (state.found taken ⟨place, cs⟩)
    else if flow && c == ':' && (rest.head?.map fun next => isDelimiter next || next == '?').getD false then none
    else plain? flow margin .word (c :: taken) (place.after c) rest

/-! ## Quoted scalars -/

/-- Reads up to a closing quote; the content is given as it stands. A backslash (inside double quotes) or
a quote (inside single ones) takes the character after it along. A marker may not stand in a scalar. -/
def quoted? (double : Bool) (taken : List Char) (place : Place) : List Char → Option (List Char × Cursor)
  | [] => none
  | c :: rest =>
    if place.column == 0 && startsMarker (c :: rest) then none
    else if double && c == '\\' then
      match rest with
      | d :: rest => quoted? double (d :: c :: taken) ((place.after c).after d) rest
      | [] => none
    else if c == (if double then '"' else '\'') then
      match rest with
      | '\'' :: rest =>
        if double then some (taken.reverse, ⟨place.after c, '\'' :: rest⟩)
        else quoted? double ('\'' :: c :: taken) ((place.after c).after '\'') rest
      | rest => some (taken.reverse, ⟨place.after c, rest⟩)
    else quoted? double (c :: taken) (place.after c) rest

/-- The pieces between single quotes, where a quote is written twice. -/
def singlePieces : List Char → List Piece
  | [] => []
  | '\'' :: '\'' :: rest => .literal '\'' :: singlePieces rest
  | c :: rest => .folding c :: singlePieces rest

def escapeOf? (c : Char) : Option Char :=
  match c with
  | '0' => some (Char.ofNat 0)
  | 'a' => some (Char.ofNat 7)
  | 'b' => some (Char.ofNat 8)
  | 't' | '\t' => some '\t'
  | 'n' => some '\n'
  | 'v' => some (Char.ofNat 0x0B)
  | 'f' => some (Char.ofNat 0x0C)
  | 'r' => some '\r'
  | 'e' => some (Char.ofNat 0x1B)
  | ' ' | '"' | '/' | '\\' => some c
  | 'N' => some (Char.ofNat 0x85)
  | '_' => some (Char.ofNat 0xA0)
  | 'L' => some (Char.ofNat 0x2028)
  | 'P' => some (Char.ofNat 0x2029)
  | _ => none

/-- The character of an escape by number, written with a fixed count of digits. -/
def numbered? (count : Nat) (cs : List Char) : Option Piece := do
  let digits := cs.take count
  if digits.length < count then none
  else
    let n ← numberIn? 16 digits
    if n.isValidChar then some (.literal (Char.ofNat n)) else none

/-- The piece of an escape, and how many characters after the backslash belong to it. -/
def escape? : List Char → Option (Piece × Nat)
  | [] => none
  | c :: rest =>
    if isBreak c then some (.joint, 1)
    else if c == 'x' then (numbered? 2 rest).map (·, 3)
    else if c == 'u' then (numbered? 4 rest).map (·, 5)
    else if c == 'U' then (numbered? 8 rest).map (·, 9)
    else (escapeOf? c).map fun e => (.literal e, 1)

def doublePieces? (cs : List Char) : Option (List Piece) :=
  match cs with
  | [] => some []
  | '\\' :: rest => do
    let (piece, used) ← escape? rest
    (doublePieces? (rest.drop used)).map (piece :: ·)
  | c :: rest => (doublePieces? rest).map (.folding c :: ·)
termination_by cs.length
decreasing_by
  · simp only [List.length_drop, List.length_cons]; omega
  · simp

/-- The text of a quoted scalar, given what stands between its quotes. -/
def unquoted? (double : Bool) (content : List Char) : Option String :=
  let pieces := if double then doublePieces? content else some (singlePieces content)
  pieces.map fun pieces => String.ofList (fold true .empty pieces)

end Yaml

end Dossier
