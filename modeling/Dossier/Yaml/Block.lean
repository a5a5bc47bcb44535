import Dossier.Yaml.Text

/-!
# Block scalars

A block scalar takes whole lines: those at its indentation or deeper, and the empty ones between them.
The indentation is given in its header or is that of its first line that is not empty.

**Literal** content keeps its line ends. **Folded** content turns a line end between two lines that do
not start with a blank into a blank, or drops it where empty lines follow. How line ends at the end are
treated is said by the header: one is kept (`clip`), none (`strip`), or all (`keep`).
-/

namespace Dossier

namespace Yaml

/-- What happens to the line ends at the end of a block scalar. -/
inductive Chomping where
  | strip
  | clip
  | keep
deriving DecidableEq

structure BlockHeader where
  folded : Bool
  chomping : Chomping := .clip
  /-- How much deeper than its surroundings the content is indented, where the header says so. -/
  increment : Option Nat := none

namespace BlockHeader

def chomping? (c : Char) : Option Chomping :=
  if c == '+' then some .keep else if c == '-' then some .strip else none

/-- The increment of an indicator: a digit other than zero. -/
def increment? (c : Char) : Option Nat :=
  if c.isDigit && c != '0' then some (c.toNat - 48) else none

/-- Whether the rest of a header is empty but for blanks and a comment. -/
def closes (cs : List Char) : Bool :=
  match cs.dropWhile isGap with
  | [] => true
  | c :: _ => c == '#'

/-- Reads the rest of a header's line: chomping and increment in either order. -/
def read? (folded : Bool) (line : List Char) : Option BlockHeader :=
  let (chomping, rest) := takeOne chomping? line
  let (increment, rest) := takeOne increment? rest
  let (late, rest) := if chomping.isNone then takeOne chomping? rest else (none, rest)
  if closes rest then some ⟨folded, (chomping.or late).getD .clip, increment⟩ else none
where
  takeOne {α : Type} (read : Char → Option α) (cs : List Char) : Option α × List Char :=
    match cs with
    | c :: rest =>
      match read c with
      | some a => (some a, rest)
      | none => (none, cs)
    | [] => (none, [])

end BlockHeader

structure Line where
  content : List Char
  ending : Option Char

/-- The lines of a text. A text that ends with a line end has an empty last line. -/
def lines : List Char → List Line
  | [] => [⟨[], none⟩]
  | c :: rest =>
    if isBreak c then ⟨[], some c⟩ :: lines rest
    else
      match lines rest with
      | line :: more => ⟨c :: line.content, line.ending⟩ :: more
      | [] => [⟨[c], none⟩]

namespace Line

def spaces (line : Line) : Nat := (line.content.takeWhile (· == ' ')).length

/-- Whether a line holds at most some spaces and ends before the text does. -/
def isEmpty (line : Line) : Bool := line.spaces == line.content.length && line.ending.isSome

end Line

/-- The indentation found from the lines: that of the first line that is not empty, or of an empty line
before it that goes deeper. A tab may not stand where it is looked for. -/
def indentation? (least : Nat) : List Line → Option Nat
  | [] => some least
  | line :: rest =>
    let least := max least line.spaces
    if line.isEmpty then indentation? least rest
    else if line.content[line.spaces]? == some '\t' then none
    else some least

/-- A line of content: the empty lines before it, by their endings, and its text. -/
structure BlockLine where
  before : List Char
  text : List Char
  ending : Option Char

/-- The lines of the content, the endings of the empty lines after them, and how many lines were taken
in all. -/
def takeBlock? (indentation : Nat) (before : List Char) : List Line → Option (List BlockLine × List Char × Nat)
  | [] => some ([], before, 0)
  | line :: rest =>
    if line.isEmpty && line.content.length ≤ indentation then
      (takeBlock? indentation (before ++ line.ending.toList) rest).map fun (block, after, n) => (block, after, n + 1)
    else if line.spaces < indentation then
      if line.content[line.spaces]? == some '\t' then none else some ([], before, 0)
    else if line.content.length == indentation then some ([], before, 0)
    else
      (takeBlock? indentation [] rest).map fun (block, after, n) =>
        (⟨before, line.content.drop indentation, line.ending⟩ :: block, after, n + 1)

/-- Joins lines of content. `ending` is the end of the line before, and `deeper` says whether that line
starts with a blank. The line end left over is given with the text. -/
def joinBlock (folded : Bool) (ending : Option Char) (deeper : Bool) : List BlockLine → List Char × List Char
  | [] => ([], ending.toList)
  | line :: rest =>
    let starts := (line.text.head?.map isGap).getD false
    let gap :=
      if folded && ending == some '\n' && !deeper && !starts then
        if line.before.isEmpty then [' '] else line.before
      else ending.toList ++ line.before
    let (text, left) := joinBlock folded line.ending starts rest
    (gap ++ line.text ++ text, left)

/-- A block scalar: its text, and how many lines after its header it takes. -/
def block? (header : BlockHeader) (margin : Nat) (rest : List Char) : Option (String × Nat) := do
  let following := lines rest
  let indentation ← match header.increment with
    | some n => some (margin - 1 + n)
    | none => indentation? (max margin 1) following
  let (content, after, taken) ← takeBlock? indentation [] following
  let (text, ending) := joinBlock header.folded none false content
  let tail := match header.chomping with
    | .strip => []
    | .clip => ending
    | .keep => ending ++ after
  some (String.ofList (text ++ tail), taken)

end Yaml

end Dossier
