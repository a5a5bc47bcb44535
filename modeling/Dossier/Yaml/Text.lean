/-!
# The text of a YAML stream

A stream is a text of printable characters, read line by line. Line ends are made uniform before
anything else: a return, a return with a line feed, and a next-line character all become a line feed.
The line and paragraph separators end lines too but stay themselves.

A `Place` says how far reading has come. Its column is what indentation is measured by.
-/

namespace Dossier

namespace Yaml

/-- Characters that end a line, once line ends are uniform. -/
def isBreak (c : Char) : Bool := c == '\n' || c.toNat == 0x2028 || c.toNat == 0x2029

/-- Characters that separate words within a line. -/
def isGap (c : Char) : Bool := c == ' ' || c == '\t'

/-- Whether a word ends before a text: at a gap, a line end, or the end of the stream. -/
def endsWord : List Char → Bool
  | [] => true
  | c :: _ => isGap c || isBreak c

/-- Characters that delimit inside brackets and braces. -/
def isDelimiter (c : Char) : Bool := c == ',' || c == '[' || c == ']' || c == '\x7b' || c == '\x7d'

/-- Characters that may stand in a stream. -/
def isPrintable (c : Char) : Bool :=
  let n := c.toNat
  n == 0x09 || n == 0x0A || n == 0x0D || (0x20 ≤ n && n ≤ 0x7E) || n == 0x85 ||
    (0xA0 ≤ n && n ≤ 0xFFFD && n != 0xFEFF) || 0x10000 ≤ n

def uniformBreaks : List Char → List Char
  | [] => []
  | '\r' :: '\n' :: rest => '\n' :: uniformBreaks rest
  | c :: rest => (if c == '\r' || c.toNat == 0x85 then '\n' else c) :: uniformBreaks rest

/-- The characters of a stream, without the mark of byte order at its start. -/
def characters? (s : String) : Option (List Char) :=
  let cs := match s.toList with
    | [] => []
    | c :: rest => if c.toNat == 0xFEFF then rest else c :: rest
  if cs.all isPrintable then some (uniformBreaks cs) else none

/-- Whether three hyphens or three points stand alone at the front. -/
def startsMarker (cs : List Char) : Bool :=
  ("---".toList.isPrefixOf cs || "...".toList.isPrefixOf cs) && endsWord (cs.drop 3)

structure Place where
  line : Nat := 0
  column : Nat := 0
  offset : Nat := 0

def Place.after (place : Place) (c : Char) : Place :=
  if isBreak c then ⟨place.line + 1, 0, place.offset + 1⟩
  else ⟨place.line, place.column + 1, place.offset + 1⟩

/-- A text being read: what is left of it, and where that starts. -/
structure Cursor where
  place : Place := {}
  rest : List Char

namespace Cursor

def forward : Nat → Cursor → Cursor
  | n + 1, ⟨place, c :: rest⟩ => forward n ⟨place.after c, rest⟩
  | _, cursor => cursor

/-- Goes on to the start of a later line. -/
def skipLines (lines : Nat) (cursor : Cursor) : Cursor := go lines cursor.place cursor.rest
where
  go : Nat → Place → List Char → Cursor
    | lines + 1, place, c :: rest => go (if isBreak c then lines else lines + 1) (place.after c) rest
    | _, place, rest => ⟨place, rest⟩

end Cursor

end Yaml

end Dossier
