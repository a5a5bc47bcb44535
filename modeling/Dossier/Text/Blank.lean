/-!
# Blanks

The characters that count as blank are those with the White_Space property. Trimming and splitting
at blanks work on lists of characters; texts go through `String.toList`.
-/

namespace Dossier

/-- Whether a character has the White_Space property. -/
def isBlank (c : Char) : Bool :=
  let n := c.toNat
  (9 ≤ n && n ≤ 13) || n == 0x20 || n == 0x85 || n == 0xA0 || n == 0x1680 ||
    (0x2000 ≤ n && n ≤ 0x200A) || n == 0x2028 || n == 0x2029 || n == 0x202F || n == 0x205F || n == 0x3000

/-- Drops the blanks at the front. -/
def dropBlanks (cs : List Char) : List Char := cs.dropWhile isBlank

def trimBlanks (cs : List Char) : List Char := (dropBlanks (dropBlanks cs).reverse).reverse

/-- A text without the blanks at its ends. -/
def trimmed (s : String) : String := String.ofList (trimBlanks s.toList)

/-- The maximal runs of characters that are not blank. -/
def blankSeparated (cs : List Char) : List (List Char) :=
  (cs.splitOnP isBlank).filter fun part => !part.isEmpty

/-- The parts of a text between commas; a text without a comma is its own part. -/
def commaSeparated (s : String) : List String := (s.toList.splitOn ',').map String.ofList

end Dossier
