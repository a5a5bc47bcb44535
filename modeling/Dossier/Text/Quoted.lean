import Dossier.Text.HiddenTable
import Dossier.Text.Lowercase

/-!
# Texts in listings

A text in a listing stands between double quotes. A quote or backslash has a backslash before it, and a
character that shows nothing by itself is written by its number.
-/

namespace Dossier

def listedChar (c : Char) : List Char :=
  if c = '"' || c = '\\' then ['\\', c]
  else if c = '\n' then "\\n".toList
  else if c = '\r' then "\\r".toList
  else if c = '\t' then "\\t".toList
  else if c.toNat = 0 then "\\0".toList
  else if inRanges hiddenRanges c.toNat then
    "\\u\x7b".toList ++ Nat.toDigits 16 c.toNat ++ ['\x7d']
  else [c]

/-- A text as it is listed. -/
def listedText (s : String) : String := String.ofList ('"' :: s.toList.flatMap listedChar ++ ['"'])

end Dossier
