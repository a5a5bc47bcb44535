import Dossier.Numeric.Numeral
import Dossier.Text.Blank
import Dossier.Time.Instant

/-!
# Dates as text

Writing: `2024-03-01T12:00:00Z`, with 3, 6 or 9 places of a second where they are needed, a signed
year outside `0000` to `9999`, and `:60` for a leap second.

Reading: a full timestamp with an offset, a clock reading without one (taken as UTC), or a plain
date (its midnight). The last two are looser than what is written: numbers may have fewer digits,
blanks before them, and the year a sign.
-/

namespace Dossier

def padded (width n : Nat) : List Char :=
  let ds := Nat.toDigits 10 n
  List.replicate (width - ds.length) '0' ++ ds

/-! ## Writing -/

namespace Date

/-- The year as four digits, or with a sign when it has no such form. -/
def yearText (year : Int) : List Char :=
  if 0 ≤ year ∧ year ≤ 9999 then padded 4 year.toNat
  else (if year < 0 then '-' else '+') :: padded 4 year.natAbs

def chars (d : Date) : List Char := yearText d.year ++ '-' :: padded 2 d.month ++ '-' :: padded 2 d.day

def text (d : Date) : String := String.ofList d.chars

end Date

namespace Instant

/-- The fraction of a second, in as few groups of three digits as it needs. -/
def fractionText (nano : Nat) : List Char :=
  if nano = 0 then []
  else if nano % 1000000 = 0 then '.' :: padded 3 (nano / 1000000)
  else if nano % 1000 = 0 then '.' :: padded 6 (nano / 1000)
  else '.' :: padded 9 nano

def chars (t : Instant) : List Char :=
  let leap := nanosPerSecond ≤ t.nano
  let second := t.second % 60 + (if leap then 1 else 0)
  t.date.chars ++ 'T' :: padded 2 (t.second / 3600) ++ ':' :: padded 2 (t.second / 60 % 60) ++
    ':' :: padded 2 second ++ fractionText (t.nano % nanosPerSecond) ++ ['Z']

def text (t : Instant) : String := String.ofList t.chars

def textToSecond (t : Instant) : String :=
  String.ofList (t.date.chars ++ 'T' :: padded 2 (t.second / 3600) ++ ':' :: padded 2 (t.second / 60 % 60) ++
    ':' :: padded 2 (t.second % 60) ++ ['Z'])

end Instant

/-! ## Reading -/

namespace ReadTime

/-- Between `least` and `most` digits at the front. -/
def number? (least most : Nat) (cs : List Char) : Option (Nat × List Char) :=
  let ds := (cs.take most).takeWhile Char.isDigit
  if ds.length < least then none else some (digitsValue ds, cs.drop ds.length)

def char? (c : Char) : List Char → Option (List Char)
  | d :: cs => if d = c then some cs else none
  | [] => none

/-- A number of up to two digits after any blanks. -/
def looseNumber? (cs : List Char) : Option (Nat × List Char) := number? 1 2 (dropBlanks cs)

/-- A year after any blanks: up to four digits, or a sign and any number of digits. -/
def looseYear? (cs : List Char) : Option (Int × List Char) :=
  match dropBlanks cs with
  | '-' :: ds => (number? 1 ds.length ds).map fun (n, rest) => (-(n : Int), rest)
  | '+' :: ds => (number? 1 ds.length ds).map fun (n, rest) => ((n : Int), rest)
  | ds => (number? 1 4 ds).map fun (n, rest) => ((n : Int), rest)

/-- Years that instants are read for. -/
def yearInRange (year : Int) : Bool := -262143 ≤ year && year ≤ 262142

def looseDate? (cs : List Char) : Option (Date × List Char) := do
  let (year, cs) ← looseYear? cs
  let cs ← char? '-' cs
  let (month, cs) ← looseNumber? cs
  let cs ← char? '-' cs
  let (day, cs) ← looseNumber? cs
  if yearInRange year then
    let date ← Date.mk? year month day
    some (date, cs)
  else none

/-- A point and digits of a second, in nanoseconds; digits beyond the ninth are passed over. -/
def fraction? (cs : List Char) : Option (Nat × List Char) :=
  match cs with
  | '.' :: ds =>
    (number? 1 9 ds).map fun (n, rest) =>
      (n * Nat.pow 10 (9 - (ds.length - rest.length)), rest.dropWhile Char.isDigit)
  | cs => some (0, cs)

/-- A clock reading on a date. The sixtieth second is a leap second. -/
def clock? (date : Date) (hour minute second nano : Nat) : Option Instant :=
  if hour < 24 ∧ minute < 60 ∧ second ≤ 60 then
    if second = 60 then Instant.mk? date (3600 * hour + 60 * minute + 59) (nanosPerSecond + nano)
    else Instant.mk? date (3600 * hour + 60 * minute + second) nano
  else none

def looseClock? (date : Date) (cs : List Char) : Option (Instant × List Char) := do
  let (hour, cs) ← looseNumber? cs
  let cs ← char? ':' cs
  let (minute, cs) ← looseNumber? cs
  let cs ← char? ':' cs
  let (second, cs) ← looseNumber? cs
  let (nano, cs) ← fraction? cs
  let t ← clock? date hour minute second nano
  some (t, cs)

/-- The minus sign proper, which offsets may use. -/
def minusSign : Char := Char.ofNat 0x2212

/-- An offset in minutes: `Z`, or a sign, two digits of hours, a separator, two of minutes. -/
def offset? (separator : List Char → Option (List Char)) (cs : List Char) : Option (Int × List Char) :=
  match cs with
  | [] => none
  | c :: rest =>
    if c = 'Z' || c = 'z' then some (0, rest)
    else if c = '+' || c = '-' || c = minusSign then do
      let (hours, rest) ← number? 2 2 rest
      let rest ← separator rest
      let (minutes, rest) ← number? 2 2 rest
      if minutes < 60 ∧ hours < 24 then
        let m : Int := (60 * hours + minutes : Nat)
        some (if c = '+' then m else -m, rest)
      else none
    else none

end ReadTime

namespace Instant

open ReadTime

/-- Reads a full timestamp: four-digit year, two-digit parts, `T` or a blank, and an offset. -/
def readStamp? (cs : List Char) : Option Instant := do
  let (year, cs) ← number? 4 4 cs
  let cs ← char? '-' cs
  let (month, cs) ← number? 2 2 cs
  let cs ← char? '-' cs
  let (day, cs) ← number? 2 2 cs
  let cs ← char? 'T' cs <|> char? 't' cs <|> char? ' ' cs
  let (hour, cs) ← number? 2 2 cs
  let cs ← char? ':' cs
  let (minute, cs) ← number? 2 2 cs
  let cs ← char? ':' cs
  let (second, cs) ← number? 2 2 cs
  let (nano, cs) ← fraction? cs
  let (east, cs) ← offset? (char? ':') cs
  if cs.isEmpty then
    let date ← Date.mk? year month day
    let t ← clock? date hour minute second nano
    t.ofLocal east
  else none

def readClock? (cs : List Char) : Option Instant := do
  let (date, cs) ← looseDate? cs
  let cs ← char? 'T' cs
  let (t, cs) ← looseClock? date cs
  if cs.isEmpty then some t else none

/-- Reads a plain date as its midnight. -/
def readDate? (cs : List Char) : Option Instant := do
  let (date, cs) ← looseDate? cs
  if cs.isEmpty then some (ofDate date) else none

/-- Reads any accepted form of a date, blanks at the ends aside. -/
def read? (s : String) : Option Instant :=
  let cs := trimBlanks s.toList
  readStamp? cs <|> readClock? cs <|> readDate? cs

/-- Passes over colons and blanks between the hours and minutes of an offset. -/
def looseSeparator (cs : List Char) : Option (List Char) :=
  some (cs.dropWhile fun c => c == ':' || isBlank c)

/-- Reads a timestamp as stored documents hold it: the loose form with an offset, or the letters
`UTC`, after any blanks. -/
def readStored? (s : String) : Option Instant := do
  let (date, cs) ← looseDate? s.toList
  let cs ← char? 'T' cs <|> char? 't' cs <|> char? ' ' cs
  let (t, cs) ← looseClock? date cs
  let cs := dropBlanks cs
  let (east, cs) ←
    if (cs.take 3).map Char.toUpper = ['U', 'T', 'C'] then some (0, cs.drop 3)
    else offset? looseSeparator cs
  if (dropBlanks cs).isEmpty then t.ofLocal east else none

end Instant

end Dossier
