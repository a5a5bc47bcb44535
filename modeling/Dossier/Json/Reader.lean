import Dossier.Json.Basic
import Dossier.Numeric.Digit

/-!
# Reading documents

Reads a whole text as one document, with blanks around it. Containers nest at most 127 deep. A number
without a point or a power of ten that fits 64 bits is an integer, except minus zero; any other is a
double.

A double is read in two rounded steps: the digits are gathered in a 64-bit significand, digits that no
longer fit moving only the power of ten, and the significand is then scaled by that power once (by
`10 ^ 308` at a time when the power lies outside the range of doubles). A number past the largest double is
refused.
-/

namespace Dossier

namespace Json

/-! ## Numbers -/

/-- A decimal being read: what fits in 64 bits, and the power of ten it is to be scaled by. -/
structure Significand where
  value : Nat
  power : Int

namespace Significand

def bound : Nat := 0x10000000000000000

/-- Takes in a digit before the point; false means that it did not fit. -/
def wholeDigits : Nat → List Char → Nat × Bool × List Char
  | value, [] => (value, true, [])
  | value, c :: rest =>
    if c.isDigit then
      let grown := 10 * value + (c.toNat - 48)
      if grown < bound then wholeDigits grown rest else (value, false, c :: rest)
    else (value, true, c :: rest)

/-- Takes in the digits after the point; those after the first that does not fit are passed over. -/
def fractionDigits : Significand → List Char → Significand × List Char
  | s, [] => (s, [])
  | s, c :: rest =>
    if c.isDigit then
      let grown := 10 * s.value + (c.toNat - 48)
      if grown < bound then fractionDigits ⟨grown, s.power - 1⟩ rest
      else (s, rest.dropWhile Char.isDigit)
    else (s, c :: rest)

/-- `10 ^ n` as a double. -/
def tenTo (n : Nat) : Option Double := Double.ofRatio? false (Nat.pow 10 n) 1

/-- Scales by a power of ten. Below the range the value is divided down step by step until the rest of
the power is in range or nothing is left. -/
def scale : Nat → Double → Int → Option Double
  | 0, value, _ => some value
  | steps + 1, value, power =>
    if power.natAbs ≤ 308 then
      tenTo power.natAbs >>= fun factor =>
        if 0 ≤ power then value.mul? factor else value.div? factor
    else if value.units = 0 then some value
    else if 0 ≤ power then none
    else do
      let factor ← tenTo 308
      let smaller ← value.div? factor
      scale steps smaller (power + 308)

def toDouble? (s : Significand) (neg : Bool) : Option Double := do
  let value ← Double.ofInt? s.value
  let scaled ← scale 8 value s.power
  some ⟨neg, scaled.mant, scaled.exp, scaled.mant_lt, scaled.exp_le, scaled.normal⟩

end Significand

/-- The power of ten after its mark: a sign and digits. Past 31 bits only the sign matters: a huge
positive power of a nonzero significand is refused, and everything else is zero. -/
def readPower (s : Significand) (neg : Bool) (cs : List Char) : Option (Double × List Char) :=
  let (minus, body) := splitSign cs
  let (digits, rest) := splitDigits body
  if digits.isEmpty then none
  else if digitsValue digits < 0x80000000 then
    let power : Int := digitsValue digits
    ((⟨s.value, s.power + (if minus then -power else power)⟩ : Significand).toDouble? neg).map (·, rest)
  else if s.value ≠ 0 && !minus then none
  else some (Double.zero neg, rest)

/-- What may follow the digits of a number: a power of ten. -/
def readMark (s : Significand) (neg : Bool) : List Char → Option (Double × List Char)
  | c :: rest =>
    if c = 'e' || c = 'E' then readPower s neg rest
    else (s.toDouble? neg).map (·, c :: rest)
  | [] => (s.toDouble? neg).map (·, [])

def readFraction (s : Significand) (neg : Bool) : List Char → Option (Double × List Char)
  | '.' :: rest =>
    if (rest.head?.map Char.isDigit).getD false then
      let (s, rest) := s.fractionDigits rest
      readMark s neg rest
    else none
  | rest => readMark s neg rest

/-- Whether a number goes on as a double after its whole digits. -/
def continuesAsDouble (cs : List Char) : Bool :=
  match cs with
  | c :: _ => c == '.' || c == 'e' || c == 'E'
  | [] => false

/-- A number after its sign. -/
def readUnsigned (neg : Bool) (cs : List Char) : Option (Number × List Char) :=
  let finish (s : Significand) (rest : List Char) : Option (Number × List Char) :=
    (readFraction s neg rest).map fun (d, rest) => (.double d, rest)
  match cs with
  | [] => none
  | c :: after =>
    if !c.isDigit then none
    else if c = '0' && (after.head?.map Char.isDigit).getD false then none
    else
      let (value, fits, rest) := Significand.wholeDigits 0 cs
      if !fits then
        let skipped := rest.takeWhile Char.isDigit
        finish ⟨value, skipped.length⟩ (rest.drop skipped.length)
      else if continuesAsDouble rest then finish ⟨value, 0⟩ rest
      else if !neg then some (.int value, rest)
      else if value ≠ 0 && value ≤ 0x8000000000000000 then some (.int (-(value : Int)), rest)
      else finish ⟨value, 0⟩ rest

def readNumber : List Char → Option (Number × List Char)
  | '-' :: rest => readUnsigned true rest
  | rest => readUnsigned false rest

/-! ## Texts -/

def simpleEscape? (c : Char) : Option Char :=
  if c = '"' || c = '\\' || c = '/' then some c
  else if c = 'n' then some '\n'
  else if c = 'r' then some '\r'
  else if c = 't' then some '\t'
  else if c = 'b' then some (Char.ofNat 8)
  else if c = 'f' then some (Char.ofNat 12)
  else none

/-- The rest of a text after its opening quote, up to its closing one. Control characters stand only
escaped, and halves of a surrogate pair only together. -/
def readText (fuel : Nat) (taken : List Char) (cs : List Char) : Option (String × List Char) :=
  match fuel, cs with
  | 0, _ => none
  | _, [] => none
  | _, '"' :: rest => some (String.ofList taken.reverse, rest)
  | fuel + 1, '\\' :: 'u' :: a :: b :: c :: d :: rest =>
    match numberIn? 16 [a, b, c, d] with
    | none => none
    | some unit =>
      if 0xD800 ≤ unit ∧ unit ≤ 0xDBFF then
        match rest with
        | '\\' :: 'u' :: a :: b :: c :: d :: rest =>
          match numberIn? 16 [a, b, c, d] with
          | some low =>
            if 0xDC00 ≤ low ∧ low ≤ 0xDFFF then
              readText fuel (Char.ofNat (0x10000 + 1024 * (unit - 0xD800) + (low - 0xDC00)) :: taken) rest
            else none
          | none => none
        | _ => none
      else if 0xDC00 ≤ unit ∧ unit ≤ 0xDFFF then none
      else readText fuel (Char.ofNat unit :: taken) rest
  | fuel + 1, '\\' :: c :: rest =>
    match simpleEscape? c with
    | some e => readText fuel (e :: taken) rest
    | none => none
  | fuel + 1, c :: rest => if c.toNat < 0x20 then none else readText fuel (c :: taken) rest

/-! ## Values -/

def isSpace (c : Char) : Bool := c == ' ' || c == '\n' || c == '\r' || c == '\t'

def skipSpace (cs : List Char) : List Char := cs.dropWhile isSpace

/-- Takes a word off the front. -/
def word? (expected : List Char) (cs : List Char) : Option (List Char) :=
  if expected.isPrefixOf cs then some (cs.drop expected.length) else none

mutual

/-- A value at the front, inside containers that may go `depth` deeper. Every step takes a character,
so `fuel` is the number of characters left. -/
def readValue (fuel depth : Nat) (cs : List Char) : Option (Json × List Char) :=
  match fuel with
  | 0 => none
  | fuel + 1 =>
    match skipSpace cs with
    | '[' :: rest =>
      match depth, skipSpace rest with
      | 0, _ => none
      | _, ']' :: rest => some (.array [], rest)
      | depth + 1, rest => (readItems fuel depth rest).map fun (items, rest) => (.array items, rest)
    | '\x7b' :: rest =>
      match depth, skipSpace rest with
      | 0, _ => none
      | _, '\x7d' :: rest => some (.object [], rest)
      | depth + 1, rest => (readMembers fuel depth rest).map fun (members, rest) => (ofMembers members, rest)
    | '"' :: rest => (readText (rest.length + 1) [] rest).map fun (s, rest) => (.string s, rest)
    | 'n' :: rest => (word? "ull".toList rest).map (.null, ·)
    | 't' :: rest => (word? "rue".toList rest).map (.bool true, ·)
    | 'f' :: rest => (word? "alse".toList rest).map (.bool false, ·)
    | rest => (readNumber rest).map fun (n, rest) => (.number n, rest)

def readItems (fuel depth : Nat) (cs : List Char) : Option (List Json × List Char) :=
  match fuel with
  | 0 => none
  | fuel + 1 =>
    match readValue fuel depth cs with
    | none => none
    | some (item, rest) =>
      match skipSpace rest with
      | ']' :: rest => some ([item], rest)
      | ',' :: rest => (readItems fuel depth rest).map fun (items, rest) => (item :: items, rest)
      | _ => none

def readMembers (fuel depth : Nat) (cs : List Char) : Option (List (String × Json) × List Char) :=
  match fuel with
  | 0 => none
  | fuel + 1 =>
    match skipSpace cs with
    | '"' :: rest =>
      match readText (rest.length + 1) [] rest with
      | none => none
      | some (key, rest) =>
        match skipSpace rest with
        | ':' :: rest =>
          match readValue fuel depth rest with
          | none => none
          | some (value, rest) =>
            match skipSpace rest with
            | '\x7d' :: rest => some ([(key, value)], rest)
            | ',' :: rest =>
              (readMembers fuel depth rest).map fun (members, rest) => ((key, value) :: members, rest)
            | _ => none
        | _ => none
    | _ => none

end

/-- Reads a whole text as a document. -/
def read? (s : String) : Option Json :=
  let cs := s.toList
  match readValue (2 * cs.length + 2) 127 cs with
  | some (value, rest) => if (skipSpace rest).isEmpty then some value else none
  | none => none

end Json

end Dossier
