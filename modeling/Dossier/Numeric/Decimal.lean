import Dossier.Numeric.Numeral

/-!
# Currency amounts

An amount is an integer coefficient below `2 ^ 96` in magnitude over a power of ten up to
`10 ^ 28`. Amounts that differ only in trailing zeros are equal in value and keep their own text.

Reading accepts digits with underscores between them, one point and a power of ten. A coefficient
that outgrows its range after the point is rounded at the digit that no longer fits, and reading
stops there.
-/

namespace Dossier

/-- `coeff / 10 ^ scale`. -/
structure Decimal where
  coeff : Int
  scale : Nat
  coeff_lt : coeff.natAbs < 0x1000000000000000000000000
  scale_le : scale ≤ 28
deriving DecidableEq

namespace Decimal

/-- Coefficients lie below this bound in magnitude. -/
def bound : Nat := 0x1000000000000000000000000

def mk? (coeff : Int) (scale : Nat) : Option Decimal :=
  if h : coeff.natAbs < 0x1000000000000000000000000 ∧ scale ≤ 28 then some ⟨coeff, scale, h.1, h.2⟩ else none

/-- Zero without places. -/
def zero : Decimal := ⟨0, 0, by decide, by decide⟩

def cmp (a b : Decimal) : Ordering :=
  compare (a.coeff * Nat.pow 10 b.scale) (b.coeff * Nat.pow 10 a.scale)

def sameValue (a b : Decimal) : Bool := a.coeff * Nat.pow 10 b.scale == b.coeff * Nat.pow 10 a.scale

/-! ## Writing -/

/-- The same value with no trailing zero after the point. -/
def normalize (d : Decimal) : Decimal :=
  match d with
  | ⟨coeff, 0, h, hs⟩ => ⟨coeff, 0, h, hs⟩
  | ⟨coeff, scale + 1, h, hs⟩ =>
    if coeff % 10 = 0 then
      normalize ⟨coeff / 10, scale, by omega, by omega⟩
    else ⟨coeff, scale + 1, h, hs⟩
termination_by d.scale

/-- The digits with all `scale` places after the point. -/
def text (d : Decimal) : String :=
  let digits := Nat.toDigits 10 d.coeff.natAbs
  let digits := List.replicate (d.scale + 1 - digits.length) '0' ++ digits
  let whole := digits.take (digits.length - d.scale)
  let places := digits.drop (digits.length - d.scale)
  let sign := if d.coeff < 0 then ['-'] else []
  String.ofList (sign ++ whole ++ (if places.isEmpty then [] else '.' :: places))

/-! ## Reading -/

/-- Rounds the magnitude read so far by the digit that no longer fits. Rounding up into the bound
gives up one place. -/
def roundAt (magnitude scale : Nat) (next : Char) : Option (Nat × Nat) :=
  if next.isDigit then
    if 5 ≤ next.toNat - 48 then
      if magnitude + 1 < bound then some (magnitude + 1, scale)
      else if scale = 0 then none
      else some ((magnitude + 5) / 10, scale - 1)
    else some (magnitude, scale)
  else if next = '_' || next = '.' then some (magnitude, scale)
  else none

/-- Reads digits into a magnitude and its number of places. `seen` says that a digit has been read
and `point` that the point has. -/
def readMagnitude (seen point : Bool) (magnitude scale : Nat) : List Char → Option (Nat × Nat)
  | [] => if seen then some (magnitude, scale) else none
  | c :: rest =>
    if c.isDigit then
      let grown := 10 * magnitude + (c.toNat - 48)
      if bound ≤ grown then
        if point then roundAt magnitude scale c else none
      else
        let scale := if point then scale + 1 else scale
        if point && scale == 28 then
          match rest with
          | [] => some (grown, scale)
          | '_' :: [] => some (grown, scale)
          | '_' :: next :: _ => roundAt grown scale next
          | next :: _ => roundAt grown scale next
        else readMagnitude true point grown scale rest
    else if c = '.' && !point then readMagnitude seen true magnitude scale rest
    else if c = '_' && seen then readMagnitude seen point magnitude scale rest
    else none

def readPlain? (cs : List Char) : Option Decimal :=
  let (neg, body) := splitSign cs
  readMagnitude false false 0 0 body >>= fun (m, s) => mk? (if neg then -(m : Int) else m) s

/-- A power of ten below `2 ^ 32`, with or without a plus sign. -/
def readPower? (cs : List Char) : Option Nat :=
  let ds := match cs with
    | '+' :: ds => ds
    | ds => ds
  if ds.isEmpty || ds.any (fun c => !c.isDigit) then none
  else if digitsValue ds < 0x100000000 then some (digitsValue ds)
  else none

/-- The amount times a power of ten read from `power`; the result keeps its places unless the power
uses them up. -/
def shiftBy? (d : Decimal) (power : List Char) : Option Decimal :=
  match power with
  | '-' :: ds => readPower? ds >>= fun e => mk? d.coeff (d.scale + e)
  | ds => readPower? ds >>= fun e =>
    if e ≤ d.scale then mk? d.coeff (d.scale - e)
    else if 28 < e then none
    else mk? (d.coeff * Nat.pow 10 (e - d.scale)) 0

def readScientific? (cs : List Char) : Option Decimal :=
  let isMark (c : Char) : Bool := c == 'e' || c == 'E'
  match cs.dropWhile (fun c => !isMark c) with
  | [] => none
  | _ :: power => readPlain? (cs.takeWhile fun c => !isMark c) >>= fun d => d.shiftBy? power

def read? (cs : List Char) : Option Decimal := readPlain? cs <|> readScientific? cs

/-! ## From doubles -/

/-- Divides by ten, rounding a half up. -/
def dropDigit (m : Nat) : Nat := if 5 ≤ m % 10 then m / 10 + 1 else m / 10

/-- Takes one binary place off `m * 2 ^ -n` per step while the working magnitude stays below the
bound: an even magnitude is halved, an odd one multiplied by five with a decimal place added, or
halved with loss when five times it does not fit. Gives the magnitude and its decimal places. -/
def fromFraction : Nat → Nat → Nat → Nat × Nat
  | 0, m, places => (m, places)
  | n + 1, m, places =>
    if m % 2 = 0 then fromFraction n (m / 2) places
    else if 5 * m < bound then fromFraction n (5 * m) (places + 1)
    else fromFraction n (m / 2) places

/-- Puts one binary place into `m * 2 ^ n` per step: doubling where that fits, and else dividing by
five against a factor of ten. Gives the magnitude and its power of ten. -/
def fromMultiple : Nat → Nat → Nat → Nat × Nat
  | 0, m, tens => (m, tens)
  | n + 1, m, tens =>
    if m < bound / 2 then fromMultiple n (2 * m) tens
    else fromMultiple n (m / 5) (tens + 1)

/-- Drops places beyond the twenty-eighth; a magnitude that vanishes becomes a plain zero. -/
def fitPlaces : Nat → Nat → Nat × Nat
  | m, 0 => (m, 0)
  | m, places + 1 =>
    if places + 1 ≤ 28 then (m, places + 1)
    else if m / 10 = 0 then (0, 0)
    else fitPlaces (dropDigit m) places

/-- Drops places until the magnitude fits the mantissa of a double. -/
def fitPrecision : Nat → Nat → Nat × Nat
  | m, 0 => (m, 0)
  | m, places + 1 => if 0x10000000000000 ≤ m then fitPrecision (dropDigit m) places else (m, places + 1)

/-- Drops zeros after the point. -/
def stripZeros : Nat → Nat → Nat × Nat
  | m, 0 => (m, 0)
  | m, places + 1 => if m % 10 = 0 then stripZeros (m / 10) places else (m, places + 1)

/-- The amount closest to a double at the precision of doubles, about sixteen digits; `none` when it
is out of range. -/
def ofDouble? (d : Double) : Option Decimal :=
  let magnitude? : Option (Nat × Nat) :=
    if d.mant = 0 then some (0, 0)
    else if 1074 ≤ d.exp then
      let (m, tens) := fromMultiple (d.exp - 1074) d.mant 0
      some (m * Nat.pow 10 tens, 0)
    else
      let (m, places) := fromFraction (1074 - d.exp) d.mant 0
      let (m, places) := fitPlaces m places
      let (m, places) := fitPrecision m places
      some (stripZeros m places)
  magnitude? >>= fun (m, places) => mk? (if d.neg then -(m : Int) else m) places

end Decimal

/-- The amount closest to any double; there is none for an infinity or for no number. -/
def Binary64.toDecimal? : Binary64 → Option Decimal
  | .finite d => Decimal.ofDouble? d
  | _ => none

end Dossier
