import Dossier.Numeric.Double

/-!
# Decimal numerals

Reading: a numeral is an optional sign, digits with an optional point, and an optional power of
ten; its value is `digits * 10 ^ scale`, rounded once when a double is wanted.

Writing: the digits of a double are those of the coarsest power-of-ten grid that has a point in
the interval of reals rounding to it, and of the grid points in the interval the nearest. That is
the shortest text that reads back. Where the point goes and when a power of ten is written out is
a `NumberLayout`.
-/

namespace Dossier

def digitsValue (cs : List Char) : Nat := cs.foldl (fun n c => 10 * n + (c.toNat - 48)) 0

def splitDigits (cs : List Char) : List Char × List Char := (cs.takeWhile Char.isDigit, cs.dropWhile Char.isDigit)

/-- A leading sign (true for minus), and what follows it. -/
def splitSign : List Char → Bool × List Char
  | '-' :: cs => (true, cs)
  | '+' :: cs => (false, cs)
  | cs => (false, cs)

/-- A power of ten as an optional sign and at least one digit, filling the whole text. -/
def readExponent? (cs : List Char) : Option Int :=
  let (neg, ds) := splitSign cs
  if ds.isEmpty || ds.any (fun c => !c.isDigit) then none
  else some (if neg then -(digitsValue ds : Int) else digitsValue ds)

/-- A decimal numeral: `digits * 10 ^ scale`, negated when `neg`. -/
structure Numeral where
  neg : Bool
  digits : Nat
  scale : Int
deriving DecidableEq

namespace Numeral

/-- Reads a whole text as a numeral. A point needs a digit on one side only; there are no blanks,
separators or names such as `inf`. -/
def read? (text : List Char) : Option Numeral :=
  let (neg, body) := splitSign text
  let (whole, rest) := splitDigits body
  let (fraction, rest) := match rest with
    | '.' :: r => splitDigits r
    | r => ([], r)
  if whole.isEmpty && fraction.isEmpty then none
  else
    let digits := digitsValue (whole ++ fraction)
    match rest with
    | [] => some ⟨neg, digits, -fraction.length⟩
    | c :: r =>
      if c = 'e' || c = 'E' then
        (readExponent? r).map fun e => ⟨neg, digits, e - fraction.length⟩
      else none

/-- The nearest double, `none` past the largest. -/
def toDouble? (n : Numeral) : Option Double := Double.ofDecimal? n.neg n.digits n.scale

end Numeral

def Double.read? (text : List Char) : Option Double := Numeral.read? text >>= Numeral.toDouble?

/-! ## Shortest digits -/

namespace Double

/-- The interval of magnitudes that round to `d`, in quarter units: its lower and upper end. Below
a power of two the neighbouring doubles lie twice as close. -/
def roundingEnds (d : Double) : Nat × Nat :=
  let step := Nat.pow 2 d.exp
  let below := if d.mant = 0x10000000000000 ∧ d.exp ≠ 0 then step else 2 * step
  (4 * d.units - below, 4 * d.units + 2 * step)

/-- Whether `point / den` quarter units round to `d`; the ends do when the mantissa is even. -/
def roundsFrom (d : Double) (point den : Nat) : Bool :=
  let (low, high) := d.roundingEnds
  if d.mant % 2 = 0 then low * den ≤ point && point ≤ high * den
  else low * den < point && point < high * den

/-- The multiple of `10 ^ k` nearest to the magnitude of `d` among its two neighbours that round to
`d`, as the factor of `10 ^ k`. Zero is no such multiple. -/
def nearestOnGrid? (d : Double) (k : Int) : Option Nat :=
  let num := 4 * unitsPerOne * Nat.pow 10 k.toNat
  let den := Nat.pow 10 (-k).toNat
  let target := 4 * d.units * den
  let low := target / num
  let high := low + 1
  let lowHits := low ≠ 0 && d.roundsFrom (low * num) den
  let highHits := d.roundsFrom (high * num) den
  if lowHits && highHits then
    let toLow := target - low * num
    let toHigh := high * num - target
    if toLow < toHigh then some low
    else if toHigh < toLow then some high
    else some (if low % 2 = 0 then low else high)
  else if lowHits then some low
  else if highHits then some high
  else none

/-- The shortest decimal digits that read back as the magnitude of a nonzero double, and their
power of ten. Every double is a multiple of `10 ^ -1074`. -/
def shortest (d : Double) : Nat × Int :=
  ((List.range 1385).findSome? fun (i : Nat) =>
    let k : Int := 310 - (i : Int)
    (d.nearestOnGrid? k).map fun n => (n, k)).getD (0, 0)

end Double

/-- How a double is laid out: the least and greatest power of ten of the first digit that is
written positionally, and whether a positive power carries its sign. -/
structure NumberLayout where
  least : Int
  greatest : Int
  plus : Bool

namespace NumberLayout

/-- Numbers in documents and wherever a raw number becomes text. -/
def document : NumberLayout := ⟨-5, 15, true⟩

def listing : NumberLayout := ⟨-4, 15, false⟩

/-- Places digits with the first one at `10 ^ power`. -/
def place (layout : NumberLayout) (digits : List Char) (power : Int) : List Char :=
  if layout.least ≤ power ∧ power ≤ layout.greatest then
    if power < 0 then
      "0.".toList ++ List.replicate (-power - 1).toNat '0' ++ digits
    else
      let whole := power.toNat + 1
      if digits.length ≤ whole then
        digits ++ List.replicate (whole - digits.length) '0' ++ ".0".toList
      else digits.take whole ++ '.' :: digits.drop whole
  else
    let rest := digits.drop 1
    let sign := if power < 0 then ['-'] else if layout.plus then ['+'] else []
    digits.take 1 ++ (if rest.isEmpty then [] else '.' :: rest) ++
      'e' :: sign ++ Nat.toDigits 10 power.natAbs

def write (layout : NumberLayout) (d : Double) : String :=
  let sign := if d.neg then ['-'] else []
  if d.mant = 0 then String.ofList (sign ++ "0.0".toList)
  else
    let (n, k) := d.shortest
    let digits := Nat.toDigits 10 n
    String.ofList (sign ++ layout.place digits (k + digits.length - 1))

end NumberLayout

end Dossier
