/-!
# Doubles

A finite double is a sign and a magnitude `mant * 2 ^ exp`, counted in units of `2 ^ -1074`, the
smallest step between two doubles. Order, equality by value, rounding and integrality are exact
arithmetic on natural numbers; nothing here rests on hardware.

A value that has left the finite range (`Binary64`) is an infinity or not a number. Documents hold
finite doubles only; the other two exist so that comparison is defined on everything a computation
could store.
-/

namespace Dossier

/-- A finite double: `mant * 2 ^ exp` units of `2 ^ -1074`, negated when `neg`. Each magnitude has
one representation, zero has two signs. -/
structure Double where
  neg : Bool
  mant : Nat
  exp : Nat
  mant_lt : mant < 0x20000000000000
  exp_le : exp ≤ 2045
  normal : exp = 0 ∨ 0x10000000000000 ≤ mant
deriving DecidableEq

/-- `num / den` as the nearest integer, a half going to the even neighbour. -/
def roundHalfEven (num den : Nat) : Nat :=
  let q := num / den
  let r := num % den
  if 2 * r < den then q
  else if den < 2 * r then q + 1
  else q + q % 2

namespace Double

/-- The magnitude in units of `2 ^ -1074`. -/
def units (d : Double) : Nat := d.mant * Nat.pow 2 d.exp

/-- The value in units of `2 ^ -1074`; both zeros have the value `0`. -/
def signedUnits (d : Double) : Int := if d.neg then -(d.units : Int) else d.units

def unitsPerOne : Nat := Nat.pow 2 1074

/-- The double of a given sign, mantissa and exponent, if these are in range and canonical. -/
def mk? (neg : Bool) (mant exp : Nat) : Option Double :=
  if h : mant < 0x20000000000000 ∧ exp ≤ 2045 ∧ (exp = 0 ∨ 0x10000000000000 ≤ mant) then
    some ⟨neg, mant, exp, h.1, h.2.1, h.2.2⟩
  else none

/-- Zero, of either sign. -/
def zero (neg : Bool) : Double := ⟨neg, 0, 0, by decide, by decide, Or.inl rfl⟩

/-- The double nearest to `num / den` units, ties to the even mantissa; `none` past the largest. -/
def ofUnits? (neg : Bool) (num den : Nat) : Option Double :=
  let exp := (num / den).log2 - 52
  let mant := roundHalfEven num (den * Nat.pow 2 exp)
  mk? neg mant exp <|> mk? neg (mant / 2) (exp + 1)

def ofRatio? (neg : Bool) (num den : Nat) : Option Double :=
  ofUnits? neg (num * unitsPerOne) den

def ofInt? (i : Int) : Option Double := ofRatio? (decide (i < 0)) i.natAbs 1

/-- The double nearest to `digits * 10 ^ scale`. Powers of ten far outside the range are settled
without being computed. -/
def ofDecimal? (neg : Bool) (digits : Nat) (scale : Int) : Option Double :=
  if digits = 0 then some (zero neg)
  else if 400 < scale then none
  else if scale + digits.log2 < -1200 then some (zero neg)
  else if 0 ≤ scale then ofRatio? neg (digits * Nat.pow 10 scale.toNat) 1
  else ofRatio? neg digits (Nat.pow 10 (-scale).toNat)

def mul? (a b : Double) : Option Double :=
  ofUnits? (a.neg != b.neg) (a.units * b.units) unitsPerOne

def div? (a b : Double) : Option Double :=
  if b.units = 0 then none
  else ofUnits? (a.neg != b.neg) (a.units * unitsPerOne) b.units

/-- Order by value: the two zeros are equal. -/
def cmp (a b : Double) : Ordering := compare a.signedUnits b.signedUnits

def sameValue (a b : Double) : Bool := a.signedUnits == b.signedUnits

/-- The integer a double stands for, if it has no fraction. -/
def toInt? (d : Double) : Option Int :=
  if d.units % unitsPerOne = 0 then
    let n := (d.units / unitsPerOne : Nat)
    some (if d.neg then -(n : Int) else n)
  else none

end Double

/-- A double that may have left the finite range. -/
inductive Binary64 where
  | finite (d : Double)
  | infinite (neg : Bool)
  | nan
deriving DecidableEq

namespace Binary64

/-- Partial order by value: `none` exactly when one side is not a number. -/
def cmp? : Binary64 → Binary64 → Option Ordering
  | .nan, _ | _, .nan => none
  | .finite a, .finite b => some (a.cmp b)
  | .infinite a, .infinite b => some (compare b.toNat a.toNat)
  | .infinite neg, .finite _ => some (if neg then .lt else .gt)
  | .finite _, .infinite neg => some (if neg then .gt else .lt)

end Binary64

end Dossier
