import Dossier.Numeric.Digit

/-!
# Record identifiers

A 128-bit identifier. Its written form is 32 lower-case hexadecimal digits in groups of 8, 4, 4, 4
and 12. Read are also the form without hyphens, upper-case digits, and the written form in braces
or after `urn:uuid:` in any letter case.
-/

namespace Dossier

structure Uuid where
  value : Nat
  value_lt : value < 0x100000000000000000000000000000000
deriving DecidableEq

namespace Uuid

/-- Order of the values, which is the order of the bytes. -/
def cmp (a b : Uuid) : Ordering := compare a.value b.value

instance : Ord Uuid := ⟨cmp⟩

theorem compare_eq (a b : Uuid) : compare a b = compare a.value b.value := rfl

instance : Std.TransOrd Uuid where
  eq_swap := by
    intro a b
    rw [compare_eq, compare_eq b a]
    exact Std.OrientedCmp.eq_swap
  isLE_trans := by
    intro a b c hab hbc
    rw [compare_eq] at hab hbc ⊢
    exact Std.TransCmp.isLE_trans hab hbc

instance : Std.LawfulEqOrd Uuid where
  compare_self := by
    intro a
    rw [compare_eq]
    exact Std.ReflCmp.compare_self
  eq_of_compare := by
    intro a b h
    rw [compare_eq] at h
    have hv : a.value = b.value := Std.LawfulEqOrd.eq_of_compare h
    cases a
    cases b
    cases hv
    rfl

def mk? (value : Nat) : Option Uuid :=
  if h : value < 0x100000000000000000000000000000000 then some ⟨value, h⟩ else none

/-- The identifier with every bit clear. -/
def nil : Uuid := ⟨0, by decide⟩

/-! ## Writing -/

/-- The hexadecimal digits of a number in a given number of places. -/
def hexDigits : Nat → Nat → List Char
  | 0, _ => []
  | places + 1, n => hexDigits places (n / 16) ++ [Nat.digitChar (n % 16)]

def chars (u : Uuid) : List Char :=
  let hex := hexDigits 32 u.value
  hex.take 8 ++ '-' :: (hex.drop 8).take 4 ++ '-' :: (hex.drop 12).take 4 ++
    '-' :: (hex.drop 16).take 4 ++ '-' :: hex.drop 20

/-- The hyphenated lower-case form. -/
def text (u : Uuid) : String := String.ofList u.chars

/-! ## Reading -/

/-- Reads 32 digits. -/
def readSimple? (cs : List Char) : Option Uuid :=
  if cs.length = 32 then numberIn? 16 cs >>= mk? else none

/-- Reads 32 digits with hyphens after the 8th, 12th, 16th and 20th. -/
def readHyphenated? (cs : List Char) : Option Uuid :=
  if cs.length = 36 ∧ (cs.drop 8).head? = some '-' ∧ (cs.drop 13).head? = some '-' ∧
      (cs.drop 18).head? = some '-' ∧ (cs.drop 23).head? = some '-' then
    readSimple? (cs.take 8 ++ (cs.drop 9).take 4 ++ (cs.drop 14).take 4 ++ (cs.drop 19).take 4 ++ cs.drop 24)
  else none

/-- The opening of the form that names the identifier as a resource, in lower case. -/
def resourceOpening : List Char := "urn:uuid:".toList

/-- Reads any accepted spelling, with nothing around it. -/
def read? (s : String) : Option Uuid :=
  let cs := s.toList
  if cs.length = 32 then readSimple? cs
  else if cs.length = 36 then readHyphenated? cs
  else if cs.length = 38 ∧ cs.head? = some '\x7b' ∧ cs.getLast? = some '\x7d' then
    readHyphenated? (cs.drop 1).dropLast
  else if cs.length = 45 ∧ (cs.take 9).map Char.toLower = resourceOpening then readHyphenated? (cs.drop 9)
  else none

end Uuid

end Dossier
