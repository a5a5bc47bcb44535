import Dossier.Text.Lowercase
import Dossier.Web.HostTable

/-!
# Host names

An internationalised host name is folded character by character (case, compatibility forms, full
stops), then split into labels at its points. A label may come encoded in ASCII after `xn--`; it must
then decode to characters that folding leaves alone. Labels of both writing directions obey the rule
on direction, and invisible joiners stand only where a script needs them.
-/

namespace Dossier

namespace HostName

open HostTable

def forbiddenSigns : List Char := "%#/:<>?@[\\]^|".toList

/-- ASCII characters that no host name contains: blanks, controls and the signs above. -/
def isForbidden (c : Char) : Bool := c.toNat ≤ 0x20 || c.toNat == 0x7F || forbiddenSigns.contains c

/-- What a character of a host name stands for; `none` for one that none may contain. -/
def fold? (c : Char) : Option (List Char) :=
  let n := c.toNat
  if n < 0x80 then (if isForbidden c then none else some [c.toLower])
  else if inRanges refusedRanges n then none
  else if inRanges droppedRanges n then some []
  else
    match foldedRuns.find? fun (first, last, _) => first ≤ n && n ≤ last with
    | some (first, _, target) => some [Char.ofNat (target + (n - first))]
    | none =>
      match foldedTexts.lookup n with
      | some text => some text.toList
      | none => some [lowerChar c]

def foldAll? (cs : List Char) : Option (List Char) := (cs.mapM fold?).map List.flatten

/-! ## Labels encoded in ASCII -/

/-- The value of a letter or digit as a digit to the base 36. -/
def digit36? (c : Char) : Option Nat :=
  let n := c.toNat
  if 97 ≤ n ∧ n ≤ 122 then some (n - 97)
  else if 48 ≤ n ∧ n ≤ 57 then some (n - 22)
  else none

/-- Reduces a distance to the range that one more digit tells apart, counting the digits it takes. -/
def reduced (delta digits : Nat) : Nat × Nat :=
  if h : 455 < delta then reduced (delta / 35) (digits + 1) else (delta, digits)
termination_by delta
decreasing_by omega

/-- The bias after a distance has been read into a text that now has `length` characters. -/
def adapt (delta length : Nat) (first : Bool) : Nat :=
  let delta := if first then delta / 700 else delta / 2
  let (delta, digits) := reduced (delta + delta / length) 0
  36 * digits + 36 * delta / (delta + 38)

/-- Reads a distance: digits of growing weight, ended by one below its threshold. -/
def readDistance (bias : Nat) : Nat → Nat → Nat → List Char → Option (Nat × List Char)
  | _, _, _, [] => none
  | place, weight, value, c :: rest =>
    match digit36? c with
    | none => none
    | some digit =>
      let value := value + digit * weight
      let threshold := min 26 (max 1 (place - bias))
      if digit < threshold then some (value, rest)
      else readDistance bias (place + 36) (weight * (36 - threshold)) value rest

/-- Inserts one character per distance; `code` and `slot` say where the last one went. Every distance
takes a digit, so `fuel` is the number of digits left. -/
def insertAll : Nat → Nat → Nat → Nat → List Char → List Char → Option (List Char)
  | _, _, _, _, label, [] => some label
  | 0, _, _, _, _, _ => none
  | fuel + 1, code, slot, bias, label, digits =>
    match readDistance bias 36 1 0 digits with
    | none => none
    | some (delta, rest) =>
      let length := label.length + 1
      let position := slot + delta
      let code' := code + position / length
      if 0x10FFFF < code' then none
      else
        let place := position % length
        let label := label.take place ++ Char.ofNat code' :: label.drop place
        insertAll fuel code' (place + 1) (adapt delta length (decide (slot = 0 ∧ code = 128))) label rest

/-- The label behind an encoded one: what stands before its last hyphen, with the characters that the
digits after it describe put in. At least one character has to be put in. -/
def decodeLabel? (cs : List Char) : Option (List Char) :=
  let digits := (cs.reverse.takeWhile (· ≠ '-')).reverse
  let plain := cs.take (cs.length - digits.length - 1)
  if digits.isEmpty || (plain.isEmpty && digits.length < cs.length) then none
  else insertAll digits.length 128 0 72 plain digits

/-! ## Rules on labels -/

def isMark (c : Char) : Bool := inRanges nonspacingRanges c.toNat || inRanges spacingMarkRanges c.toNat

inductive Direction where
  | left
  | right
  | arabicNumber
  | europeanNumber
  | mark
  | neutral
deriving DecidableEq

def direction (c : Char) : Direction :=
  let n := c.toNat
  if n < 0x80 then
    (if c.isAlpha then .left else if c.isDigit then .europeanNumber else .neutral)
  else if inRanges rightToLeftRanges n then .right
  else if inRanges arabicNumberRanges n then .arabicNumber
  else if inRanges europeanNumberRanges n then .europeanNumber
  else if inRanges nonspacingRanges n then .mark
  else if inRanges neutralRanges n then .neutral
  else .left

def keepsDirection (label : List Char) : Bool :=
  let directions := label.map direction
  let last := (directions.reverse.dropWhile (· == .mark)).head?
  match directions.head? with
  | none => true
  | some .right =>
    !directions.contains .left && last != some .neutral &&
      !(directions.contains .arabicNumber && directions.contains .europeanNumber)
  | some .left =>
    !directions.contains .right && !directions.contains .arabicNumber && last != some .neutral
  | some _ => false

/-- Whether an invisible joiner fits between what stands before it (in reverse) and after it: after a
joining sign, or, for the one that separates, between letters that would join. -/
def joinerFits (separates : Bool) (before after : List Char) : Bool :=
  let joins (ranges : List (Nat × Nat)) (cs : List Char) : Bool :=
    match cs.dropWhile fun c => inRanges nonspacingRanges c.toNat with
    | c :: _ => inRanges ranges c.toNat
    | [] => false
  (before.head?.map fun c => inRanges viramaRanges c.toNat).getD false ||
    (separates && joins joinsForwardRanges before && joins joinsBackwardRanges after)

/-- Whether every invisible joiner of a label fits, given what stands before it in reverse. -/
def joinersFit (before : List Char) : List Char → Bool
  | [] => true
  | c :: rest =>
    (c.toNat ≠ 0x200C || joinerFits true before rest) &&
      (c.toNat ≠ 0x200D || joinerFits false before rest) && joinersFit (c :: before) rest

/-- Whether a decoded label is well formed, direction aside. -/
def isLabel (label : List Char) : Bool :=
  !(label.head?.map isMark).getD false && joinersFit [] label

/-- The characters behind a folded label. -/
def readLabel? (label : List Char) : Option (List Char) :=
  match label with
  | 'x' :: 'n' :: '-' :: '-' :: encoded =>
    decodeLabel? encoded >>= fun decoded =>
      if foldAll? decoded == some decoded && isLabel decoded then some decoded else none
  | _ => if isLabel label then some label else none

def mixesDirections (labels : List (List Char)) : Bool :=
  labels.any fun label => label.any fun c =>
    direction c == .right || direction c == .arabicNumber

/-- The folded form of a well-formed name, which is not empty. -/
def read? (cs : List Char) : Option (List Char) := do
  let folded ← foldAll? cs
  let labels ← (folded.splitOn '.').mapM readLabel?
  if folded.isEmpty || (mixesDirections labels && !labels.all keepsDirection) then none
  else some folded

end HostName

end Dossier
