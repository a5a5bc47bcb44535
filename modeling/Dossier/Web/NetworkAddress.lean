import Dossier.Numeric.Digit

/-!
# Network addresses in host position

A host whose last part is a number is an address of four bytes, written as up to four numbers in
decimal, octal or hexadecimal, the last of which fills the bytes that are left. A host in square
brackets is an address of eight groups of sixteen bits.
-/

namespace Dossier

namespace NetworkAddress

def part? (cs : List Char) : Option Nat :=
  match cs with
  | [] => none
  | ['0'] => some 0
  | '0' :: 'x' :: digits | '0' :: 'X' :: digits => numberIn? 16 digits
  | '0' :: digits => numberIn? 8 digits
  | digits => numberIn? 10 digits

/-- The parts of a host between points; one point at the end does not count. -/
def parts (host : List Char) : List (List Char) :=
  let all := host.splitOn '.'
  if 1 < all.length ∧ all.getLast? = some [] then all.dropLast else all

/-- Whether the last part of a host is a number, so that the whole is meant as an address. -/
def endsInNumber (host : List Char) : Bool :=
  match (parts host).getLast? with
  | some last => (!last.isEmpty && last.all Char.isDigit) || (part? last).isSome
  | none => false

def isFourBytes (host : List Char) : Bool :=
  match (parts host).mapM part? with
  | some numbers =>
    numbers.length ≤ 4 && numbers.dropLast.all (· ≤ 255) &&
      (numbers.getLast?.map fun n => decide (n < Nat.pow 256 (5 - numbers.length))).getD false
  | none => false

/-- A byte in decimal without leading zeros. -/
def isPlainByte (cs : List Char) : Bool :=
  match cs with
  | [] => false
  | ['0'] => true
  | '0' :: _ => false
  | _ => cs.all Char.isDigit && (((numberIn? 10 cs).map fun n => decide (n ≤ 255)).getD false)

/-- Four bytes in decimal, which stand for the last two groups. -/
def isDottedBytes (cs : List Char) : Bool :=
  let bytes := cs.splitOn '.'
  bytes.length == 4 && bytes.all isPlainByte

def isGroup (cs : List Char) : Bool := 1 ≤ cs.length && cs.length ≤ 4 && cs.all fun c => (digitValue? c).isSome

/-- How many groups a list of written groups stands for; only the last may be four bytes. -/
def groupCount? (mayEndInBytes : Bool) : List (List Char) → Option Nat
  | [] => some 0
  | [last] => if isGroup last then some 1 else if mayEndInBytes && isDottedBytes last then some 2 else none
  | group :: rest => if isGroup group then (groupCount? mayEndInBytes rest).map (· + 1) else none

def groups (cs : List Char) : List (List Char) := if cs.isEmpty then [] else cs.splitOn ':'

/-- What stands before and after the first double colon. -/
def splitGap? (before : List Char) : List Char → Option (List Char × List Char)
  | ':' :: ':' :: after => some (before.reverse, after)
  | c :: rest => splitGap? (c :: before) rest
  | [] => none

/-- Whether the text between square brackets is an address of eight groups; a double colon stands for
one or more groups of zero. -/
def isEightGroups (cs : List Char) : Bool :=
  match splitGap? [] cs with
  | some (before, after) =>
    match groupCount? false (groups before), groupCount? true (groups after) with
    | some m, some n => m + n ≤ 7
    | _, _ => false
  | none => groupCount? true (groups cs) == some 8

end NetworkAddress

end Dossier
