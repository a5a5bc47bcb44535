import Dossier.Web.HostName
import Dossier.Web.NetworkAddress

/-!
# Web addresses

Whether a text is an `http` or `https` address with a host. Reading is as lenient as browsers are:
blanks and controls at the ends and line breaks anywhere are ignored, any number of slashes of either
kind follows the colon, and what comes after host and port is not looked at.
-/

namespace Dossier

namespace WebAddress

/-- Characters ignored at both ends. -/
def isEdge (c : Char) : Bool := c.toNat ≤ 0x20

/-- Characters ignored anywhere. -/
def isBreak (c : Char) : Bool := c == '\t' || c == '\n' || c == '\r'

/-- The text that counts. -/
def relevant (cs : List Char) : List Char :=
  (((cs.dropWhile isEdge).reverse.dropWhile isEdge).reverse).filter fun c => !isBreak c

def isSlash (c : Char) : Bool := c == '/' || c == '\\'

/-- Whether a character ends the part of an address that names the host. -/
def endsAuthority (c : Char) : Bool := isSlash c || c == '?' || c == '#'

def isSchemeChar (c : Char) : Bool := c.isAlphanum || c == '+' || c == '-' || c == '.'

/-- What follows the scheme and its colon, if the scheme is a web one. -/
def afterScheme? (cs : List Char) : Option (List Char) :=
  let scheme := cs.takeWhile isSchemeChar
  match cs.dropWhile isSchemeChar with
  | ':' :: rest =>
    if scheme.map Char.toLower = "http".toList ∨ scheme.map Char.toLower = "https".toList then some rest
    else none
  | _ => none

/-- What follows the user and password, which end at the last sign before the host. A sign with nothing
before it needs something after it. -/
def afterUser? (authority : List Char) : Option (List Char) :=
  let after := (authority.reverse.takeWhile (· ≠ '@')).reverse
  if after.length + 1 = authority.length ∧ after.isEmpty then none else some after

/-- The host at the front, up to a colon outside square brackets, and what follows it. -/
def splitHost (inside : Bool) : List Char → List Char × List Char
  | [] => ([], [])
  | c :: rest =>
    if c = ':' && !inside then ([], c :: rest)
    else
      let inside := if c = '[' then true else if c = ']' then false else inside
      let (host, rest) := splitHost inside rest
      (c :: host, rest)

/-- The bytes of a text with each percent sign and its two hexadecimal digits put together. -/
def percentDecoded : List UInt8 → List UInt8
  | [] => []
  | 37 :: a :: b :: rest =>
    match digitValue? (Char.ofNat a.toNat), digitValue? (Char.ofNat b.toNat) with
    | some a, some b => UInt8.ofNat (16 * a + b) :: percentDecoded rest
    | _, _ => 37 :: percentDecoded (a :: b :: rest)
  | c :: rest => c :: percentDecoded rest

/-- A text with its percent-encoded bytes decoded, if these make up characters. -/
def decoded? (cs : List Char) : Option (List Char) :=
  let bytes := percentDecoded (String.ofList cs).toUTF8.toList
  (String.fromUTF8? ⟨bytes.toArray⟩).map String.toList

def isHost (cs : List Char) : Bool :=
  match cs with
  | [] => false
  | '[' :: rest =>
    match rest.getLast? with
    | some ']' => NetworkAddress.isEightGroups rest.dropLast
    | _ => false
  | _ =>
    match decoded? cs >>= HostName.read? with
    | some name => !NetworkAddress.endsInNumber name || NetworkAddress.isFourBytes name
    | none => false

/-- Whether what follows a host is nothing or a port. -/
def isPortPart (cs : List Char) : Bool :=
  match cs with
  | [] => true
  | _ :: digits =>
    digits.all Char.isDigit && (((numberIn? 10 digits).map fun n => decide (n ≤ 65535)).getD false)

end WebAddress

def isWebAddress (s : String) : Bool :=
  match WebAddress.afterScheme? (WebAddress.relevant s.toList) with
  | some rest =>
    let authority := (rest.dropWhile WebAddress.isSlash).takeWhile fun c => !WebAddress.endsAuthority c
    match WebAddress.afterUser? authority with
    | some place =>
      let (host, port) := WebAddress.splitHost false place
      WebAddress.isHost host && WebAddress.isPortPart port
    | none => false
  | none => false

end Dossier
