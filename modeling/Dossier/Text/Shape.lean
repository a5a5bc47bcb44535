/-!
# Shapes of texts

Checks on whole texts: email addresses, phone numbers, identifiers, and references to variables. All
of them are about ASCII characters; any other character fails the check.
-/

namespace Dossier

def isLetter (c : Char) : Bool := c.isAlpha

/-- Characters of the part of an email address before its sign. -/
def isMailboxChar (c : Char) : Bool :=
  c.isAlphanum || c == '.' || c == '_' || c == '%' || c == '+' || c == '-'

/-- Characters of the part of an email address after its sign. -/
def isDomainChar (c : Char) : Bool := c.isAlphanum || c == '.' || c == '-'

/-- A domain of an email address: at least one character, a point, and at least two letters. -/
def isMailDomain (cs : List Char) : Bool :=
  let ending := (cs.reverse.takeWhile (· ≠ '.')).reverse
  let before := cs.take (cs.length - ending.length - 1)
  ending.length < cs.length && !before.isEmpty && 2 ≤ ending.length && ending.all isLetter &&
    cs.all isDomainChar

def isEmailAddress (s : String) : Bool :=
  match s.toList.splitOn '@' with
  | [mailbox, domain] => !mailbox.isEmpty && mailbox.all isMailboxChar && isMailDomain domain
  | _ => false

def isPhoneChar (c : Char) : Bool :=
  c.isDigit || c == ' ' || c == '(' || c == ')' || c == '.' || c == '-'

/-- Whether a text is a phone number: seven to twenty digits, blanks, brackets, points and hyphens after
an optional plus sign. -/
def isPhoneNumber (s : String) : Bool :=
  let body := match s.toList with
    | '+' :: rest => rest
    | cs => cs
  7 ≤ body.length && body.length ≤ 20 && body.all isPhoneChar

def isIdentifierStart (c : Char) : Bool := c.isAlpha || c == '_'

def isIdentifierChar (c : Char) : Bool := c.isAlphanum || c == '_'

/-- Whether characters form an identifier: a letter or underscore, then letters, digits, underscores. -/
def isIdentifier (cs : List Char) : Bool :=
  match cs with
  | c :: rest => isIdentifierStart c && rest.all isIdentifierChar
  | [] => false

/-- The dotted name inside a reference to a variable, such as `$user.id`. -/
def variableName? (s : String) : Option String :=
  match s.toList with
  | '$' :: rest =>
    match rest.splitOn '.' with
    | [space, name] =>
      if isIdentifier space && isIdentifier name then some (String.ofList rest) else none
    | _ => none
  | _ => none

end Dossier
