import CloudOrchestration.Text.Unsigned
/-!
# Addresses of servers

Only as much of a URL is told apart as decides whether a request can be made
to it: the scheme, which has to be that of the web, and host and port. Blanks
around a URL and line ends in it do not count. A host whose last label is a
number is a numerical address of four bytes, of which the last label holds all
that have no label of their own.
-/

namespace CloudOrchestration

-- powers are those of the core library, whatever other instances are in scope
attribute [local instance (high)] instPowNat

namespace Url

/-- The characters of a URL that count. -/
def significant (url : String) : List Char :=
  let trimmed := url.toList.dropWhile (·.toNat ≤ 0x20)
  let trimmed := (trimmed.reverse.dropWhile (·.toNat ≤ 0x20)).reverse
  trimmed.filter fun c => c != '\t' && c != '\n' && c != '\r'

def isSchemeChar (c : Char) : Bool := c.isAlphanum || c == '+' || c == '-' || c == '.'

/-- The scheme in lower case, and what follows its colon. -/
def scheme? (cs : List Char) : Option (List Char × List Char) :=
  match cs.takeWhile isSchemeChar, cs.dropWhile isSchemeChar with
  | c :: scheme, ':' :: rest =>
    if c.isAlpha then some ((c :: scheme).map Char.toLower, rest) else none
  | _, _ => none

def isSlash (c : Char) : Bool := c == '/' || c == '\\'

/-- Host and port, with the user in front of them left off. -/
def authority (cs : List Char) : List Char :=
  let part := (cs.dropWhile isSlash).takeWhile fun c => !isSlash c && c != '?' && c != '#'
  (part.reverse.takeWhile (· != '@')).reverse

/-- The characters that a host cannot have. -/
def isForbidden (c : Char) : Bool :=
  c.toNat ≤ 0x20 || c.toNat == 0x7F || "<>^|%[]".toList.contains c

/-- The labels of a host, without the empty one after a dot at its end. -/
def labels (host : List Char) : List String :=
  let parts := (String.ofList host).splitOn "."
  if parts.getLast? = some "" then parts.dropLast else parts

/-- The number of a label: hexadecimal, octal after a zero, or decimal. -/
def number? (label : String) : Option Nat :=
  match label.toList with
  | '0' :: c :: digits =>
    if c = 'x' ∨ c = 'X' then if digits.isEmpty then some 0 else Unsigned.ofDigits? 16 digits
    else Unsigned.ofDigits? 8 (c :: digits)
  | digits => Unsigned.ofDigits? 10 digits

/-- Whether labels are meant as a numerical address. -/
def isNumerical (labels : List String) : Bool :=
  labels.getLast?.any fun l => (l != "" && l.all Char.isDigit) || (number? l).isSome

/-- Whether labels are a numerical address. -/
def isAddress (labels : List String) : Bool :=
  match labels.mapM number? with
  | none => false
  | some ns =>
    ns.length ≤ 4 && ns.dropLast.all (· < 256) && ns.getLast?.all (· < 256 ^ (5 - ns.length))

/-- A host is a name, or a numerical address, of sixteen bytes if between
brackets. -/
def isHost (cs : List Char) : Bool :=
  match cs with
  | '[' :: rest =>
    rest.getLast? == some ']'
      && rest.dropLast.all fun c => c.isDigit || ('a' ≤ c.toLower && c.toLower ≤ 'f')
        || c == ':' || c == '.'
  | _ =>
    let ls := labels cs
    !cs.isEmpty && !cs.any isForbidden && (!isNumerical ls || isAddress ls)

/-- A port is a number of sixteen bits, or left out. -/
def isPort (cs : List Char) : Bool :=
  cs.all Char.isDigit && Nat.ofDigitChars 10 cs 0 < 0x10000

/-- Whether there is a host, with a port or without. -/
def isAuthority (cs : List Char) : Bool :=
  let port := (cs.reverse.takeWhile fun c => c != ':' && c != ']').reverse
  let host := cs.take (cs.length - port.length)
  match host.getLast? with
  | some ':' => isHost host.dropLast && isPort port
  | _ => isHost cs

/-- **Whether a request can be made to a URL.** -/
def isReachable (url : String) : Bool :=
  match scheme? (significant url) with
  | some (scheme, rest) =>
    (scheme = "http".toList || scheme = "https".toList) && isAuthority (authority rest)
  | none => false

end Url

end CloudOrchestration
