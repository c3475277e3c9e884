import CronHeatMap.Text.Blank
import CronHeatMap.Web.Host

/-!
# Web addresses

Which texts are absolute web addresses, and what their scheme is. Reading is lenient about blanks
around the address and slashes after the scheme, and strict about the host and the port.
-/

namespace CronHeatMap.Web.Address

/-- The kinds of schemes, which differ in what may follow. -/
inductive Kind where
  /-- A host has to follow, after any number of slashes. -/
  | hosted
  /-- A path follows, perhaps after a host. -/
  | file
  /-- A host follows after two slashes, or anything. -/
  | other
deriving Repr, DecidableEq

/-- The kind of a scheme. -/
def Kind.ofScheme (scheme : String) : Kind :=
  if scheme ∈ ["http", "https", "ws", "wss", "ftp"] then .hosted
  else if scheme = "file" then .file
  else .other

/-- The text without the controls and blanks around it, and without tabs and line breaks. -/
def cleaned (cs : List Char) : List Char :=
  let isOuter (c : Char) : Bool := c.toNat ≤ 0x20
  (Text.dropEndWhile isOuter (cs.dropWhile isOuter)).filter fun c =>
    c != '\t' && c != '\n' && c != '\r'

/-- The characters of a scheme after the first one. -/
def inScheme (c : Char) : Bool :=
  c.isAlphanum || c == '+' || c == '-' || c == '.'

/-- The scheme of an address in lower case, and what follows the colon. -/
def splitScheme (cs : List Char) : Option (String × List Char) :=
  match Text.cutAt (· == ':') cs with
  | some (c :: scheme, rest) =>
    if c.isAlpha && scheme.all inScheme then
      some (String.ofList ((c :: scheme).map Char.toLower), rest)
    else none
  | _ => none

/-- The characters that end the part of an address with the host. A backslash counts as a slash
after known schemes. -/
def endsAuthority (known : Bool) (c : Char) : Bool :=
  c == '/' || c == '?' || c == '#' || (known && c == '\\')

/-- Splits off the host in front of a port. Colons in brackets belong to the host. -/
def splitHost (inBrackets : Bool) : List Char → List Char × List Char
  | [] => ([], [])
  | c :: cs =>
    if c = ':' ∧ inBrackets = false then ([], c :: cs)
    else
      let inBrackets := c = '[' || (inBrackets && c != ']')
      let (host, rest) := splitHost inBrackets cs
      (c :: host, rest)

/-- The number of ports. -/
def portBound : Nat := UInt16.size

/-- The text after the host is nothing, or a colon and perhaps a port. A backslash ends the port. -/
def isPort : List Char → Bool
  | [] => true
  | ':' :: cs =>
    let ds := cs.takeWhile (· != '\\')
    ds.isEmpty || (Text.readDigits? ds).any (· < portBound)
  | _ => false

/-- The user in front of the last at sign, if there is one, and what follows it. -/
def splitUser (cs : List Char) : Option (List Char) × List Char :=
  let host := (cs.reverse.takeWhile (· != '@')).reverse
  if host.length < cs.length then (some (cs.take (cs.length - host.length - 1)), host)
  else (none, cs)

/-- The text after the slashes begins with a host. -/
def hasHost (known : Bool) (cs : List Char) : Bool :=
  let (user, authority) := splitUser (cs.takeWhile (!endsAuthority known ·))
  let (host, port) := splitHost false authority
  let closed := cs.any (endsAuthority known)
  if known then !host.isEmpty && Host.isValid host && isPort port
  else if host.isEmpty then
    port.isEmpty && match user with
      | none => true
      | some [] => !closed
      | some [':'] => true
      | some _ => false
  else Host.isOpaque host && isPort port

/-- The text is a slash, perhaps leaning backwards. -/
def isSlash (c : Char) : Bool := c == '/' || c == '\\'

/-- The text names a drive, not a host. -/
def isDrive : List Char → Bool
  | [c, d] => c.isAlpha && (d == ':' || d == '|')
  | _ => false

/-- The text after the scheme of a file is well formed. -/
def isFilePath : List Char → Bool
  | a :: b :: cs =>
    if isSlash a && isSlash b then
      let host := cs.takeWhile (!endsAuthority true ·)
      host.isEmpty || isDrive host || Host.isValid host
    else true
  | _ => true

/-- The text after the scheme is well formed. -/
def isRest (kind : Kind) (cs : List Char) : Bool :=
  match kind with
  | .hosted => hasHost true (cs.dropWhile isSlash)
  | .file => isFilePath cs
  | .other =>
    match cs with
    | '/' :: '/' :: cs => hasHost false cs
    | _ => true

/-- The scheme of an absolute web address, and nothing for any other text. -/
def scheme? (text : String) : Option String :=
  match splitScheme (cleaned text.toList) with
  | some (scheme, rest) => if isRest (.ofScheme scheme) rest then some scheme else none
  | none => none

end CronHeatMap.Web.Address
