/-
What of an address is sent to the gateway.

An address is cut into host, path and query; a fragment is dropped. In the path, steps `.` and `..`
are carried out, and characters that may not stand in it are written as percent signs and
hexadecimal digits. A backslash counts as a slash, tabs and line breaks as nothing.

* `WebAddress.parse?` — the parts of a web address; none if it names no host;
* `target?` — path and query of a web address, as they are sent.
-/
import GatewayProbe.Json.Printer
import GatewayProbe.Text.Bytes

namespace GatewayProbe.Target

/-- A byte as a percent sign and two capital hexadecimal digits. -/
def percent (b : UInt8) : List Char :=
  ['%', (Json.hexDigit (b.toNat / 16)).toUpper, (Json.hexDigit (b.toNat % 16)).toUpper]

/-- Writes the characters of a set, and all outside visible ASCII, as percent signs and digits. -/
def encode (set : List Char) (cs : List Char) : List Char :=
  cs.flatMap fun c =>
    if c.toNat ≤ 0x20 || 0x7E < c.toNat || set.contains c then
      (Text.toUtf8 (String.singleton c)).flatMap percent
    else [c]

/-- Characters that may not stand in a path. -/
def pathSet : List Char := ['"', '#', '<', '>', '?', '^', '\x60', '\x7b', '\x7d']

/-- Characters that may not stand in a query. -/
def querySet : List Char := ['"', '#', '<', '>', '\'']

/-- Reads `%2e` as a point, and letters as small ones. -/
def plainDots : List Char → List Char
  | '%' :: '2' :: e :: cs =>
    if e = 'e' ∨ e = 'E' then '.' :: plainDots cs else '%' :: '2' :: plainDots (e :: cs)
  | c :: cs => c :: plainDots cs
  | [] => []

/-- Carries out one step of a path after the steps before it. The flag tells of the last one. -/
def takeStep (steps : List (List Char)) (part : List Char) (isLast : Bool) : List (List Char) :=
  let dots := plainDots part
  if dots = ['.', '.'] then steps.dropLast ++ (if isLast then [[]] else [])
  else if dots = ['.'] then steps ++ (if isLast then [[]] else [])
  else steps ++ [encode pathSet part]

/-- Carries out the steps of a path. -/
def takeSteps (steps : List (List Char)) : List (List Char) → List (List Char)
  | [] => steps
  | [part] => takeStep steps part true
  | part :: parts => takeSteps (takeStep steps part false) parts

/-- A path in its sent form; `cs` is empty or starts with a slash. -/
def path (cs : List Char) : List Char :=
  let parts := Text.splitChars '/' (cs.drop 1)
  (takeSteps [] parts).flatMap ('/' :: ·)

/-- Ends the host part of an address. -/
def endsHost (c : Char) : Bool := c = '/' || c = '?' || c = '#'

/-- A name that a host can have, in brackets or not. -/
def isHost (cs : List Char) : Bool :=
  match cs with
  | '[' :: rest => rest.getLast? = some ']' &&
      rest.dropLast.all fun c => c = ':' || c = '.' || c.isDigit || c.isAlpha
  | _ => !cs.isEmpty && cs.all fun c => 0x20 < c.toNat && c.toNat ≠ 0x7F &&
      !("#/:<>?@[\\]^|%".toList.contains c)

/-- Splits the number of a service off the end of a host. -/
def splitService (cs : List Char) : List Char × List Char :=
  let service := (cs.reverse.takeWhile Char.isDigit).reverse
  let host := (cs.reverse.dropWhile Char.isDigit).reverse
  if host.getLast? = some ':' then (host.dropLast, service) else (cs, [])

/-- The number that digits write. -/
def serviceNumber (digits : List Char) : Nat :=
  digits.foldl (fun n d => n * 10 + (d.toNat - '0'.toNat)) 0

/-- The host of an authority, after an optional name of a user, with the number of a service. -/
def hostAndService (authority : List Char) : List Char × List Char :=
  splitService (authority.reverse.takeWhile (· ≠ '@')).reverse

/-- An authority names a host and, where it numbers a service, does so in 16 bits. -/
def isAuthority (cs : List Char) : Bool :=
  isHost (hostAndService cs).1 && serviceNumber (hostAndService cs).2 < 65536

/-- Drops the name of the scheme from a web address, and tells whether it is the secure one. -/
def afterScheme? (cs : List Char) : Option (Bool × List Char) :=
  let drop (scheme : String) : Option (List Char) :=
    if Text.eqIgnoreCase (String.ofList (cs.take scheme.length)) scheme then
      some (cs.drop scheme.length)
    else none
  (drop "http:").map (false, ·) <|> (drop "https:").map (true, ·)

end Target

/-- A web address in its parts, as they are written. -/
structure WebAddress where
  isSecure : Bool
  authority : List Char
  path : List Char
  /-- The query with its question mark, or nothing. -/
  query : List Char
  deriving DecidableEq, Repr

namespace WebAddress

/-- Takes a web address apart. A fragment is dropped. -/
def parse? (url : String) : Option WebAddress := do
  let bare := Text.dropEndWhile (·.toNat ≤ 0x20) (url.toList.dropWhile (·.toNat ≤ 0x20))
  let cs := bare.filter fun c => c ≠ '\t' && c ≠ '\n' && c ≠ '\r'
  let (isSecure, rest) ← Target.afterScheme? cs
  let rest := rest.dropWhile fun c => c = '/' || c = '\\'
  let split (c : Char) : Bool := Target.endsHost c || c = '\\'
  let authority := rest.takeWhile (!split ·)
  if !Target.isAuthority authority then none
  else
    let rest := (rest.dropWhile (!split ·)).takeWhile (· ≠ '#')
    let path := (rest.takeWhile (· ≠ '?')).map fun c => if c = '\\' then '/' else c
    return { isSecure, authority, path, query := rest.dropWhile (· ≠ '?') }

/-- Path and query, as they are sent. -/
def target (a : WebAddress) : String :=
  let query := match a.query with
    | mark :: q => mark :: Target.encode Target.querySet q
    | [] => []
  String.ofList (Target.path a.path ++ query)

/-- The name of the host. -/
def host (a : WebAddress) : String :=
  String.ofList ((Target.hostAndService a.authority).1.filter fun c => c ≠ '[' && c ≠ ']')

/-- The number of the service at the host. -/
def service (a : WebAddress) : Nat :=
  match (Target.hostAndService a.authority).2 with
  | [] => if a.isSecure then 443 else 80
  | digits => Target.serviceNumber digits

end WebAddress

/-- Path and query of a web address, as they are sent. -/
def target? (url : String) : Option String := (WebAddress.parse? url).map WebAddress.target

end GatewayProbe
