import Proceedings.Text.Lower
import Proceedings.Text.Numeral
import Proceedings.Text.Utf8
import Proceedings.Web.Label.Basic
import Proceedings.Web.Number

/-! # Web addresses

An address is read into its parts, and each part is written in one way: scheme and host in small
letters, host names in ASCII, escapes where a part cannot hold a character, no service number that
the scheme means anyway, and no dots among the names of a path. An address without a scheme or a
host has nothing that it could be relative to, so it is read as a path at the top.
-/

namespace Proceedings

/-- What is wrong with an address. Positions count from 0. -/
inductive AddressFault where
  | tooLong
  | unprintable (c : Char) (position : Nat)
  | fourNumbers (host : List Char)
  | groups (host : List Char)
  | hostName (host : List Char)
  | service (digits : List Char)
  | twoSlashes
  | leadingColon
  | longPart (name : String)

def AddressFault.message : AddressFault → String
  | .tooLong => "URL too long"
  | .unprintable c position =>
    let shown := quoted (String.singleton c)
    s!"Invalid non-printable ASCII character in URL, {shown} at position {position}."
  | .fourNumbers host => s!"Invalid IPv4 address: {quoted (String.ofList host)}"
  | .groups host => s!"Invalid IPv6 address: {quoted (String.ofList host)}"
  | .hostName host => s!"Invalid IDNA hostname: {quoted (String.ofList host)}"
  | .service digits => s!"Invalid port: {quoted (String.ofList digits)}"
  | .twoSlashes => "Relative URLs cannot have a path starting with '//'"
  | .leadingColon => "Relative URLs cannot have a path starting with ':'"
  | .longPart name => s!"URL component '{name}' too long"

/-- The parts of a web address. The service is given by its number at the host. -/
structure Address where
  scheme : List Char
  user : List Char
  host : List Char
  service : Option Int
  path : List Char
  query : Option (List Char)
  fragment : Option (List Char)

namespace Address

def isSchemeChar (c : Char) : Bool :=
  c.isAlphanum || c == '+' || c == '.' || c == '-'

/-- The scheme of an address, empty if it has none, and the rest behind its colon. -/
def splitScheme (url : List Char) : List Char × List Char :=
  let scheme := url.takeWhile isSchemeChar
  match url.drop scheme.length with
  | ':' :: rest =>
    if scheme.head?.all Char.isAlpha then (scheme, rest) else ([], url)
  | _ => ([], url)

/-- What stands between two slashes and the path, empty if there are no two slashes, and the
rest. -/
def splitAuthority : List Char → List Char × List Char
  | '/' :: '/' :: rest => rest.span fun c => c != '/' && c != '?' && c != '#'
  | rest => ([], rest)

/-- The user of an authority, before the last sign for one, and the rest. -/
def splitUser (authority : List Char) : List Char × List Char :=
  let rest := afterLast '@' authority
  (authority.take (authority.length - rest.length - 1), rest)

/-- Host and service of an authority, with a colon between them. A host in brackets may hold
colons. -/
def splitHost (chars : List Char) : List Char × List Char :=
  let host :=
    if chars.head? == some '[' && chars.contains ']' then
      chars.take (chars.length - (afterLast ']' chars).length)
    else chars.takeWhile (· != ':')
  let rest := chars.drop host.length
  (host, if rest.head? = some ':' then rest.drop 1 else rest)

/-- The written form of a host. -/
def hostOf (host : List Char) : Except AddressFault (List Char) :=
  if Host.looksNumeric host then
    if Host.isFourNumbers host then .ok host else .error (.fourNumbers host)
  else if host.head? == some '[' && host.getLast? == some ']' then
    let number := (host.drop 1).dropLast
    if Host.isGrouped number then .ok number else .error (.groups host)
  else if host.all (·.toNat < 0x80) then
    .ok (Escape.escape Escape.isHostChar (host.map Char.toLower))
  else match HostName.encode (Text.toLower (host.map .scalar)) with
    | .ok name => .ok (name.filterMap CodePoint.toChar?)
    | .error _ => .error (.hostName host)

def services : List (String × Int) :=
  [("ftp", 21), ("http", 80), ("https", 443), ("ws", 80), ("wss", 443)]

/-- The service that digits spell, none if it is the one that the scheme means. -/
def serviceOf (scheme digits : List Char) : Except AddressFault (Option Int) :=
  if digits.isEmpty then .ok none
  else match Numeral.int? (digits.map .scalar) with
    | none => .error (.service digits)
    | some n => .ok (if services.contains (String.ofList scheme, n) then none else some n)

/-- Goes on to a name of a path from the names before it, of which the last one comes first. A dot
stays there, and two dots go back, but not behind the top. -/
def goOn (names : List (List Char)) (name : List Char) : List (List Char) :=
  if name == ['.'] then names
  else if name != ['.', '.'] then name :: names
  else if names == [[]] then names
  else names.drop 1

/-- A path without dots among its names. -/
def withoutDots (path : List Char) : List Char :=
  ['/'].intercalate ((partsBetween (· == '/') path).foldl goOn []).reverse

/-- The first character of ASCII that is not visible and no space, with its position. -/
def unprintable? (url : List Char) : Option (Char × Nat) :=
  url.zipIdx.find? fun (c, _) => c.toNat < 0x20 || c.toNat = 0x7F

/-- The greatest length of an address and of each of its parts. -/
def maxLength : Nat := 65536

/-- The parts of an address. -/
def ofChars (url : List Char) : Except AddressFault Address := do
  if maxLength < url.length then .error .tooLong
  if let some (c, position) := unprintable? url then .error (.unprintable c position)
  let (scheme, rest) := splitScheme url
  let (authority, rest) := splitAuthority rest
  let (rest, fragment) := splitAtMark '#' rest
  let (path, query) := splitAtMark '?' rest
  let (user, rest) := splitUser authority
  let (host, digits) := splitHost rest
  let user := Escape.escape Escape.isUserChar user
  let host ← hostOf host
  let service ← serviceOf scheme digits
  let isBare := user.isEmpty && host.isEmpty && service.isNone && scheme.isEmpty
  if isBare && ['/', '/'].isPrefixOf path then .error .twoSlashes
  if isBare && path.head? = some ':' then .error .leadingColon
  return {
    scheme := scheme.map Char.toLower
    user := user
    host := host
    service := service
    path := Escape.escape Escape.isPathChar (if isBare then path else withoutDots path)
    query := query.map (Escape.escape Escape.isQueryChar)
    fragment := fragment.map (Escape.escape Escape.isFragmentChar) }

variable (a : Address)

def isAbsolute : Bool := !a.scheme.isEmpty && !a.host.isEmpty

/-- The path and query of an address as an address of their own, at the top. -/
def atTop : Except AddressFault Address :=
  let path := '/' :: a.path.dropWhile (· == '/')
  if maxLength < path.length then .error (.longPart "path")
  else if a.query.any fun query => maxLength < query.length then .error (.longPart "query")
  else .ok ⟨[], [], [], none, path, a.query, none⟩

/-- The address that a request is sent to. -/
def ofString (url : String) : Except AddressFault Address := do
  let a ← ofChars url.toList
  if a.isAbsolute then return a else a.atTop

def place : List Char :=
  (if a.host.contains ':' then '[' :: a.host ++ [']'] else a.host) ++
    match a.service with
    | some n => ':' :: (toString n).toList
    | none => []

def text : String :=
  let authority := (if a.user.isEmpty then [] else a.user ++ ['@']) ++ a.place
  let marked (mark : Char) : Option (List Char) → List Char
    | some part => mark :: part
    | none => []
  String.ofList <| (if a.scheme.isEmpty then [] else a.scheme ++ [':']) ++
    (if authority.isEmpty then [] else '/' :: '/' :: authority) ++ a.path ++
    marked '?' a.query ++ marked '#' a.fragment

/-- What is wrong with the host name, if its first label is written in ASCII for another. -/
def hostFault? : Option HostFault :=
  let name : Text := a.host.map .scalar
  if Label.sign.isPrefixOf name then
    match HostName.decode name with
    | .error e => some e
    | .ok _ => none
  else none

/-- What is wrong with host and service as a line of a request, which is in ASCII. -/
def placeFault? : Option Utf8.EncodeError :=
  Utf8.beyondAscii? (a.place.map .scalar)

def schemes : List String := ["http", "https", "ws", "wss"]

def unreachable? : Option String :=
  if a.scheme.isEmpty then
    some "Request URL is missing an 'http://' or 'https://' protocol."
  else if schemes.contains (String.ofList a.scheme) then none
  else some s!"Request URL has an unsupported protocol '{String.ofList a.scheme}://'."

/-- Why a response from an address is of no use: its scheme tells where cookies belong. -/
def unknown? : Option String :=
  if a.scheme.isEmpty then some s!"unknown url type: {quoted a.text}" else none

end Address

end Proceedings
