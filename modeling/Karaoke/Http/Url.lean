import Karaoke.Http.Domain
import Karaoke.Http.Ip
import Karaoke.Http.Percent
import Karaoke.Number.Integer
import Karaoke.Number.Text
import Karaoke.Text.LowerCase

/-!
# Addresses

An address has a scheme, an authority, a path, a query and a fragment. The authority names a user,
a host and a socket. Each part has one written form: host and scheme are in lower case, the
default socket of the scheme is left out, segments `.` and `..` are resolved, and characters that
a part does not hold are percent-encoded.
-/

set_option autoImplicit false

namespace Karaoke.Http

/-- The segments of a path one segment further on: `.` is left out, and `..` takes the segment
before it along. -/
def follow (out : List (List Char)) (segment : List Char) : List (List Char) :=
  if segment = ['.'] then out
  else if segment = ['.', '.'] then if out = [] ∨ out = [[]] then out else out.tail
  else segment :: out

/-- The path without the segments `.` and `..`. -/
def removeDots (path : List Char) : List Char :=
  ['/'].intercalate ((path.splitOn '/').foldl follow []).reverse

structure Url where
  scheme : List Char
  user : List Char
  host : List Char
  socket : Option Int
  path : List Char
  query : Option (List Char)
  fragment : Option (List Char)
  deriving DecidableEq, Repr

namespace Url

/-- What is wrong with an address. -/
inductive Fault where
  | tooLong
  | partTooLong (part : String)
  /-- A control character, and the number of characters before it. -/
  | unprintable (c : Char) (place : Nat)
  | socket (text : List Char)
  /-- Four numbers that are no octets. -/
  | four (host : List Char)
  /-- Text in brackets that is no numeric address. -/
  | eight (host : List Char)
  | domain (host : List Char)
  | pathAfterAuthority
  | pathStart (start : String)
  deriving DecidableEq, Repr

namespace Fault

def quoted (cs : List Char) : String :=
  String.ofList (Text.Quoted.quoted cs)

def message : Fault → String
  | tooLong => "URL too long"
  | partTooLong part => "URL component '" ++ part ++ "' too long"
  | unprintable c place =>
    "Invalid non-printable ASCII character in URL, " ++ quoted [c] ++ " at position "
      ++ String.ofList (Nat.toDigits 10 place) ++ "."
  | socket text => "Invalid port: " ++ quoted text
  | four host => "Invalid IPv4 address: " ++ quoted host
  | eight host => "Invalid IPv6 address: " ++ quoted host
  | domain host => "Invalid IDNA hostname: " ++ quoted host
  | pathAfterAuthority => "For absolute URLs, path must be empty or begin with '/'"
  | pathStart start => "Relative URLs cannot have a path starting with '" ++ start ++ "'"

end Fault

def maxLength : Nat := 65536

/-! ## Characters that stand for themselves -/

/-- Whether a character is visible ASCII and not among some others. -/
def isVisibleBut (others : String) (c : Char) : Bool :=
  0x20 < c.toNat && c.toNat < 0x7f && !others.toList.contains c

def isUserChar : Char → Bool :=
  isVisibleBut "\"#<>?`\x7b\x7d/;=@[\\]^|"

def isPathChar : Char → Bool :=
  isVisibleBut "\"#<>?`\x7b\x7d"

def isQueryChar : Char → Bool :=
  isVisibleBut "\"#<>"

def isFragmentChar : Char → Bool :=
  isVisibleBut "\"<>`"

def isHostChar (c : Char) : Bool :=
  Percent.isUnreserved c || "!$&'()*+,;=\"`\x7b\x7d%|\\".toList.contains c

/-! ## Parts as they are written -/

/-- What an address says in each of its places. -/
structure Parts where
  scheme : List Char
  authority : List Char
  path : List Char
  query : Option (List Char)
  fragment : Option (List Char)
  deriving DecidableEq, Repr

def isScheme : List Char → Bool
  | [] => true
  | c :: cs => c.isAlpha && cs.all (fun c => c.isAlphanum || c == '+' || c == '.' || c == '-')

/-- The scheme in front of a text, and the rest. -/
def cutScheme (cs : List Char) : List Char × List Char :=
  match Text.cut? ':' cs with
  | some (scheme, rest) => if isScheme scheme then (scheme, rest) else ([], cs)
  | none => ([], cs)

/-- The authority in front of a text, and the rest. -/
def cutAuthority : List Char → List Char × List Char
  | '/' :: '/' :: rest =>
    let isEnd (c : Char) : Bool := c == '/' || c == '?' || c == '#'
    (rest.takeWhile (!isEnd ·), rest.dropWhile (!isEnd ·))
  | cs => ([], cs)

def Parts.ofText (cs : List Char) : Parts :=
  let (scheme, rest) := cutScheme cs
  let (authority, rest) := cutAuthority rest
  let (rest, fragment) := Text.cut '#' rest
  let (path, query) := Text.cut '?' rest
  { scheme, authority, path, query, fragment }

/-- What an authority says in each of its places. -/
structure Authority where
  user : List Char
  host : List Char
  socket : List Char
  deriving DecidableEq, Repr

/-- The host in front of a text: up to the last bracket if it begins with one, or to a colon. -/
def frontHost (cs : List Char) : List Char :=
  match cs.head?, Text.cutLast? ']' cs with
  | some '[', some (host, _) => host ++ [']']
  | _, _ => cs.takeWhile (· != ':')

def Authority.ofText (cs : List Char) : Authority :=
  let (user, rest) := (Text.cutLast? '@' cs).getD ([], cs)
  let host := frontHost rest
  let socket := rest.drop host.length
  { user, host, socket := if socket.head? = some ':' then socket.tail else socket }

/-! ## Reading -/

/-- A host in its written form. An address in brackets loses them. -/
def readHost (host : List Char) : Except Fault (List Char) :=
  if host = [] then .ok []
  else if Ip.looksFour host then if Ip.isFour host then .ok host else .error (.four host)
  else if host.head? = some '[' ∧ host.getLast? = some ']' then
    let address := host.tail.dropLast
    if Ip.isEight address then .ok address else .error (.eight host)
  else if Domain.isAscii host then .ok (Percent.keeping isHostChar (host.map Char.toLower))
  else match Domain.encode (Text.lower host) with
    | .ok encoded => .ok encoded
    | .error _ => .error (.domain host)

def defaultSockets : List (String × Int) :=
  [("ftp", 21), ("http", 80), ("https", 443), ("ws", 80), ("wss", 443)]

/-- A socket number, if there is one that is not the default of the scheme. -/
def readSocket (scheme text : List Char) : Except Fault (Option Int) :=
  if text = [] then .ok none
  else match Number.int? text with
    | some n =>
      .ok (if defaultSockets.lookup (String.ofList scheme) = some n then none else some n)
    | none => .error (.socket text)

/-- Why a path may not stand where it does. -/
def pathFault? (hasScheme hasAuthority : Bool) (path : List Char) : Option Fault :=
  if hasAuthority then
    if path = [] ∨ path.head? = some '/' then none else some .pathAfterAuthority
  else if hasScheme then none
  else if "//".toList.isPrefixOf path then some (.pathStart "//")
  else if path.head? = some ':' then some (.pathStart ":")
  else none

/-- The address with some parts, of which the authority is taken apart. -/
def ofParts (p : Parts) (a : Authority) : Except Fault Url := do
  let scheme := p.scheme.map Char.toLower
  let user := Percent.keeping isUserChar a.user
  let host ← readHost a.host
  let socket ← readSocket scheme a.socket
  let hasScheme := scheme ≠ []
  let hasAuthority := user ≠ [] ∨ host ≠ [] ∨ socket ≠ none
  match pathFault? hasScheme hasAuthority p.path with
  | some f => .error f
  | none =>
    let path := if hasScheme ∨ hasAuthority then removeDots p.path else p.path
    .ok
      { scheme, user, host, socket
        path := Percent.keeping isPathChar path
        query := p.query.map (Percent.keeping isQueryChar)
        fragment := p.fragment.map (Percent.keeping isFragmentChar) }

/-- Whether a character is an ASCII control. -/
def isControl (c : Char) : Bool :=
  c.toNat < 0x20 || c.toNat == 0x7f

/-- The address that a text writes. -/
def parse (cs : List Char) : Except Fault Url :=
  if maxLength < cs.length then .error .tooLong
  else match cs.findIdx? isControl, cs.find? isControl with
    | some place, some c => .error (.unprintable c place)
    | _, _ =>
      let p := Parts.ofText cs
      ofParts p (.ofText p.authority)

/-! ## Writing -/

/-- A host where a socket may follow. -/
def hostText (host : List Char) : List Char :=
  if host.contains ':' then '[' :: (host ++ [']']) else host

/-- The host and the socket of an address. -/
def location (u : Url) : List Char :=
  hostText u.host ++ match u.socket with
    | some n => ':' :: Number.ofInt n
    | none => []

def authority (u : Url) : List Char :=
  (if u.user = [] then [] else u.user ++ ['@']) ++ u.location

/-- A part after its mark; nothing if it is not there. -/
def marked (mark : Char) (part : Option (List Char)) : List Char :=
  match part with
  | some cs => mark :: cs
  | none => []

/-- The address as a text. -/
def text (u : Url) : List Char :=
  (if u.scheme = [] then [] else u.scheme ++ [':'])
    ++ (if u.authority = [] then [] else '/' :: '/' :: u.authority)
    ++ u.path ++ marked '?' u.query ++ marked '#' u.fragment

/-- What a request to an address asks for: its path and its query. -/
def target (u : Url) : List Char :=
  (if u.path = [] then ['/'] else u.path) ++ marked '?' u.query

/-! ## Changing -/

def parts (u : Url) : Parts where
  scheme := u.scheme
  authority := u.authority
  path := u.path
  query := u.query
  fragment := u.fragment

/-- The first part that is too long. -/
def Parts.tooLong? (p : Parts) : Option String :=
  ([("scheme", some p.scheme), ("authority", some p.authority), ("path", some p.path),
    ("query", p.query), ("fragment", p.fragment)].find?
      (fun part => part.2.any (maxLength < ·.length))).map (·.1)

/-- The address with some parts that are read again, and another host if one is given. -/
def reread (p : Parts) (host : Option (List Char) := none) : Except Fault Url :=
  match p.tooLong? with
  | some part => .error (.partTooLong part)
  | none =>
    let a := Authority.ofText p.authority
    ofParts p { a with host := host.getD a.host }

/-- An address that asks for something else in the same place. -/
def withTarget (u : Url) (target : List Char) : Except Fault Url :=
  let (path, query) := Text.cut '?' target
  reread { u.parts with path, query }

/-- An address on another host. -/
def withHost (u : Url) (host : List Char) : Except Fault Url :=
  reread u.parts (some (hostText host))

/-- An address below which others lie: what it asks for ends in a slash. -/
def asBase (u : Url) : Except Fault Url :=
  if u.target.getLast? = some '/' then .ok u else u.withTarget (u.target ++ ['/'])

/-- Whether an address leaves open where it leads. -/
def isRelative (u : Url) : Bool :=
  u.scheme = [] || u.host = []

/-- The address that a text writes, below a base if it leaves open where it leads. -/
def below (base : Url) (cs : List Char) : Except Fault Url := do
  let u ← parse cs
  if u.isRelative then base.withTarget (base.target ++ u.target.dropWhile (· = '/')) else .ok u

/-- The host of an address as people write it. -/
def displayHost (u : Url) : Except Domain.Fault (List Char) :=
  if Domain.mark.isPrefixOf u.host then Domain.decode u.host else .ok u.host

end Url

end Karaoke.Http
