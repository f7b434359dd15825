import Karaoke.Http.Date
import Karaoke.Http.Url

/-!
# Cookies

A server hands out a cookie in a header: its name and value, then attributes that say where and
how long it may be sent back. What an attribute leaves open follows from the request that the
header answers.
-/

set_option autoImplicit false

namespace Karaoke.Http

/-- What of a request decides about cookies. -/
structure Site where
  scheme : List Char
  host : List Char
  /-- The socket, if it is a number. -/
  socket : Option (List Char)
  path : List Char
  deriving DecidableEq, Repr

namespace Site

def isEscapeFree (c : Char) : Bool :=
  Percent.isUnreserved c || "%/;:@&=+$,!~*'()".toList.contains c

/-- A text whose escapes are in upper case. -/
def upperEscapes : List Char → List Char
  | '%' :: a :: b :: cs =>
    if Ip.isHexDigit a && Ip.isHexDigit b then '%' :: a.toUpper :: b.toUpper :: upperEscapes cs
    else '%' :: upperEscapes (a :: b :: cs)
  | c :: cs => c :: upperEscapes cs
  | [] => []

/-- A path in the form in which paths are compared. -/
def escapePath (path : List Char) : List Char :=
  upperEscapes (Percent.keeping isEscapeFree path)

/-- An authority without a socket number. -/
def dropSocket (authority : List Char) : List Char :=
  match Text.cutLast? ':' authority with
  | some (host, socket) => if socket ≠ [] ∧ socket.all Char.isDigit then host else authority
  | none => authority

def dotLocal : List Char := ".local".toList

/-- The host as a domain. A host without a point is a local one. -/
def domain (s : Site) : List Char :=
  if s.host.contains '.' then s.host else s.host ++ dotLocal

/-- The socket that an authority names after its first colon. -/
def socketOf (authority : List Char) : Option (List Char) :=
  match Text.cut? ':' authority with
  | none => some ['8', '0']
  | some (_, socket) => if (Number.int? socket).isSome then some socket else none

/-- What precedes the first colon of an address, if it can be a scheme. -/
def schemeOf? (cs : List Char) : Option (List Char) :=
  match Text.cut? ':' cs with
  | some (scheme, _) => if scheme = [] ∨ scheme.contains '/' then none else some scheme
  | none => none

/-- The text of an address, less the mark of a fragment that is empty. -/
def textOf (u : Url) : List Char :=
  if u.text.getLast? = some '#' then u.text.dropLast else u.text

/-- The site of an address that begins with a scheme. -/
def ofUrl? (u : Url) : Option Site :=
  let text := textOf u
  (schemeOf? text).map (fun scheme =>
    let p := Url.Parts.ofText text
    let path := escapePath p.path
    { scheme := scheme.map Char.toLower
      host := (dropSocket p.authority).map Char.toLower
      socket := socketOf p.authority
      path := if path.head? = some '/' then path else '/' :: path })

/-- Whether a site receives what may be sent to secure sites only. -/
def isSecure (s : Site) : Bool :=
  s.scheme == "https".toList || s.scheme == "wss".toList

/-- The path that a cookie is for unless it names one. -/
def defaultPath (s : Site) (version : Int) : List Char :=
  match Text.cutLast? '/' s.path with
  | some (before, _) => if version ≠ 0 ∨ before = [] then before ++ ['/'] else before
  | none => s.path

end Site

structure Cookie where
  name : List Char
  value : Option (List Char)
  domain : List Char
  path : List Char
  /-- The sockets to which the cookie may go, separated by commas; any if there are none. -/
  sockets : List Char := []
  isSecure : Bool := false
  version : Int := 0
  deriving DecidableEq, Repr

namespace Cookie

/-- A domain with a point in front. -/
def pointed (domain : List Char) : List Char :=
  if domain.head? = some '.' then domain else '.' :: domain

/-! ## Reading a header -/

/-- Why a header gives no cookie. -/
inductive Flaw where
  | ignored
  /-- The headers of the whole response are given up. -/
  | broken
  deriving DecidableEq, Repr

/-- A header cut into pieces: names, and values where there is an equals sign. -/
abbrev Piece := List Char × Option (List Char)

def piece (cs : List Char) : Piece :=
  let (name, value) := Text.cut '=' cs
  (Text.trim name, value.map Text.trim)

/-- A text without a quote at each end. -/
def unquoted (cs : List Char) : List Char :=
  let cs := if cs.head? = some '"' then cs.tail else cs
  if cs.getLast? = some '"' then cs.dropLast else cs

/-- What a header offers: a cookie, with what it leaves open. -/
structure Offer where
  name : List Char
  value : Option (List Char)
  version : Option (List Char) := none
  expires : Option Int := none
  domain : Option (List Char) := none
  path : Option (List Char) := none
  /-- The sockets; none after the name alone. -/
  sockets : Option (Option (List Char)) := none
  secure : Option Bool := none
  deriving DecidableEq, Repr

namespace Offer

/-- A text that an attribute has to have. The first one counts. -/
def first (old value : Option (List Char)) : Except Flaw (Option (List Char)) :=
  match old, value with
  | some text, _ => .ok (some text)
  | none, some text => .ok (some text)
  | none, none => .error .ignored

/-- An offer with one more attribute. Attributes that nothing depends on are passed over. -/
def extend (now : Int) (o : Offer) (p : Piece) : Except Flaw Offer :=
  match String.ofList (p.1.map Char.toLower) with
  | "version" => do return { o with version := ← first o.version (p.2.map unquoted) }
  | "domain" => do return { o with domain := ← first o.domain (p.2.map Text.lower) }
  | "path" => do return { o with path := ← first o.path p.2 }
  | "port" => .ok { o with sockets := o.sockets.or (some p.2) }
  | "secure" => .ok { o with secure := o.secure.or (some (p.2 ≠ some [])) }
  | "expires" =>
    match o.expires, p.2.map (fun date => Date.read now (unquoted date)) with
    | none, some (.time t) => .ok { o with expires := some t }
    | _, _ => .ok o
  | "max-age" =>
    match p.2.map Number.int? with
    | none => .error .broken
    | some none => .error .ignored
    | some (some age) => .ok { o with expires := some (now + age) }
  | _ => .ok o

/-- Whether a piece is a date in a form that no date has. -/
def isBroken (now : Int) (p : Piece) : Bool :=
  p.1.map Char.toLower == "expires".toList
    && p.2.any (fun date => Date.read now (unquoted date) = .broken)

/-- What a header offers. -/
def ofHeader (now : Int) (header : List Char) : Except Flaw Offer :=
  match (header.splitOn ';').map piece with
  | [] => .error .ignored
  | (name, value) :: attributes =>
    let attributes := attributes.filter (·.1 ≠ [])
    if name = [] then .error .ignored
    else if attributes.any (isBroken now) then .error .broken
    else attributes.foldlM (extend now) { name, value }

/-! ## What becomes of an offer -/

/-- Whether a site may offer a cookie for a domain. -/
def mayName (s : Site) (version : Int) (domain : List Char) : Bool :=
  let bare := if domain.head? = some '.' then domain.tail else domain
  (bare.contains '.' || Site.dotLocal.isSuffixOf s.domain)
    && (version != 0 || domain.isSuffixOf s.domain || (bare ++ Site.dotLocal).isSuffixOf s.domain
      || s.domain.head? == some '.' || domain.isSuffixOf ('.' :: s.domain))

/-- Whether a site is on one of some sockets, before which only numbers stand. -/
def mayLimit (s : Site) (sockets : List Char) : Bool :=
  let texts := sockets.splitOn ','
  let before := texts.takeWhile (· ≠ s.socket.getD ['8', '0'])
  before.all (fun t => (Number.int? t).isSome) && before.length < texts.length

/-- Whether an offer is taken as a cookie. -/
def isTaken (o : Offer) (s : Site) (c : Cookie) : Bool :=
  c.version ≤ 0 && (o.domain.isNone || mayName s c.version c.domain)
    && (match o.sockets with
      | some (some _) => mayLimit s c.sockets
      | _ => true)

/-- The cookie that a site offers. -/
def cookie (o : Offer) (s : Site) (version : Int) : Cookie where
  name := o.name
  value := o.value
  domain := (o.domain.map pointed).getD s.domain
  path := match o.path.filter (· ≠ []) with
    | some path => Site.escapePath path
    | none => s.defaultPath version
  sockets := match o.sockets with
    | none => []
    | some none => s.socket.getD []
    | some (some text) => Text.squeeze text
  isSecure := o.secure.getD false
  version := if version = 1 then 0 else version

/-- What becomes of an offer. -/
inductive Verdict where
  | ignored
  /-- The offers of the whole response are given up. -/
  | broken
  /-- The time of a cookie is over. -/
  | over (c : Cookie)
  | taken (c : Cookie)
  deriving DecidableEq, Repr

/-- A time so late that it is no longer a number. -/
def endOfTime : Int := Nat.pow 2 1024 - Nat.pow 2 970

def verdict (o : Offer) (now : Int) (s : Site) : Verdict :=
  match (o.version.map Number.int?).getD (some 0) with
  | none => .ignored
  | some version =>
    let c := o.cookie s version
    if o.expires.any (· ≤ now) then .over c
    else if o.expires.any (endOfTime ≤ ·) then .broken
    else if o.isTaken s c then .taken c
    else .ignored

end Offer

/-! ## Sending back -/

/-- What the names of the hosts that a cookie goes to end in; those of all hosts end in nothing. -/
def ending (c : Cookie) : List Char :=
  if c.domain = [] then [] else pointed c.domain

/-- Whether a path is below another. -/
def pathCovers (path : List Char) (s : Site) : Bool :=
  s.path == path || (path.isPrefixOf s.path
    && (path.getLast? == some '/' || (s.path.drop path.length).head? == some '/'))

/-- Whether a cookie goes to a site. -/
def goesTo (c : Cookie) (s : Site) : Bool :=
  (c.ending.isSuffixOf (pointed s.host) || c.ending.isSuffixOf (pointed s.domain))
    && (c.version != 0 || c.ending.isSuffixOf ('.' :: s.domain))
    && pathCovers c.path s && (!c.isSecure || s.isSecure)
    && (c.sockets == [] || (c.sockets.splitOn ',').contains (s.socket.getD ['8', '0']))

/-- A cookie as it is sent: its name alone if it has no value. -/
def text (c : Cookie) : List Char :=
  match c.value with
  | some value => c.name ++ '=' :: value
  | none => c.name

end Cookie

end Karaoke.Http
