import Karaoke.Http.Exchange
import Karaoke.Http.Jar

/-!
# Redirects

A response may refer to another address. The reference is not followed, but it is worked out: below
the address of the request if it leaves open where it leads. A reference that leads nowhere is a
fault.
-/

set_option autoImplicit false

namespace Karaoke.Http.Redirect

def statuses : List Int := [301, 302, 303, 307, 308]

/-- What a response refers to. -/
def reference? (r : Response) : Option (List Char) :=
  if statuses.contains r.status then (r.header? "location").map String.toList else none

/-! ## Joining -/

/-- The schemes below which a reference without a scheme leads on. -/
def joining : List String :=
  ["ftp", "http", "gopher", "nntp", "imap", "wais", "file", "https", "shttp", "mms", "prospero",
   "rtsp", "rtspu", "sftp", "svn", "svn+ssh", "ws", "wss"]

/-- The schemes in whose paths a semicolon parts the last segment from parameters. -/
def parting : List String :=
  ["ftp", "prospero", "http", "imap", "https", "shttp", "rtsp", "rtspu", "mms", "sftp"]

/-- A path without the parameters of its last segment, and these; they may be empty. -/
def cutParameters (scheme path : List Char) : List Char × List Char :=
  if parting.contains (String.ofList scheme) then
    let (front, last) := match Text.cutLast? '/' path with
      | some (before, last) => (before ++ ['/'], last)
      | none => ([], path)
    let (segment, parameters) := Text.cut ';' last
    (front ++ segment, parameters.getD [])
  else (path, [])

/-- The segments of a path below another one. Empty ones inside are passed over. -/
def segmentsBelow (base path : List Char) : List (List Char) :=
  let folder := base.splitOn '/'
  let folder := if folder.getLast? = some [] then folder else folder.dropLast
  let segments := folder ++ path.splitOn '/'
  segments.take 1 ++ (segments.tail.dropLast.filter (· ≠ []) ++
    if segments.length ≤ 1 then [] else segments.getLast?.toList)

/-- A path as it is meant below another one, without the segments `.` and `..`. -/
def pathBelow (base path : List Char) : List Char :=
  let dots := [['.'], ['.', '.']]
  let segments := if path.head? = some '/' then path.splitOn '/' else segmentsBelow base path
  let out := segments.foldl
    (fun out s => if s = ['.', '.'] then out.tail else if s = ['.'] then out else s :: out) []
  let out := if segments.getLast?.any dots.contains then [] :: out else out
  let path := ['/'].intercalate out.reverse
  if path = [] then ['/'] else path

/-- The text of an address. What is empty leaves no mark. -/
def written (scheme authority path parameters query fragment : List Char) : List Char :=
  let mark (c : Char) (part : List Char) : List Char := if part = [] then [] else c :: part
  let path := path ++ mark ';' parameters
  scheme ++ ':' :: '/' :: '/' :: (authority ++
    ((if path ≠ [] ∧ path.head? ≠ some '/' then '/' :: path else path) ++
      (mark '?' query ++ mark '#' fragment)))

/-- What a reference makes up with an address. It takes the scheme, and if it has no authority of
its own that of the address too; else it stands alone. -/
def joined (u : Url) (reference : List Char) : List Char :=
  let p := Url.Parts.ofText reference
  if reference = [] then u.text
  else if p.scheme ≠ [] ∧ p.scheme.map Char.toLower ≠ u.scheme
      ∨ !joining.contains (String.ofList u.scheme) then reference
  else
    let (path, parameters) := cutParameters u.scheme p.path
    let (own, ownParameters) := cutParameters u.scheme u.path
    let query := p.query.getD []
    let fragment := p.fragment.getD []
    if p.authority ≠ [] then written u.scheme p.authority path parameters query fragment
    else if path = [] ∧ parameters = [] then
      written u.scheme u.authority own ownParameters (if query = [] then u.query.getD [] else query)
        fragment
    else written u.scheme u.authority (pathBelow own path) parameters query fragment

/-! ## Working out -/

/-- The address that a reference makes up with another one, if it leaves open where it leads. -/
def completed (u l : Url) : Except Url.Fault Url :=
  if l.isRelative then Url.parse (joined u l.text) else .ok l

/-- An address with the fragment of another one, if it has none and that one has. -/
def withFragment (u l : Url) : Except Url.Fault Url :=
  if u.fragment.getD [] ≠ [] ∧ l.fragment.getD [] = [] then
    Url.reread { l.parts with fragment := u.fragment }
  else .ok l

/-- An address on the host of another one, if it has a scheme and no host. -/
def hosted (u l : Url) : Except Fault Url :=
  if l.scheme = [] then .ok l
  else do
    let host ← l.displayHost.mapError .domain
    if host ≠ [] then .ok l
    else
      let own ← u.displayHost.mapError .domain
      (l.withHost own).mapError .address

/-- The address that a reference leads to from another. -/
def resolve (u : Url) (reference : List Char) : Except Fault Url := do
  let l ← (Url.parse reference).mapError .reference
  let l ← hosted u l
  let l ← (completed u l >>= withFragment u).mapError .address
  let _ ← l.displayHost.mapError .domain
  .ok l

end Karaoke.Http.Redirect
