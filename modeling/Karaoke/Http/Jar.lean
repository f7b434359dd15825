import Karaoke.Http.Cookie

/-!
# Cookie jars

A jar keeps the cookies of a client by domain, path and name. What is set first comes first, and a
domain or a path keeps its place when its last cookie goes.
-/

set_option autoImplicit false

namespace Karaoke.Http

/-- The cookies of a jar for one domain and path, of which no two have the same name. -/
structure Pocket where
  domain : List Char
  path : List Char
  cookies : List Cookie
  deriving DecidableEq, Repr

/-- A pocket with a cookie, in place of one of its name. -/
def Pocket.put (p : Pocket) (c : Cookie) : Pocket :=
  { p with cookies :=
      if p.cookies.any (·.name = c.name) then
        p.cookies.map (fun d => if d.name = c.name then c else d)
      else p.cookies ++ [c] }

/-- The pockets of one domain are side by side. -/
structure Jar where
  pockets : List Pocket := []
  deriving DecidableEq, Repr

namespace Jar

def cookies (j : Jar) : List Cookie :=
  j.pockets.flatMap (·.cookies)

def isEmpty (j : Jar) : Bool :=
  j.cookies.isEmpty

/-- Pockets with a cookie in the one for its domain and path. A new pocket comes after those of its
domain. -/
def place (c : Cookie) : List Pocket → List Pocket
  | [] => [⟨c.domain, c.path, [c]⟩]
  | p :: ps =>
    if p.domain = c.domain ∧ p.path = c.path then p.put c :: ps
    else if p.domain = c.domain ∧ ps.all (·.domain ≠ c.domain) then
      p :: ⟨c.domain, c.path, [c]⟩ :: ps
    else p :: place c ps

/-- A jar with a cookie, in place of one of its domain, path and name. -/
def put (j : Jar) (c : Cookie) : Jar where
  pockets := place c j.pockets

/-- A jar without the cookie that has the domain, path and name of another. -/
def discard (j : Jar) (c : Cookie) : Jar where
  pockets := j.pockets.map (fun p =>
    if p.domain = c.domain ∧ p.path = c.path then
      { p with cookies := p.cookies.filter (·.name ≠ c.name) }
    else p)

/-- The cookies that go to a site: those for longer paths first. -/
def cookiesFor (j : Jar) (s : Site) : List Cookie :=
  (j.cookies.filter (·.goesTo s)).mergeSort (fun a b => b.path.length ≤ a.path.length)

/-- The header for a site; none if no cookie goes there. -/
def header? (j : Jar) (s : Site) : Option (List Char) :=
  match j.cookiesFor s with
  | [] => none
  | cs => some ("; ".toList.intercalate (cs.map (·.text)))

/-- The jar after some verdicts. Cookies whose time is over go first, and then the others come, but
not if something is broken. -/
def settle (j : Jar) (verdicts : List Cookie.Offer.Verdict) : Jar :=
  let sound := verdicts.takeWhile (· ≠ .broken)
  let j := sound.foldl (fun j v => match v with | .over c => j.discard c | _ => j) j
  if sound.length < verdicts.length then j
  else sound.foldl (fun j v => match v with | .taken c => j.put c | _ => j) j

/-- The jar after a response of a site with some cookie headers. -/
def receive (j : Jar) (now : Int) (s : Site) (headers : List (List Char)) : Jar :=
  let offers := headers.map (Cookie.Offer.ofHeader now)
  if offers.any (fun o => match o with | .error .broken => true | _ => false) then j
  else j.settle ((offers.filterMap (·.toOption)).map (·.verdict now s))

end Jar

end Karaoke.Http
