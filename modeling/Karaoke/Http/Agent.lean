import Karaoke.Http.Coding
import Karaoke.Http.Redirect

/-!
# Agents

An agent sends requests to addresses below a base and keeps the cookies that come back.
-/

set_option autoImplicit false

namespace Karaoke.Http

structure Agent where
  base : Url
  accept : String
  jar : Jar := {}
  /-- The time by which cookies are judged. -/
  now : Int := 1767225600
  deriving DecidableEq, Repr

namespace Agent

/-- A text that is ASCII. -/
def ascii (cs : List Char) : Except Fault (List Char) :=
  if Domain.isAscii cs then .ok cs else .error (.beyondAscii cs)

def siteOf (u : Url) : Except Fault Site :=
  match Site.ofUrl? u with
  | some s => .ok s
  | none => .error (.noScheme (Site.textOf u))

/-- The cookies that go along to an address. -/
def cookieFor (a : Agent) (u : Url) : Except Fault (Option String) :=
  if a.jar.isEmpty then .ok none
  else do
    let site ← siteOf u
    match a.jar.header? site with
    | some header => (ascii header).map (fun cs => some (String.ofList cs))
    | none => .ok none

/-- A request as this agent sends it, if it can be sent. -/
def prepare (a : Agent) (r : Request) : Except Fault Sent := do
  let url ← (a.base.below r.path.toList).mapError .address
  let cookie ← a.cookieFor url
  let _ ← url.displayHost.mapError .domain
  let _ ← ascii url.location
  .ok { method := r.method, url, accept := a.accept, cookie }

/-- A response as it can be used: its body is taken out of its codings. -/
def decoded (r : Response) : Except Fault Response :=
  match Coding.decodeAll (Coding.ofValues (r.headerValues "content-encoding")) r.body with
  | .ok body => .ok { r with body }
  | .error f => .error (.coding f)

/-- The agent with the cookies of a response to a request. -/
def keep (a : Agent) (s : Site) (r : Response) : Agent :=
  { a with jar := a.jar.receive a.now s ((r.headerValues "set-cookie").map String.toList) }

/-- What a response to a request gives, and the agent afterwards. If it refers to another address, a
request there is made ready. -/
def take (a : Agent) (s : Sent) (r : Response) : Except Fault Response × Agent :=
  match decoded r with
  | .error f => (.error f, a)
  | .ok r =>
    match siteOf s.url with
    | .error f => (.error f, a)
    | .ok site =>
      let a := a.keep site r
      match Redirect.reference? r with
      | none => (.ok r, a)
      | some reference =>
        ((Redirect.resolve s.url reference >>= a.cookieFor).map (fun _ => r), a)

/-- What came of a request once the agent has looked at it, and the agent afterwards. -/
def receive (a : Agent) (s : Sent) : Outcome → Outcome × Agent
  | .fault f => (.fault f, a)
  | .response r =>
    match a.take s r with
    | (.ok r, a) => (.response r, a)
    | (.error f, a) => (.fault f, a)

end Agent

end Karaoke.Http
