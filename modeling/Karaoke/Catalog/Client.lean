import Karaoke.Catalog.Address
import Karaoke.Catalog.Payload
import Karaoke.Http.Agent
import Karaoke.Settings

/-!
# The catalog client

The requests of a client and what their outcomes mean. Songs and lists may be read by anyone; only
a client that was given a session cookie may change a list.
-/

set_option autoImplicit false

namespace Karaoke.Catalog

/-- The content types that a client asks for. -/
def accepted : String := "text/csv, application/json;q=0.9"

def cookieName : String := "id"

/-- Seconds that a client waits for a response. -/
def timeout : Nat := 30

structure Client where
  agent : Http.Agent
  /-- The session cookie that the client was given. -/
  cookie : Option String
  deriving DecidableEq, Repr

namespace Client

/-- The first of two texts that is there and not empty. -/
def firstSet (a b : Option String) : Option String :=
  match a with
  | some s => if s = "" then b else some s
  | none => b

/-- A session cookie for every host and path. -/
def sessionCookie (value : String) : Http.Cookie where
  name := cookieName.toList
  value := some value.toList
  domain := []
  path := ['/']

/-- A client for an address and a cookie; the settings stand in for what is missing or empty. -/
def new (settings : Settings) (baseUrl cookie : Option String := none) :
    Except Http.Url.Fault Client := do
  let url ← Http.Url.parse ((firstSet baseUrl none).getD settings.baseUrl).toList
  let base ← url.asBase
  let cookie := firstSet cookie (firstSet settings.sessionCookie none)
  let jar : Http.Jar := match cookie with
    | some value => Http.Jar.put {} (sessionCookie value)
    | none => {}
  .ok { agent := { base, accept := accepted, jar }, cookie }

/-- What came of a request that was sent, once the client has looked at it, and the client
afterwards. -/
def receive (c : Client) (s : Http.Sent) (o : Http.Outcome) : Http.Outcome × Client :=
  let (o, agent) := c.agent.receive s o
  (o, { c with agent })

/-- Makes a request that has an outcome if it is sent: the request as it was sent, what came of it,
and the client afterwards. -/
def exchange (c : Client) (r : Http.Request) (o : Http.Outcome) :
    Option Http.Sent × Http.Outcome × Client :=
  match c.agent.prepare r with
  | .error f => (none, .fault f, c)
  | .ok s => (some s, c.receive s o)

end Client

/-- What a client can fetch. -/
inductive Resource where
  | songs
  | index
  | list (name : String)
  deriving DecidableEq, Repr

namespace Resource

def path : Resource → String
  | songs => songsPath
  | index => listsPath
  | list name => listPath name

def request (r : Resource) : Http.Request :=
  ⟨.get, r.path⟩

end Resource

def fetchSongs [Text.Charsets] (o : Http.Outcome) : Except Failure (List Song) :=
  fetched Resource.songs.path songs o

/-- The names of all lists. -/
def fetchIndex [Text.Charsets] (o : Http.Outcome) : Except Failure (List String) :=
  fetched Resource.index.path names o

/-- The hashes of the songs in a list. -/
def fetchList [Text.Charsets] (name : String) (o : Http.Outcome) : Except Failure NameSet :=
  (fetched (Resource.list name).path names o).map NameSet.ofList

inductive EditKind where
  | add | remove
  deriving DecidableEq, Repr

/-- A change of one entry of a list. -/
structure Edit where
  kind : EditKind
  name : String
  hash : String
  deriving DecidableEq, Repr

namespace Edit

def path (e : Edit) : String :=
  entryPath e.name e.hash

/-- The request for a change. A client without a cookie makes none. -/
def request (e : Edit) (c : Client) (settings : Settings) : Except Settings.Lack Http.Request :=
  let request : Http.Request := ⟨match e.kind with | .add => .put | .remove => .delete, e.path⟩
  match c.cookie with
  | some _ => .ok request
  | none =>
    match settings.require Settings.Field.sessionCookie.name "Catalog session" with
    | .error lack => .error lack
    | .ok _ => .ok request

/-- Whether the server changed the list. It did not if it has no entry to remove. -/
def conclude (e : Edit) (o : Http.Outcome) : Except Failure Bool :=
  match success e.path o with
  | .ok _ => .ok true
  | .error (.fetch (.status code reason)) =>
    if e.kind = .remove ∧ code = 404 then .ok false
    else .error (.fetch (.status code reason))
  | .error f => .error f

end Edit

end Karaoke.Catalog
