import Karaoke.Session.State

/-!
# Steps of a session

A step processes a message or ends something pending. Nothing that is pending is given up when it
goes out of date: the browser decides whether a late result still matters.
-/

set_option autoImplicit false

namespace Karaoke.Session

open Catalog (Edit Resource)

def start (s : Session) (p : Pending) : Session :=
  { s with pending := s.pending ++ [p] }

/-- Starts a fetch. One that cannot be sent ends at once and leaves no trace. -/
def fetch (s : Session) (r : Resource) : Session :=
  match s.client.agent.prepare r.request with
  | .ok sent => s.start (.fetch r sent)
  | .error _ => s

/-- Carries out a command. Without a probe the list is not looked at again. -/
def perform (s : Session) : Command → Session
  | .fetchSongs => s.fetch .songs
  | .fetchIndex => s.fetch .index
  | .fetchList name => s.fetch (.list name)
  | .scheduleTick delay generation => s.start (.tick delay generation)
  | .scheduleScroll delay => if s.probe.isSome then s.start (.scrollCheck delay) else s
  | .scrollToTop =>
    { s with display := s.display.map (fun d => { d with scrolls := d.scrolls + 1 }) }

def performAll (s : Session) (commands : List Command) : Session :=
  commands.foldl perform s

/-- Shows the view, if there is a display: what is seen of it, and whether it could be shown. -/
def render (s : Session) : Session × List Event × Bool :=
  match s.display with
  | none => (s, [], true)
  | some d =>
    ({ s with display := some { d with renders := d.renders + 1 } }, [.rendered s.browser.view],
      d.accepts d.renders)

/-- Processes a message: updates the browser, carries out its commands and shows the result. -/
def process (s : Session) (m : Message) : Session × List Event × Bool :=
  let (browser, commands) := s.browser.update m
  let (s, events, shown) := ({ s with browser }.performAll commands).render
  (s, (m.notice?.map Event.noticed).toList ++ events, shown)

/-- Processes a message from the queue; a result that cannot be shown is reported. -/
def consume (s : Session) (m : Message) : Session × List Event :=
  let (s, events, shown) := s.process m
  (s, if shown then events else events ++ [.noticed (.processingFailed m)])

/-- Processes every message of the queue, if the session is running. -/
def drain (s : Session) : Session × List Event :=
  if s.running then
    s.queue.foldl (fun r m =>
      let (s, events) := r.1.consume m
      (s, r.2 ++ events)) ({ s with queue := [] }, [])
  else (s, [])

def enqueue (s : Session) (ms : List Message) : Session :=
  { s with queue := s.queue ++ ms }

def dispatch (s : Session) (ms : List Message) : Session × List Event :=
  (s.enqueue ms).drain

/-- The message that the outcome of a fetch ends in, and what is reported. A failure that is no
fetch error ends the fetch without a message. -/
def conclude [Text.Charsets] (r : Resource) (o : Http.Outcome) : Option Message × List Notice :=
  match r with
  | .songs =>
    match Catalog.fetchSongs o with
    | .ok songs => (some (.songsLoaded songs), [])
    | .error (.fetch e) => (some (.songsFailed e.message), [.songsFetchFailed e])
    | .error _ => (none, [])
  | .index =>
    match Catalog.fetchIndex o with
    | .ok names => (some (.indexLoaded names), [])
    | .error (.fetch e) => (none, [.indexFetchFailed e])
    | .error _ => (none, [])
  | .list name =>
    match Catalog.fetchList name o with
    | .ok members => (some (.listLoaded name members), [])
    | .error (.fetch e) => (some (.listFailed name e.message), [.listFetchFailed name e])
    | .error _ => (none, [])

/-- The message that a change ends in: one if the server changed the list. -/
def concludeEdit (e : Edit) (o : Http.Outcome) : List Message :=
  match e.conclude o with
  | .ok true => [.listChanged e.name]
  | _ => []

/-- Asks the probe. -/
def look (s : Session) : Session × List Message :=
  match s.probe with
  | none => (s, [])
  | some p =>
    ({ s with probe := some { p with asked := p.asked + 1 } }, [.scroll (p.remaining p.asked)])

/-- Ends something that was pending; only a request has a use for the outcome. -/
def finish [Text.Charsets] (s : Session) (p : Pending) (o : Http.Outcome) : Session × List Event :=
  match p with
  | .fetch r sent =>
    let (o, client) := s.client.receive sent o
    let (message, notices) := conclude r o
    ({ s with client }.enqueue message.toList, notices.map .noticed)
  | .tick _ generation => (s.enqueue [.tick generation], [])
  | .scrollCheck _ =>
    let (s, messages) := s.look
    (s.enqueue messages, [])
  | .edit e sent =>
    let (o, client) := s.client.receive sent o
    ({ s with client }.enqueue (concludeEdit e o), [.concluded e (e.conclude o)])

/-- Ends what is pending at a place and processes what it ends in; none if nothing is there. -/
def resolve? [Text.Charsets] (s : Session) (place : Nat) (o : Http.Outcome) :
    Option (Session × List Event) :=
  match s.pending[place]? with
  | none => none
  | some p =>
    let (s, events) := { s with pending := s.pending.eraseIdx place }.finish p o
    let (s, more) := s.drain
    some (s, events ++ more)

/-- Asks the server to change a list. -/
def edit (s : Session) (e : Edit) : Session × List Event :=
  match e.request s.client s.settings with
  | .ok r =>
    match s.client.agent.prepare r with
    | .ok sent => (s.start (.edit e sent), [])
    | .error f => (s, [.concluded e (e.conclude (.fault f))])
  | .error lack => (s, [.refused e lack])

/-- Begins a session: carries out the opening commands and starts to process messages. -/
def begin (s : Session) : Session :=
  { s.performAll s.browser.opening with running := true }

/-- Ends a session: gives up fetches and timers, and processes no more messages. -/
def stop (s : Session) : Session :=
  { s with pending := s.pending.filter (·.isEdit), running := false }

/-- Whether no message waits and no fetch or timer is pending. -/
def isSettled (s : Session) : Bool :=
  s.queue.isEmpty && s.pending.all (·.isEdit)

end Karaoke.Session
