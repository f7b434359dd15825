import Karaoke.Proofs.Browser.Lists
import Karaoke.Session.Step

/-!
# What a step of a session does

Each step as one equation: a command starts something or moves the display, a message changes the
browser and has its commands carried out, and what ends joins the queue with at most one message of
its own kind.
-/

set_option autoImplicit false

namespace Karaoke

open Catalog (Resource)

/-- A fetch of a resource ends in a message of its own, with what has come or with an error. -/
inductive Message.Answers : Resource → Message → Prop
  | songsLoaded (songs : List Song) : Answers .songs (.songsLoaded songs)
  | songsFailed (error : String) : Answers .songs (.songsFailed error)
  | indexLoaded (names : List String) : Answers .index (.indexLoaded names)
  | listLoaded (name : String) (members : NameSet) : Answers (.list name) (.listLoaded name members)
  | listFailed (name error : String) : Answers (.list name) (.listFailed name error)

/-- Something pending ends in a message of its own kind, or in none. -/
inductive Pending.EndsIn : Pending → Message → Prop
  | fetch {r : Resource} {sent : Http.Sent} {m : Message} : m.Answers r → EndsIn (.fetch r sent) m
  | tick (delay generation : Nat) : EndsIn (.tick delay generation) (.tick generation)
  | scrollCheck (delay : Nat) (remaining : Int) : EndsIn (.scrollCheck delay) (.scroll remaining)
  | edit (e : Catalog.Edit) (sent : Http.Sent) : EndsIn (.edit e sent) (.listChanged e.name)

namespace Session

def fetching (client : Catalog.Client) (r : Resource) : List Pending :=
  match client.agent.prepare r.request with
  | .ok sent => [.fetch r sent]
  | .error _ => []

/-- What a command starts. -/
def started (client : Catalog.Client) (probe : Option Probe) : Command → List Pending
  | .fetchSongs => fetching client .songs
  | .fetchIndex => fetching client .index
  | .fetchList name => fetching client (.list name)
  | .scheduleTick delay generation => [.tick delay generation]
  | .scheduleScroll delay => if probe.isSome then [.scrollCheck delay] else []
  | .scrollToTop => []

def scrolled (display : Option Display) : Command → Option Display
  | .scrollToTop => display.map fun d => { d with scrolls := d.scrolls + 1 }
  | _ => display

def rendered (display : Option Display) : Option Display :=
  display.map fun d => { d with renders := d.renders + 1 }

variable (s : Session)

theorem fetch_eq (r : Resource) :
    s.fetch r = { s with pending := s.pending ++ fetching s.client r } := by
  unfold fetch fetching
  cases s.client.agent.prepare r.request with
  | ok sent => rfl
  | error f => simp

theorem perform_eq (c : Command) : s.perform c =
    { s with
      pending := s.pending ++ started s.client s.probe c
      display := scrolled s.display c } := by
  cases c
  case fetchSongs => exact fetch_eq s .songs
  case fetchIndex => exact fetch_eq s .index
  case fetchList name => exact fetch_eq s (.list name)
  case scheduleTick => rfl
  case scheduleScroll delay =>
    simp only [perform, started, scrolled]
    split
    · rfl
    · simp
  case scrollToTop => simp [perform, started, scrolled]

theorem performAll_eq (cs : List Command) : s.performAll cs =
    { s with
      pending := s.pending ++ cs.flatMap (started s.client s.probe)
      display := cs.foldl scrolled s.display } := by
  unfold performAll
  induction cs generalizing s with
  | nil => simp
  | cons c cs ih =>
    rw [List.foldl_cons, perform_eq, ih, List.flatMap_cons, List.append_assoc]
    rfl

theorem render_eq : s.render.1 = { s with display := rendered s.display } := by
  obtain ⟨_, _, _, _, display, _, _, _⟩ := s
  cases display <;> rfl

/-- A message that is processed changes the browser, and its commands start more. -/
theorem consume_eq (m : Message) : (s.consume m).1 =
    { s with
      browser := (s.browser.update m).1
      pending := s.pending ++ (s.browser.update m).2.flatMap (started s.client s.probe)
      display := rendered ((s.browser.update m).2.foldl scrolled s.display) } := by
  unfold consume process
  generalize s.browser.update m = answer
  obtain ⟨browser, commands⟩ := answer
  exact (render_eq _).trans (by rw [performAll_eq])

theorem answers_of_conclude [Text.Charsets] {r : Resource} {o : Http.Outcome} {m : Message}
    (h : (conclude r o).1 = some m) : m.Answers r := by
  unfold conclude at h
  cases r with
  | songs =>
    dsimp only at h
    split at h <;> cases h
    · exact .songsLoaded _
    · exact .songsFailed _
  | index =>
    dsimp only at h
    split at h <;> cases h
    exact .indexLoaded _
  | list name =>
    dsimp only at h
    split at h <;> cases h
    · exact .listLoaded name _
    · exact .listFailed name _

theorem finish_eq [Text.Charsets] (p : Pending) (o : Http.Outcome) :
    ∃ client probe, ∃ m : Option Message,
      (s.finish p o).1 = { s with client, probe, queue := s.queue ++ m.toList } ∧
      ∀ n ∈ m, p.EndsIn n := by
  cases p with
  | fetch r sent =>
    exact ⟨(s.client.receive sent o).2, s.probe, (conclude r (s.client.receive sent o).1).1, rfl,
      fun n h => .fetch (answers_of_conclude h)⟩
  | tick delay generation =>
    refine ⟨s.client, s.probe, some (.tick generation), rfl, ?_⟩
    rintro n ⟨⟩
    exact .tick delay generation
  | scrollCheck delay =>
    cases h : s.probe with
    | none =>
      refine ⟨s.client, none, none, ?_, nofun⟩
      simp only [finish, look, h]
      simp [enqueue, h]
    | some p =>
      refine ⟨s.client, some { p with asked := p.asked + 1 },
        some (.scroll (p.remaining p.asked)), ?_, ?_⟩
      · simp only [finish, look, h]
        rfl
      · rintro n ⟨⟩
        exact .scrollCheck delay _
  | edit e sent =>
    refine ⟨(s.client.receive sent o).2, s.probe, ?_⟩
    simp only [finish, concludeEdit]
    split
    · refine ⟨some (.listChanged e.name), rfl, ?_⟩
      rintro n ⟨⟩
      exact .edit e sent
    · exact ⟨none, rfl, nofun⟩

end Session

end Karaoke
