import Karaoke.Proofs.Traffic

/-!
# Wanted lists

A list that is in progress does not stay so for ever: a fetch of it is in flight, and any answer
ends the progress. A list that the query asks for is fetched, unless a fetch of it has failed since
it was last asked for.
-/

set_option autoImplicit false

namespace Karaoke

namespace Browser

/-- Whether a message bears on the fetches of a list: it recomputes the ranking, or tells that the
list has changed or that a fetch of it has failed. -/
def concerns (b : Browser) (name : String) (m : Message) : Bool :=
  b.recomputes m || match m with
    | .listChanged other | .listFailed other _ => other = name
    | _ => false

theorem concerns_iff {b : Browser} {name : String} {m : Message} :
    b.concerns name m = true ↔
      b.recomputes m = true ∨ m = .listChanged name ∨ ∃ error, m = .listFailed name error := by
  cases m <;> simp [concerns]

/-- Whether the last message that concerned a list told that a fetch of it has failed, if the list
is not loaded and the query asks for it. -/
def Remembers (b : Browser) (name : String) (last : Option Message) : Prop :=
  b.parsed.list = some name → b.lists.load name = .notLoaded →
    ∃ error, last = some (.listFailed name error)

theorem Remembers.update {b : Browser} {name : String} {last : Option Message}
    (remembers : b.Remembers name last) (m : Message) :
    (b.update m).1.Remembers name (if b.concerns name m then some m else last) := by
  intro wanted missing
  rw [parsed_update] at wanted
  obtain ⟨unasked, missing⟩ := not_asked_of_notLoaded missing
  -- A recomputed ranking would have asked for the list.
  have kept : b.recomputes m = false := by
    refine Bool.eq_false_iff.mpr fun h => unasked ?_
    rw [asked_of_recomputes h, wanted]
  rw [parsed_received_of_not_recomputes kept] at wanted
  cases news : m.load? name with
  | some load =>
    rw [news] at missing
    cases missing
    rcases Message.load?_eq_notLoaded_iff.mp news with rfl | ⟨error, rfl⟩
    · exact absurd (asked_listChanged wanted) unasked
    · exact ⟨error, if_pos (concerns_iff.mpr (.inr (.inr ⟨error, rfl⟩)))⟩
  | none =>
    have unconcerned : b.concerns name m ≠ true := by
      rw [Ne, concerns_iff, ← Message.load?_eq_notLoaded_iff, kept, news]
      simp
    rw [news] at missing
    rw [if_neg unconcerned]
    exact remembers wanted missing

end Browser

namespace Traffic

/-- The state that events lead to, the latest event first. -/
def afterAll (w : Traffic) (es : List Event) : Traffic :=
  es.foldr (fun e w => w.after e) w

/-- The last message of some events, the latest event first, that concerned a list. -/
def lastConcern (w : Traffic) (name : String) : List Event → Option Message
  | [] => none
  | e :: es =>
    if (w.afterAll es).browser.concerns name e.news then some e.news else w.lastConcern name es

variable {w w' : Traffic} {e : Event} {es : List Event} {name : String}

theorem Run.eq_afterAll (run : Run w es w') : w' = w.afterAll es := by
  induction run with
  | nil => rfl
  | cons _ _ ih =>
    rw [ih]
    rfl

/-- What every message preserves of a browser and the last message that concerned a list is
preserved by a run. -/
theorem Run.preserves_lastConcern {P : Browser → Option Message → Prop} (run : Run w es w')
    (start : P w.browser none)
    (step : ∀ {b last} m, P b last → P (b.update m).1 (if b.concerns name m then some m else last)) :
    P w'.browser (w.lastConcern name es) := by
  induction run with
  | nil => exact start
  | @cons es w' e run _ ih =>
    rw [browser_after, lastConcern, ← run.eq_afterAll]
    exact step e.news ih

theorem Run.remembers (run : Run w es w') (start : w.browser.Remembers name none) :
    w'.browser.Remembers name (w.lastConcern name es) := by
  apply run.preserves_lastConcern (P := fun b last => b.Remembers name last) start
  intro b last m remembers
  exact remembers.update m

/-- Whether a fetch of a list is in flight if the list is in progress. -/
def Attended (w : Traffic) (name : String) : Prop :=
  w.browser.lists.load name = .inProgress → 0 < w.inFlight name

theorem Attended.after (attended : Attended w name) (allowed : w.Allows e) :
    Attended (w.after e) name := by
  intro progress
  rw [browser_after, Browser.load_update] at progress
  rw [inFlight_after]
  split at progress
  · next fetched =>
    rw [if_pos fetched]
    exact Nat.succ_pos _
  · rcases allowed.news name with ⟨silent, same⟩ | ⟨changed, -⟩ | ⟨load, told, other, -⟩
    · rw [silent] at progress
      rw [same]
      exact Nat.add_pos_left (attended progress) _
    · simp [changed, Message.load?] at progress
    · rw [told] at progress
      exact absurd progress other

/-- A list in progress has a fetch in flight. A list that is not loaded, though the query asks for
it, is so because a fetch of it failed: since then the ranking was not recomputed and the list has
not changed. -/
theorem wanted_attended {dice : Dice} {window : Option Int} {threshold : Option Threshold}
    (run : Run { browser := .new dice window threshold } es w) (name : String) :
    (w.browser.lists.load name = .inProgress → 0 < w.inFlight name) ∧
    (w.browser.parsed.list = some name → w.browser.lists.load name = .notLoaded →
      ∃ error, lastConcern { browser := .new dice window threshold } name es =
        some (.listFailed name error)) := by
  constructor
  · have start : Attended { browser := .new dice window threshold } name := nofun
    exact run.preserves start Attended.after
  · -- The search field of a new browser is blank and asks for nothing.
    have start : (Browser.new dice window threshold).Remembers name none := nofun
    exact run.remembers start

/-- A list changes while it is in progress and is fetched again. The first fetch then fails, and
the list stays as it is until it is asked for once more, though the second fetch is in flight. -/
theorem wanted_attended_failed :
    let new : Traffic := { browser := .new { roll := fun _ _ => 0 } }
    let es : List Event := [.message (.listChanged "Fans"), .message (.search "list:Fans")]
    let failed : Event := .failed ⟨"Fans", 0⟩ "timeout"
    (Run new es (new.afterAll es) ∧ (new.afterAll es).browser.lists.load "Fans" = .inProgress ∧
      0 < (new.afterAll es).inFlight "Fans") ∧
    Run new (failed :: es) (new.afterAll (failed :: es)) ∧
      (new.afterAll (failed :: es)).browser.parsed.list = some "Fans" ∧
      (new.afterAll (failed :: es)).browser.lists.load "Fans" = .notLoaded ∧
      ∃ error, new.lastConcern "Fans" (failed :: es) = some (.listFailed "Fans" error) := by
  intro new es failed
  have run : Run new es (new.afterAll es) := .cons (.cons .nil rfl) rfl
  have first : ⟨"Fans", 0⟩ ∈ (new.afterAll es).flying := by decide +kernel
  have later : Run new (failed :: es) (new.afterAll (failed :: es)) := .cons run first
  have progress : (new.afterAll es).browser.lists.load "Fans" = .inProgress := by decide +kernel
  have wanted : (new.afterAll (failed :: es)).browser.parsed.list = some "Fans" := by
    decide +kernel
  have missing : (new.afterAll (failed :: es)).browser.lists.load "Fans" = .notLoaded := by
    decide +kernel
  exact ⟨⟨run, progress, (wanted_attended run "Fans").1 progress⟩, later, wanted, missing,
    (wanted_attended later "Fans").2 wanted missing⟩

end Traffic

end Karaoke
