import Karaoke.Proofs.Browser.Buttons
import Karaoke.Proofs.Browser.Replies
import Mathlib.Data.Set.Defs

/-!
# Lists that are not asked for

What a browser knows of a list comes into play only through a query that asks for that list. Two
browsers that differ in nothing but what they know of other lists give the same answers, as long as
nobody searches for one of these: a button writes a query that asks for the same list as before or
for none.
-/

set_option autoImplicit false

namespace Karaoke.Browser

/-- What a browser answers to each message of a run: its commands, and what is on view then. -/
def answers (b : Browser) : List Message → List (List Command × View)
  | [] => []
  | m :: ms => ((b.update m).2, (b.update m).1.view) :: answers (b.update m).1 ms

def withLists (b : Browser) (p : Playlists) : Browser :=
  { b with lists := p }

variable {b c : Browser} {p : Playlists}

/-! ## Other lists -/

theorem view_withLists : (b.withLists p).view = b.view := rfl

theorem reordered_withLists : (b.withLists p).reordered = b.reordered.withLists p := rfl

theorem suggest_withLists : (b.withLists p).suggest = (b.suggest.1.withLists p, b.suggest.2) :=
  suggest_mapLists (fun _ => p) b

theorem received_withLists (m : Message) :
    (b.withLists p).received m = (b.received m).withLists ((b.withLists p).received m).lists := by
  cases m <;> rfl

theorem rechecks_withLists (m : Message) : (b.withLists p).rechecks m = b.rechecks m := by
  cases m
  case scroll remaining =>
    by_cases near : remaining < rowHeight * rowsAhead ∧ b.shown < b.ranking.songs.length <;>
      simp [rechecks_scroll, scroll, withLists, near]
  all_goals rfl

theorem requestList_congr {p p' : Playlists} {wanted : Option String}
    (same : ∀ name, wanted = some name → p'.load name = p.load name) :
    (requestList p' wanted).2 = (requestList p wanted).2 := by
  cases wanted with
  | none => rfl
  | some name =>
    rw [requestList_some, requestList_some, same name rfl]
    split <;> rfl

theorem found_withLists
    (same : ∀ name, b.parsed.list = some name → p.load name = b.lists.load name) :
    (b.withLists p).found = b.found.withLists (requestList p b.parsed.list).1 := by
  have members : ∀ name, b.parsed.list = some name →
      (requestList p b.parsed.list).1.members? name =
        (requestList b.lists b.parsed.list).1.members? name := by
    intro name wanted
    apply Playlists.members?_congr
    intro members
    rw [loaded_requestList_iff, loaded_requestList_iff, same name wanted]
  have ranking : (b.withLists p).found.ranking = b.found.ranking :=
    Ranking.ofQuery_congr members
  change { b.found.withLists (requestList p b.parsed.list).1 with
    ranking := (b.withLists p).found.ranking } = _
  rw [ranking]
  rfl

theorem refresh_withLists
    (same : ∀ name, b.parsed.list = some name → p.load name = b.lists.load name) :
    (b.withLists p).refresh =
      (b.refresh.1.withLists (requestList p b.parsed.list).1, b.refresh.2) := by
  cases h : modeOf b.query with
  | idle =>
    have drawn : (b.withLists p).drawn = b.drawn.withLists p := rfl
    rw [refresh_of_idle h, refresh_of_idle (b := b.withLists p) h, drawn, suggest_withLists,
      parsed_of_idle h]
    rfl
  | filtered =>
    have commands : (requestList p b.parsed.list).2 = (requestList b.lists b.parsed.list).2 :=
      requestList_congr same
    rw [refresh_of_filtered h, refresh_of_filtered (b := b.withLists p) h, found_withLists same,
      ← commands]
    rfl

theorem shuffle_withLists (same : ∀ name, (b.received .shuffle).parsed.list = some name →
      p.load name = b.lists.load name) :
    (b.withLists p).shuffle =
      (b.shuffle.1.withLists (requestList p (b.received .shuffle).parsed.list).1,
        b.shuffle.2) := by
  have received : (b.withLists p).received .shuffle = (b.received .shuffle).withLists p := rfl
  have refreshed := refresh_withLists (b := b.received .shuffle) same
  cases h : modeOf (b.received .shuffle).query with
  | idle =>
    rw [shuffle_of_idle h, shuffle_of_idle (b := b.withLists p) h, received, refreshed]
  | filtered =>
    rw [shuffle_of_filtered h, shuffle_of_filtered (b := b.withLists p) h, received, refreshed,
      reordered_withLists, suggest_withLists]

/-! ## One message -/

theorem update_shuffle (b : Browser) : b.update .shuffle = b.shuffle := rfl

/-- A message has two browsers do the same if they know the same of the list that it has them ask
for. -/
theorem exists_update_withLists {m : Message} (same : ∀ name, b.asked m = some name →
      ((b.withLists p).received m).lists.load name = (b.received m).lists.load name) :
    ∃ q, (b.withLists p).update m = ((b.update m).1.withLists q, (b.update m).2) := by
  have recomputes : (b.withLists p).recomputes m = b.recomputes m := recomputes_congr rfl m
  cases h : b.recomputes m with
  | true =>
    rw [asked_of_recomputes h] at same
    by_cases shuffled : m = .shuffle
    · subst shuffled
      rw [update_shuffle, update_shuffle, shuffle_withLists (p := p) same]
      exact ⟨_, rfl⟩
    · rw [update_eq_refresh h shuffled, update_eq_refresh (recomputes.trans h) shuffled,
        received_withLists, refresh_withLists same]
      exact ⟨_, rfl⟩
  | false =>
    have asked : (b.withLists p).asked m = b.asked m := by
      unfold Browser.asked
      rw [recomputes, h]
      rfl
    rcases cases_of_not_recomputes h with ⟨generation, rfl⟩ | e
    · exact ⟨p, rfl⟩
    · rcases cases_of_not_recomputes (recomputes.trans h) with ⟨generation, rfl⟩ | e'
      · exact ⟨p, rfl⟩
      · rw [e, e', asked, requestList_congr same, rechecks_withLists, received_withLists]
        exact ⟨_, rfl⟩

/-- Whether two browsers differ in nothing but lists outside a set, and their query asks for none of
these. -/
structure SameWithin (names : Set String) (b c : Browser) : Prop where
  others : c = b.withLists c.lists
  loads : ∀ name ∈ names, c.lists.load name = b.lists.load name
  wanted : ∀ name, b.parsed.list = some name → name ∈ names

/-- A search text comes from a search, or a button wrote it from the one before. -/
theorem wanted_received {names : Set String} {m : Message}
    (wanted : ∀ name, b.parsed.list = some name → name ∈ names)
    (searched : ∀ query, m = .search query →
      ∀ name, (Query.parse query).list = some name → name ∈ names) :
    ∀ name, (b.received m).parsed.list = some name → name ∈ names := by
  cases m
  case search query => exact searched query rfl
  case toggleVideo => rwa [parsed_received_toggleVideo]
  case toggleDuets => rwa [parsed_received_toggleDuets]
  case shuffle => rwa [parsed_received_shuffle]
  case selectCategory genre =>
    rw [parsed_received_selectCategory]
    nofun
  all_goals exact wanted

theorem SameWithin.update {names : Set String} {m : Message} (same : SameWithin names b c)
    (searched : ∀ query, m = .search query →
      ∀ name, (Query.parse query).list = some name → name ∈ names) :
    (c.update m).2 = (b.update m).2 ∧ SameWithin names (b.update m).1 (c.update m).1 := by
  obtain ⟨others, loads, wanted⟩ := same
  generalize c.lists = p at others loads
  subst others
  have wanted' : ∀ name, (b.update m).1.parsed.list = some name → name ∈ names := by
    rw [parsed_update]
    exact wanted_received wanted searched
  have received : ∀ name ∈ names,
      ((b.withLists p).received m).lists.load name = (b.received m).lists.load name := by
    intro name mem
    rw [load_received, load_received, ← loads name mem]
    rfl
  obtain ⟨q, e⟩ := exists_update_withLists (p := p) (m := m)
    fun name asked => received name (wanted' name (wanted_of_asked asked))
  refine ⟨by rw [e], ?_, ?_, wanted'⟩
  · rw [e]
    rfl
  · intro name mem
    -- Both have fetched the same, and for the rest the news is the same.
    rw [load_update, load_update, e, ← loads name mem]
    rfl

/-! ## Runs -/

theorem SameWithin.answers {names : Set String} {ms : List Message} (same : SameWithin names b c)
    (searched : ∀ query, .search query ∈ ms →
      ∀ name, (Query.parse query).list = some name → name ∈ names) :
    c.answers ms = b.answers ms := by
  induction ms generalizing b c with
  | nil => rfl
  | cons m ms ih =>
    obtain ⟨commands, same'⟩ := same.update (m := m)
      fun query e => searched query (e ▸ List.mem_cons_self)
    have view : (c.update m).1.view = (b.update m).1.view := by
      rw [same'.others]
      rfl
    have later := ih same' fun query mem => searched query (List.mem_cons_of_mem m mem)
    rw [Browser.answers, Browser.answers, commands, view, later]

/-- Two browsers that differ only in what they know of lists outside a set answer every message of a
run alike, if neither the query nor any search asks for a list outside the set. News may come of any
list. -/
theorem answers_eq_of_sameWithin {names : Set String} {b c : Browser}
    (others : c = { b with lists := c.lists })
    (loads : ∀ name ∈ names, c.lists.load name = b.lists.load name)
    (wanted : ∀ name, b.parsed.list = some name → name ∈ names) (ms : List Message)
    (searched : ∀ query, .search query ∈ ms →
      ∀ name, (Query.parse query).list = some name → name ∈ names) :
    c.view = b.view ∧ c.answers ms = b.answers ms := by
  have same : SameWithin names b c := ⟨others, loads, wanted⟩
  refine ⟨?_, same.answers searched⟩
  rw [others]
  exact view_withLists

/-- One of two browsers knows the members of another list, which shows only once somebody searches
for it. -/
theorem answers_eq_of_searched :
    let songs : List Song :=
      [{ title := "Wonderwall", artist := "Oasis", hash := "a", video := some "a.mp4" },
        { title := "Wannabe", artist := "Spice Girls", hash := "b" }]
    let b := (new { roll := fun _ _ => 0 }).run [.songsLoaded songs, .search "wan list:Fans"]
    let c := { b with lists := b.lists.resolve "Party" (.ofList ["b"]) }
    let ms := [.listLoaded "Fans" (.ofList ["a"]), .toggleVideo, .listChanged "Party", .shuffle,
      .search "wonder"]
    (∀ name ∈ ({"Fans"} : Set String), c.lists.load name = b.lists.load name) ∧
      (∀ name, b.parsed.list = some name → name ∈ ({"Fans"} : Set String)) ∧
      c.lists.load "Party" ≠ b.lists.load "Party" ∧
      c.view = b.view ∧ c.answers ms = b.answers ms ∧
      c.answers [.search "list:Party"] ≠ b.answers [.search "list:Party"] := by
  intro songs b c ms
  have loads : ∀ name ∈ ({"Fans"} : Set String), c.lists.load name = b.lists.load name := by
    rintro name rfl
    decide +kernel
  have wanted : ∀ name, b.parsed.list = some name → name ∈ ({"Fans"} : Set String) := by
    intro name wanted
    have asked : b.parsed.list = some "Fans" := by decide +kernel
    exact Option.some.inj (wanted.symm.trans asked)
  have searched : ∀ query, .search query ∈ ms →
      ∀ name, (Query.parse query).list = some name → name ∈ ({"Fans"} : Set String) := by
    intro query mem
    obtain rfl : query = "wonder" := by simpa [ms] using mem
    have unasked : (Query.parse "wonder").list = none := by decide +kernel
    rw [unasked]
    nofun
  obtain ⟨view, answers⟩ := answers_eq_of_sameWithin rfl loads wanted ms searched
  exact ⟨loads, wanted, by decide +kernel, view, answers, by decide +kernel⟩

end Karaoke.Browser
