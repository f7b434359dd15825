import Karaoke.Proofs.Browser.View
import Karaoke.Proofs.Ranking.Filters
import Karaoke.Proofs.Traffic.Wanted

/-!
# Settled views

The ranking on view is that of lists as they were when it was last recomputed. It is recomputed
when members of the wanted list arrive. It is not when they are dropped, for then they are fetched
again; but if that fetch fails, nothing has the dropped members leave the view.
-/

set_option autoImplicit false

namespace Karaoke

namespace Ranking

variable {lists : Playlists} {t : Threshold} {q : Query} {catalog : List Song} {r : Ranking}

/-- A query for a list that is not loaded hides every song. -/
theorem visible_of_not_loaded {name : String} (wanted : q.list = some name)
    (missing : ∀ members, lists.load name ≠ .loaded members) : visible lists t q catalog = [] := by
  apply List.filter_eq_nil_iff.mpr
  intro s _ passes
  rw [Song.isSome_score?_eq_passes, Song.passes_iff] at passes
  obtain ⟨members, loaded, -⟩ := passes.list name wanted
  exact missing members loaded

theorem covers_iff_of_not_loaded {name : String} (wanted : q.list = some name)
    (missing : ∀ members, lists.load name ≠ .loaded members)
    (complete : r.hidden + r.songs.length = catalog.length) :
    Covers lists t q catalog r ↔ r.songs = [] := by
  have none : visible lists t q catalog = [] := visible_of_not_loaded wanted missing
  constructor
  · intro covers
    have songs := covers.songs
    rw [none] at songs
    exact songs.eq_nil
  · intro empty
    have all := countP_isNone_add_length_visible lists t q catalog
    rw [none] at all
    rw [empty] at complete
    constructor
    case songs => rw [empty, none]
    case hidden => exact complete.trans all.symm

end Ranking

namespace Browser

/-- Whether the ranking has the songs that would be found now, and hides as many as would be hidden
now. -/
def Matches (b : Browser) : Prop :=
  b.ranking.songs.Perm (Ranking.ofQuery b.lists b.threshold b.parsed b.catalog).songs ∧
    b.ranking.hidden = (Ranking.ofQuery b.lists b.threshold b.parsed b.catalog).hidden

/-- Whether the ranking is that of earlier lists, from which the wanted one differs by now only if
it has been dropped. -/
def Lags (b : Browser) : Prop :=
  ∃ lists, Ranking.Covers lists b.threshold b.parsed b.catalog b.ranking ∧
    ∀ name members, b.parsed.list = some name → b.lists.load name = .loaded members →
      lists.load name = .loaded members

theorem lags_new (dice : Dice) (window : Option Int) (threshold : Option Threshold) :
    (new dice window threshold).Lags :=
  ⟨{}, (consistent_new dice window threshold).covers, nofun⟩

theorem Lags.update {b : Browser} (lags : b.Lags) (m : Message) : (b.update m).1.Lags := by
  cases h : b.recomputes m with
  | true => exact ⟨_, (consistent_update_of_recomputes h).covers, fun _ _ _ loaded => loaded⟩
  | false =>
    obtain ⟨lists, covers, known⟩ := lags
    have same : (b.update m).1.parsed = b.parsed := by
      rw [parsed_update, parsed_received_of_not_recomputes h]
    refine ⟨lists, ?_, ?_⟩
    · obtain ⟨placeholder, e⟩ := update_of_not_recomputes h
      obtain ⟨lists', screen, e'⟩ := received_of_not_recomputes h
      rw [e, e']
      exact covers
    · intro name members wanted loaded
      rw [same] at wanted
      -- Members of the wanted list do not arrive without the ranking being recomputed.
      rcases loaded_update loaded with rfl | before
      · simp [recomputes, wanted] at h
      · exact known name members wanted before

theorem Lags.matches_of_unwanted {b : Browser} (lags : b.Lags) (unwanted : b.parsed.list = none) :
    b.Matches := by
  obtain ⟨lists, covers, -⟩ := lags
  apply Ranking.covers_iff.mp
  apply covers.congr
  intro name wanted
  rw [unwanted] at wanted
  cases wanted

/-- The ranking is right if the wanted list is loaded, and otherwise only if it has no song. -/
theorem Lags.matches_iff {b : Browser} {name : String} (lags : b.Lags)
    (wanted : b.parsed.list = some name) :
    b.Matches ↔ b.ranking.songs = [] ∨ ∃ members, b.lists.load name = .loaded members := by
  obtain ⟨lists, covers, known⟩ := lags
  by_cases loaded : ∃ members, b.lists.load name = .loaded members
  · refine iff_of_true ?_ (.inr loaded)
    obtain ⟨members, loaded⟩ := loaded
    have same : ∀ other, b.parsed.list = some other →
        lists.members? other = b.lists.members? other := by
      intro other wanted'
      cases Option.some.inj (wanted.symm.trans wanted')
      rw [Playlists.members?_eq_some_iff.mpr loaded,
        Playlists.members?_eq_some_iff.mpr (known name members wanted loaded)]
    exact Ranking.covers_iff.mp (covers.congr same)
  · have missing : ∀ members, b.lists.load name ≠ .loaded members := not_exists.mp loaded
    rw [Matches, ← Ranking.covers_iff,
      Ranking.covers_iff_of_not_loaded wanted missing covers.hidden_add_length]
    simp [loaded]

/-! ## Failed fetches -/

theorem concerns_of_asked {b : Browser} {m : Message} {name : String}
    (asked : b.asked m = some name) : b.concerns name m = true := by
  rw [concerns_iff]
  cases kept : b.recomputes m with
  | true => exact .inl rfl
  | false =>
    cases m
    case listChanged other =>
      have changed : other = name := by simp_all [Browser.asked]
      exact .inr (.inl (congrArg Message.listChanged changed))
    all_goals simp [Browser.asked, kept] at asked

theorem load_update_of_not_concerns {b : Browser} {m : Message} {name : String}
    (wanted : b.parsed.list = some name) (other : ¬ b.concerns name m = true) :
    (b.update m).1.lists.load name = b.lists.load name := by
  have unfetched : name ∉ fetched (b.update m).2 := by
    rw [mem_fetched_update_iff]
    exact fun h => other (concerns_of_asked h.1)
  have silent : m.load? name = none := by
    cases m <;> simp [concerns, recomputes, Message.load?, wanted, eq_comm] at other ⊢ <;>
      assumption
  rw [load_update, if_neg unfetched, silent, Option.getD_none]

/-- Whether the list is not loaded, if the query asks for it and the last message that concerned it
told that a fetch of it has failed. -/
def Drops (b : Browser) (name : String) (last : Option Message) : Prop :=
  b.parsed.list = some name → (∃ error, last = some (.listFailed name error)) →
    b.lists.load name = .notLoaded

theorem Drops.update {b : Browser} {name : String} {last : Option Message}
    (drops : b.Drops name last) (m : Message) :
    (b.update m).1.Drops name (if b.concerns name m then some m else last) := by
  rintro wanted ⟨error, failed⟩
  by_cases concerned : b.concerns name m = true
  · rw [if_pos concerned] at failed
    obtain rfl := Option.some.inj failed
    exact load_update_listFailed b name error
  · rw [if_neg concerned] at failed
    have kept : b.recomputes m = false := by
      apply Bool.eq_false_iff.mpr
      exact fun h => concerned (concerns_iff.mpr (.inl h))
    rw [parsed_update, parsed_received_of_not_recomputes kept] at wanted
    rw [load_update_of_not_concerns wanted concerned]
    exact drops wanted ⟨error, failed⟩

end Browser

namespace Traffic

variable {w w' : Traffic} {es : List Event} {name : String}

theorem Run.drops (run : Run w es w') (start : w.browser.Drops name none) :
    w'.browser.Drops name (w.lastConcern name es) := by
  apply run.preserves_lastConcern (P := fun b last => b.Drops name last) start
  intro b last m drops
  exact drops.update m

/-- With no fetch of the wanted list in flight, the list is loaded exactly if the last message that
concerned it did not tell that a fetch of it has failed. -/
theorem Run.loaded_iff {dice : Dice} {window : Option Int} {threshold : Option Threshold}
    (run : Run { browser := .new dice window threshold } es w)
    (wanted : w.browser.parsed.list = some name) (settled : w.inFlight name = 0) :
    (∃ members, w.browser.lists.load name = .loaded members) ↔
      ∀ error, lastConcern { browser := .new dice window threshold } name es ≠
        some (.listFailed name error) := by
  have attended : Attended w name := run.preserves nofun Attended.after
  have remembers : w.browser.Remembers name _ := run.remembers nofun
  have drops : w.browser.Drops name _ := run.drops nofun
  constructor
  · rintro ⟨members, loaded⟩ error failed
    rw [drops wanted ⟨error, failed⟩] at loaded
    cases loaded
  · intro unfailed
    cases load : w.browser.lists.load name with
    | loaded members => exact ⟨members, rfl⟩
    | inProgress => exact absurd settled (Nat.ne_of_gt (attended load))
    | notLoaded =>
      obtain ⟨error, failed⟩ := remembers wanted load
      exact absurd failed (unfailed error)

/-- While no fetch of the wanted list is in flight, the view is right exactly if it has no song or
no fetch of the list has failed since the ranking was last recomputed and the list last changed. -/
theorem settled_matches_iff {dice : Dice} {window : Option Int} {threshold : Option Threshold}
    (run : Run { browser := .new dice window threshold } es w) :
    (w.browser.parsed.list = none → w.browser.Matches) ∧
    ∀ name, w.browser.parsed.list = some name → w.inFlight name = 0 →
      (w.browser.Matches ↔ w.browser.ranking.songs = [] ∨
        ∀ error, lastConcern { browser := .new dice window threshold } name es ≠
          some (.listFailed name error)) := by
  have lags : w.browser.Lags := by
    apply run.preserves (P := fun w => w.browser.Lags) (Browser.lags_new _ _ _)
    intro w e lags _
    rw [browser_after]
    exact lags.update e.news
  constructor
  · exact lags.matches_of_unwanted
  · intro name wanted settled
    rw [lags.matches_iff wanted, run.loaded_iff wanted settled]

/-- A list on view has another song after a change. The one that it had stays on view until the
list has been fetched again. -/
theorem settled_matches_refetched :
    let new : Traffic := { browser := .new { roll := fun _ _ => 0 } }
    let old : Song := { title := "Wonderwall", artist := "Oasis", hash := "a" }
    let song : Song := { title := "Yellow", artist := "Coldplay", hash := "b" }
    let es : List Event := [.message (.listChanged "Fans"), .loaded ⟨"Fans", 1⟩ (.ofList ["a"]),
      .message (.search "list:Fans"), .message (.songsLoaded [old, song])]
    let refetched : Event := .loaded ⟨"Fans", 3⟩ (.ofList ["b"])
    let w := new.afterAll (refetched :: es)
    (new.afterAll es).browser.ranking.songs = [old] ∧ Run new (refetched :: es) w ∧
      w.browser.parsed.list = some "Fans" ∧ w.inFlight "Fans" = 0 ∧
      w.browser.ranking.songs = [song] ∧ w.browser.Matches := by
  intro new old song es refetched w
  have first : ⟨"Fans", 1⟩ ∈ (new.afterAll (es.drop 2)).flying := by decide +kernel
  have second : ⟨"Fans", 3⟩ ∈ (new.afterAll es).flying := by decide +kernel
  have run : Run new (refetched :: es) w :=
    .cons (.cons (.cons (.cons (.cons .nil rfl) rfl) first) rfl) second
  have wanted : w.browser.parsed.list = some "Fans" := by decide +kernel
  have settled : w.inFlight "Fans" = 0 := by decide +kernel
  have last : new.lastConcern "Fans" (refetched :: es) =
      some (.listLoaded "Fans" (.ofList ["b"])) := by decide +kernel
  refine ⟨by decide +kernel, run, wanted, settled, by decide +kernel, ?_⟩
  apply ((settled_matches_iff run).2 "Fans" wanted settled).mpr
  right
  intro error
  rw [last]
  nofun

/-- A list on view changes and cannot be fetched again: its song stays on view, though the list is
not loaded and nothing is in flight. -/
theorem unmatched_of_failed_refetch :
    let new : Traffic := { browser := .new { roll := fun _ _ => 0 } }
    let song : Song := { title := "Wonderwall", artist := "Oasis", hash := "a" }
    let es : List Event := [.message (.listChanged "Fans"), .loaded ⟨"Fans", 1⟩ (.ofList ["a"]),
      .message (.search "list:Fans"), .message (.songsLoaded [song])]
    let w := new.afterAll (.failed ⟨"Fans", 3⟩ "timeout" :: es)
    Reachable w ∧ w.browser.parsed.list = some "Fans" ∧ w.flying = [] ∧
      w.browser.ranking.songs = [song] ∧ ¬ w.browser.Matches := by
  intro new song es w
  have first : ⟨"Fans", 1⟩ ∈ (new.afterAll (es.drop 2)).flying := by decide +kernel
  have second : ⟨"Fans", 3⟩ ∈ (new.afterAll es).flying := by decide +kernel
  have reachable : Reachable w :=
    ⟨_, none, none, _, .cons (.cons (.cons (.cons (.cons .nil rfl) rfl) first) rfl) second⟩
  have shown : w.browser.ranking.songs = [song] := by decide +kernel
  have found : (Ranking.ofQuery w.browser.lists w.browser.threshold w.browser.parsed
      w.browser.catalog).songs = [] := by decide +kernel
  refine ⟨reachable, by decide +kernel, by decide +kernel, shown, ?_⟩
  intro right
  have same : w.browser.ranking.songs.Perm [] := found ▸ right.1
  rw [shown] at same
  exact List.cons_ne_nil _ _ same.eq_nil

end Traffic

end Karaoke
