import Karaoke.Proofs.Browser.Lists
import Karaoke.Proofs.Ranking.Visible

/-!
# What is on view

The ranking on view is the one that the search field asks for, after every message, as long as no
list changes on the server. Only some messages have it recomputed. Every other one leaves the
catalog and the query alone, and the members of the list that the query asks for.
-/

set_option autoImplicit false

namespace Karaoke.Browser

/-- The message that the ranking was last recomputed for during a run. -/
def lastRecompute (b : Browser) : List Message → Option Message
  | [] => none
  | m :: ms => (lastRecompute (b.update m).1 ms).or (if b.recomputes m then some m else none)

/-- Whether a message may come if no list ever changes, and no fetch fails of a list that is
loaded. -/
def Admits (b : Browser) : Message → Prop
  | .listChanged _ => False
  | .listFailed name _ => ∀ members, b.lists.load name ≠ .loaded members
  | _ => True

/-- Whether every message of a run may come when it does. -/
def Admissible (b : Browser) : List Message → Prop
  | [] => True
  | m :: ms => b.Admits m ∧ Admissible (b.update m).1 ms

/-- Whether the ranking is what the search field asks for, the order included unless the ranking
was last recomputed for a shuffle. -/
structure Consistent (b : Browser) (last : Option Message) : Prop where
  mode : b.mode = modeOf b.query
  covers : Ranking.Covers b.lists b.threshold b.parsed b.catalog b.ranking
  ordered : b.mode = .filtered → last ≠ some .shuffle →
    b.ranking = .ofQuery b.lists b.threshold b.parsed b.catalog

/-! ## Recomputing the ranking -/

theorem consistent_refresh (b : Browser) (last : Option Message) :
    Consistent b.refresh.1 last := by
  rcases refresh_cases b with ⟨idle, songs, dice, placeholder, drawn, e⟩ | ⟨filtered, e⟩
  · rw [e]
    refine ⟨idle.symm, ?_, nofun⟩
    have covers : Ranking.Covers b.lists b.threshold {} b.catalog { songs } :=
      Ranking.covers_of_perm drawn
    rwa [← parsed_of_idle idle] at covers
  · rw [e]
    exact ⟨filtered.symm, Ranking.covers_ofQuery _ _ _ _, fun _ _ => rfl⟩

theorem consistent_shuffle (b : Browser) : Consistent b.shuffle.1 (some .shuffle) := by
  have found := consistent_refresh (b.received .shuffle) none
  obtain ⟨songs, dice, placeholder, drawn, e⟩ := shuffle_eq b
  rw [e]
  generalize (b.received .shuffle).refresh.1 = r at found drawn
  exact ⟨found.mode, found.covers.perm drawn, fun _ h => absurd rfl h⟩

theorem consistent_update_of_recomputes {b : Browser} {m : Message} (h : b.recomputes m = true) :
    Consistent (b.update m).1 (some m) := by
  by_cases hm : m = .shuffle
  · subst hm
    exact consistent_shuffle b
  · rw [update_eq_refresh h hm]
    exact consistent_refresh _ _

/-! ## Leaving the ranking as it is -/

theorem members?_requestList (lists : Playlists) (wanted : Option String) (name : String) :
    (requestList lists wanted).1.members? name = lists.members? name :=
  Playlists.members?_congr fun _ => loaded_requestList_iff

/-- News that nothing is recomputed for is not about the members of the wanted list. -/
theorem members?_received {b : Browser} {m : Message} (h : b.recomputes m = false)
    (admits : b.Admits m) {name : String} (wanted : b.parsed.list = some name) :
    (b.received m).lists.members? name = b.lists.members? name := by
  refine Playlists.members?_congr fun members => ?_
  rw [load_received]
  cases m
  case listLoaded other members' =>
    have unwanted : name ≠ other := by
      rintro rfl
      simp [recomputes, wanted] at h
    simp [Message.load?, unwanted]
  case listFailed other error =>
    have missing : ∀ members, b.lists.load other ≠ .loaded members := admits
    simp only [Message.load?]
    split
    · next e => simp [e, missing]
    · rfl
  case listChanged => exact admits.elim
  all_goals rfl

theorem Consistent.update_of_not_recomputes {b : Browser} {m : Message} {last : Option Message}
    (consistent : Consistent b last) (h : b.recomputes m = false) (admits : b.Admits m) :
    Consistent (b.update m).1 last := by
  have same : ∀ name, b.parsed.list = some name →
      b.lists.members? name = (b.update m).1.lists.members? name := by
    intro name wanted
    rw [update_lists, members?_requestList, members?_received h admits wanted]
  obtain ⟨placeholder, e⟩ := Browser.update_of_not_recomputes h
  obtain ⟨lists, screen, e'⟩ := received_of_not_recomputes h
  rw [e, e'] at same ⊢
  constructor
  case mode => exact consistent.mode
  case covers => exact consistent.covers.congr same
  case ordered =>
    intro filtered unshuffled
    exact (consistent.ordered filtered unshuffled).trans (Ranking.ofQuery_congr same)

/-! ## Runs -/

theorem consistent_new (dice : Dice) (window : Option Int) (threshold : Option Threshold) :
    Consistent (new dice window threshold) none :=
  ⟨rfl, ⟨.refl _, rfl⟩, nofun⟩

theorem Consistent.update {b : Browser} {m : Message} {last : Option Message}
    (consistent : Consistent b last) (admits : b.Admits m) :
    Consistent (b.update m).1 ((if b.recomputes m then some m else none).or last) := by
  cases h : b.recomputes m with
  | true => exact consistent_update_of_recomputes h
  | false => exact consistent.update_of_not_recomputes h admits

theorem Consistent.run {b : Browser} {ms : List Message} {last : Option Message}
    (consistent : Consistent b last) (admissible : b.Admissible ms) :
    Consistent (b.run ms) ((b.lastRecompute ms).or last) := by
  induction ms generalizing b last with
  | nil => exact consistent
  | cons m ms ih =>
    -- What was last recomputed before the rest of the run is carried into it as `last`.
    rw [run_cons, lastRecompute, Option.or_assoc]
    exact ih (consistent.update admissible.1) admissible.2

/-- The view is what the search field asks for. It is filtered exactly if the field has anything
but blanks, that is, if it has a word. -/
theorem view_consistent (dice : Dice) (window : Option Int) (threshold : Option Threshold)
    (ms : List Message) (admissible : (new dice window threshold).Admissible ms) :
    let b := (new dice window threshold).run ms
    (b.mode = .filtered ↔ ∃ c ∈ b.query.toList, Text.isBlank c = false) ∧
    (b.mode = .filtered ↔ Text.words b.query.toList ≠ []) ∧
    b.ranking.songs.Perm
      (b.catalog.filter (fun s => (s.score? b.lists b.threshold b.parsed).isSome)) ∧
    b.ranking.hidden =
      b.catalog.countP (fun s => (s.score? b.lists b.threshold b.parsed).isNone) ∧
    (b.mode = .filtered → (new dice window threshold).lastRecompute ms ≠ some .shuffle →
      b.ranking = .ofQuery b.lists b.threshold b.parsed b.catalog) := by
  intro b
  have consistent := (consistent_new dice window threshold).run admissible
  rw [Option.or_none] at consistent
  have words : b.mode = .filtered ↔ Text.words b.query.toList ≠ [] := by
    rw [consistent.mode]
    exact modeOf_eq_filtered_iff
  refine ⟨?_, words, consistent.covers.songs, consistent.covers.hidden, consistent.ordered⟩
  rw [words, Ne, Text.words_eq_nil_iff]
  simp

/-- The members of the wanted list come last, after a fetch of it has failed. -/
theorem view_consistent_wanted :
    let b := new { roll := fun _ _ => 0 }
    let song : Song := { title := "Wonderwall", artist := "Oasis", hash := "a" }
    let ms := [.listFailed "Fans" "timeout", .songsLoaded [song], .search "list:Fans",
      .listLoaded "Fans" (.ofList ["a"])]
    b.Admissible ms ∧ (b.run ms).mode = .filtered ∧ (b.run ms).ranking.songs = [song] ∧
      (b.run ms).ranking =
        .ofQuery (b.run ms).lists (b.run ms).threshold (b.run ms).parsed (b.run ms).catalog := by
  intro b song ms
  have admissible : b.Admissible ms := ⟨nofun, trivial, trivial, trivial, trivial⟩
  have filtered : (b.run ms).mode = .filtered := by decide +kernel
  obtain ⟨-, -, -, -, ordered⟩ := view_consistent _ none none ms admissible
  exact ⟨admissible, filtered, by decide +kernel, ordered filtered (by decide +kernel)⟩

end Karaoke.Browser
