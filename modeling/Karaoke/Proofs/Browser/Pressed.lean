import Karaoke.Proofs.Browser.Buttons
import Karaoke.Proofs.Browser.View
import Karaoke.Proofs.Ranking.Narrowing

/-!
# Songs that buttons show

A button writes another search text and has the ranking recomputed. Neither the catalog nor what is
known of any list changes. So after any number of buttons the songs on view are those that the last
search text finds in what was known before the first.
-/

set_option autoImplicit false

namespace Karaoke

def Message.IsButton : Message → Prop
  | .toggleVideo | .toggleDuets | .selectCategory _ | .shuffle => True
  | _ => False

namespace Browser

/-- Whether two browsers find the same songs for every query. -/
structure Knows (b c : Browser) : Prop where
  threshold : c.threshold = b.threshold
  catalog : c.catalog = b.catalog
  members : ∀ name, c.lists.members? name = b.lists.members? name

variable {b c d : Browser} {m : Message} {q : Query} {r : Ranking}

theorem Knows.refl (b : Browser) : Knows b b :=
  ⟨rfl, rfl, fun _ => rfl⟩

theorem Knows.trans (first : Knows b c) (second : Knows c d) : Knows b d where
  threshold := second.threshold.trans first.threshold
  catalog := second.catalog.trans first.catalog
  members name := (second.members name).trans (first.members name)

theorem Knows.covers (knows : Knows b c)
    (covers : Ranking.Covers c.lists c.threshold q c.catalog r) :
    Ranking.Covers b.lists b.threshold q b.catalog r := by
  rw [knows.threshold, knows.catalog] at covers
  apply covers.congr
  intro name _
  exact knows.members name

theorem Knows.ofQuery_eq (knows : Knows b c) :
    Ranking.ofQuery c.lists c.threshold q c.catalog =
      Ranking.ofQuery b.lists b.threshold q b.catalog := by
  rw [knows.threshold, knows.catalog]
  apply Ranking.ofQuery_congr
  intro name _
  exact knows.members name

/-! ## Buttons -/

theorem recomputes_of_isButton (b : Browser) (button : m.IsButton) : b.recomputes m = true := by
  cases m
  case toggleVideo | toggleDuets | selectCategory | shuffle => rfl
  all_goals exact button.elim

theorem received_of_isButton (b : Browser) (button : m.IsButton) :
    ∃ query screen, b.received m = { b with query, screen } := by
  cases m
  case toggleVideo | toggleDuets | selectCategory | shuffle => exact ⟨_, _, rfl⟩
  all_goals exact button.elim

theorem knows_update (b : Browser) (button : m.IsButton) : Knows b (b.update m).1 := by
  obtain ⟨query, screen, e⟩ := received_of_isButton b button
  obtain ⟨ranking, dice, placeholder, e'⟩ := update_state b m
  rw [e', e]
  constructor
  case members =>
    intro name
    exact members?_requestList b.lists (b.asked m) name
  all_goals rfl

theorem mode_update (b : Browser) (button : m.IsButton) :
    (b.update m).1.mode = modeOf (b.update m).1.query := by
  have consistent := consistent_update_of_recomputes (recomputes_of_isButton b button)
  exact consistent.mode

/-- After a button the songs on view are those that the search text finds in what was known
before. -/
theorem covers_update (b : Browser) (button : m.IsButton) :
    Ranking.Covers b.lists b.threshold (b.update m).1.parsed b.catalog (b.update m).1.ranking := by
  have consistent := consistent_update_of_recomputes (recomputes_of_isButton b button)
  exact (knows_update b button).covers consistent.covers

theorem knows_run {ms : List Message} (b : Browser) (buttons : ∀ m ∈ ms, m.IsButton) :
    Knows b (b.run ms) := by
  induction ms generalizing b with
  | nil => exact Knows.refl b
  | cons m ms ih =>
    obtain ⟨button, buttons⟩ := List.forall_mem_cons.mp buttons
    rw [run_cons]
    exact (knows_update b button).trans (ih (b.update m).1 buttons)

theorem mode_run {ms : List Message} (b : Browser) (pressed : ms ≠ [])
    (buttons : ∀ m ∈ ms, m.IsButton) : (b.run ms).mode = modeOf (b.run ms).query := by
  obtain ⟨before, last, rfl⟩ := (List.eq_nil_or_concat' ms).resolve_left pressed
  obtain ⟨-, button⟩ := List.forall_mem_append.mp buttons
  rw [run_concat]
  apply mode_update
  exact button last List.mem_cons_self

theorem covers_run {ms : List Message} (b : Browser) (pressed : ms ≠ [])
    (buttons : ∀ m ∈ ms, m.IsButton) :
    Ranking.Covers b.lists b.threshold (b.run ms).parsed b.catalog (b.run ms).ranking := by
  obtain ⟨before, last, rfl⟩ := (List.eq_nil_or_concat' ms).resolve_left pressed
  obtain ⟨buttons, button⟩ := List.forall_mem_append.mp buttons
  rw [run_concat]
  apply (knows_run b buttons).covers
  apply covers_update
  exact button last List.mem_cons_self

/-- What is on view after some buttons depends on nothing but the search text that they leave. -/
theorem sees_of_query_eq {ms ms' : List Message} (b : Browser) (pressed : ms ≠ [])
    (pressed' : ms' ≠ []) (buttons : ∀ m ∈ ms, m.IsButton) (buttons' : ∀ m ∈ ms', m.IsButton)
    (query : (b.run ms).query = (b.run ms').query) :
    (b.run ms).mode = (b.run ms').mode ∧
      (b.run ms).ranking.songs.Perm (b.run ms').ranking.songs ∧
      (b.run ms).ranking.hidden = (b.run ms').ranking.hidden := by
  constructor
  · rw [mode_run b pressed buttons, mode_run b pressed' buttons', query]
  · have parsed : (b.run ms).parsed = (b.run ms').parsed := congrArg Query.parse query
    have covers := covers_run b pressed buttons
    rw [parsed] at covers
    exact covers.unique (covers_run b pressed' buttons')

/-! ## Yes-or-no filters -/

theorem decide_toggled (filter : Option Bool) :
    decide (toggled filter = some true) = !decide (filter = some true) := by
  by_cases set : filter = some true <;> simp [toggled, set]

theorem parsed_toggleVideo (b : Browser) :
    (b.update .toggleVideo).1.parsed = { b.parsed with video := toggled b.parsed.video } := by
  rw [parsed_update]
  exact parsed_received_toggleVideo b

theorem parsed_toggleDuets (b : Browser) :
    (b.update .toggleDuets).1.parsed = { b.parsed with duet := toggled b.parsed.duet } := by
  rw [parsed_update]
  exact parsed_received_toggleDuets b

theorem videoOnly_view (b : Browser) : b.view.videoOnly = decide (b.parsed.video = some true) := rfl

theorem duetsOnly_view (b : Browser) : b.view.duetsOnly = decide (b.parsed.duet = some true) := rfl

theorem query_toggle_comm (b : Browser) :
    (b.run [.toggleVideo, .toggleDuets]).query = (b.run [.toggleDuets, .toggleVideo]).query := by
  rw [run_cons, run_cons, run_cons, run_cons, run_nil, run_nil, update_query, update_query]
  simp only [received, parsed_toggleVideo, parsed_toggleDuets]

/-- The button of one filter keeps the rest of the query, and it does not matter which of the two is
pressed first. -/
theorem toggle_keeps_filters (b : Browser) :
    let video := (b.update .toggleVideo).1
    let duets := (b.update .toggleDuets).1
    let both := b.run [.toggleVideo, .toggleDuets]
    let both' := b.run [.toggleDuets, .toggleVideo]
    (video.parsed =
        { b.parsed with video := if b.parsed.video = some true then none else some true } ∧
      video.view.videoOnly = !b.view.videoOnly ∧ video.view.duetsOnly = b.view.duetsOnly) ∧
    (duets.parsed =
        { b.parsed with duet := if b.parsed.duet = some true then none else some true } ∧
      duets.view.duetsOnly = !b.view.duetsOnly ∧ duets.view.videoOnly = b.view.videoOnly) ∧
    both.query = both'.query ∧ both.mode = both'.mode ∧
      both.ranking.songs.Perm both'.ranking.songs ∧
      both.ranking.hidden = both'.ranking.hidden := by
  have buttons : ∀ m ∈ [Message.toggleVideo, .toggleDuets], m.IsButton := by
    simp [Message.IsButton]
  have buttons' : ∀ m ∈ [Message.toggleDuets, .toggleVideo], m.IsButton := by
    simp [Message.IsButton]
  refine ⟨⟨parsed_toggleVideo b, ?_, ?_⟩, ⟨parsed_toggleDuets b, ?_, ?_⟩, query_toggle_comm b, ?_⟩
  · rw [videoOnly_view, videoOnly_view, parsed_toggleVideo]
    exact decide_toggled b.parsed.video
  · rw [duetsOnly_view, duetsOnly_view, parsed_toggleVideo]
  · rw [duetsOnly_view, duetsOnly_view, parsed_toggleDuets]
    exact decide_toggled b.parsed.duet
  · rw [videoOnly_view, videoOnly_view, parsed_toggleDuets]
  · exact sees_of_query_eq b (List.cons_ne_nil _ _) (List.cons_ne_nil _ _) buttons buttons'
      (query_toggle_comm b)

/-! ## Shuffles -/

theorem parsed_shuffle (b : Browser) : (b.update .shuffle).1.parsed = b.parsed.withoutFreeTerms := by
  rw [parsed_update]
  exact parsed_received_shuffle b

theorem mode_shuffle_eq_idle_iff (b : Browser) :
    (b.update .shuffle).1.mode = .idle ↔ b.parsed.withoutFreeTerms = {} := by
  rw [mode_update (m := .shuffle) b trivial]
  constructor
  · intro idle
    rw [← parsed_shuffle]
    exact parsed_of_idle idle
  · intro cleared
    rw [update_query, received, cleared]
    rfl

/-- A shuffle only changes the order. -/
theorem shuffle_keeps_songs :
    (∀ (lists : Playlists) (t : Threshold) (q : Query) (catalog : List Song),
      let cleared := { q with plain := none, title := none, artist := none }
      (Ranking.ofQuery lists t cleared catalog).songs.Perm
          (Ranking.ofQuery lists t q catalog).songs ∧
        (Ranking.ofQuery lists t cleared catalog).hidden =
          (Ranking.ofQuery lists t q catalog).hidden) ∧
    ∀ b : Browser,
      let c := (b.update .shuffle).1
      let found := Ranking.ofQuery b.lists b.threshold b.parsed b.catalog
      c.parsed = { b.parsed with plain := none, title := none, artist := none } ∧
        (c.mode = .idle ↔ c.parsed = {}) ∧
        c.ranking.songs.Perm found.songs ∧ c.ranking.hidden = found.hidden ∧
        found = Ranking.ofQuery c.lists c.threshold b.parsed c.catalog := by
  constructor
  · intro lists t q catalog cleared
    apply Ranking.covers_iff.mp
    apply Ranking.covers_withoutFreeTerms_iff.mp
    exact Ranking.covers_ofQuery lists t q.withoutFreeTerms catalog
  · intro b c found
    have parsed : c.parsed = b.parsed.withoutFreeTerms := parsed_shuffle b
    have knows : Knows b c := knows_update b trivial
    have covers : Ranking.Covers b.lists b.threshold b.parsed b.catalog c.ranking := by
      apply Ranking.covers_withoutFreeTerms_iff.mp
      rw [← parsed]
      exact covers_update b trivial
    obtain ⟨songs, hidden⟩ := Ranking.covers_iff.mp covers
    refine ⟨parsed, ?_, songs, hidden, knows.ofQuery_eq.symm⟩
    rw [parsed]
    exact mode_shuffle_eq_idle_iff b

/-! ## Genres -/

theorem parsed_selectCategory (b : Browser) (genre : String) :
    (b.update (.selectCategory genre)).1.parsed =
      { genre := some (String.ofList (Text.squeeze genre.toList)) } := by
  rw [parsed_update]
  exact parsed_received_selectCategory b genre

theorem mode_selectCategory (b : Browser) (genre : String) :
    (b.update (.selectCategory genre)).1.mode = .filtered := by
  rw [mode_update (m := .selectCategory genre) b trivial]
  cases idle : modeOf (b.update (.selectCategory genre)).1.query with
  | filtered => rfl
  | idle =>
    -- A blank search field would ask for no genre.
    have blank := parsed_of_idle idle
    rw [parsed_selectCategory] at blank
    cases blank

theorem screen_selectCategory (b : Browser) (genre : String) :
    (b.update (.selectCategory genre)).1.screen = .songs := by
  obtain ⟨ranking, dice, placeholder, e⟩ := update_state b (.selectCategory genre)
  rw [e]
  rfl

theorem songs_selectCategory (b : Browser) (genre : String) :
    (b.update (.selectCategory genre)).1.ranking.songs.Perm
      (b.catalog.filter (·.passes b.lists b.threshold
        { genre := some (String.ofList (Text.squeeze genre.toList)) })) := by
  have covers := covers_update (m := .selectCategory genre) b trivial
  rw [parsed_selectCategory] at covers
  rw [← Ranking.visible_eq_filter_passes]
  exact covers.songs

/-- A category is a search for its genre. It shows all the songs of that genre, and under the full
threshold those whose genre begins with it and no others. -/
theorem selectCategory_shows_genre (b : Browser) (genre : String) :
    let c := (b.update (.selectCategory genre)).1
    c.screen = .songs ∧ c.mode = .filtered ∧
      c.parsed = { genre := some (String.ofList (Text.squeeze genre.toList)) } ∧
      (c.ranking.songs.filter (·.genre = some genre)).Perm
        (b.catalog.filter (·.genre = some genre)) ∧
      (b.threshold = .full → c.ranking.songs.Perm (b.catalog.filter fun s =>
        ∃ actual ∈ s.genre,
          Text.folded (Text.squeeze genre.toList) <+:
            Text.folded (Text.squeeze actual.toList))) := by
  intro c
  have songs := songs_selectCategory b genre
  refine ⟨screen_selectCategory b genre, mode_selectCategory b genre,
    parsed_selectCategory b genre, ?_, ?_⟩
  · apply (songs.filter _).trans
    rw [List.filter_filter]
    apply List.Perm.of_eq
    apply List.filter_congr
    intro s _
    by_cases same : s.genre = some genre
    · have passes : s.passes b.lists b.threshold
          { genre := some (String.ofList (Text.squeeze genre.toList)) } = true := by
        apply Song.passes_genre_iff.mpr
        exact ⟨genre, same, b.threshold.suffices_self genre⟩
      simp [same, passes]
    · simp [same]
  · intro full
    apply songs.trans
    apply List.Perm.of_eq
    apply List.filter_congr
    intro s _
    rw [Bool.eq_iff_iff, Song.passes_genre_iff, full, decide_eq_true_iff]
    rfl

/-- A genre with a space that does not part words and a colon. -/
theorem selectCategory_shows_live :
    let live : Song :=
      { title := "Sabotage", artist := "Beastie Boys", genre := some "Hip\u00a0Hop: Live",
        hash := "a" }
    let more : Song :=
      { title := "Jump Around", artist := "House of Pain", genre := some "hip hop: livestream",
        hash := "b" }
    let plain : Song :=
      { title := "Wannabe", artist := "Spice Girls", genre := some "Pop", hash := "c" }
    let catalog := [live, more, plain]
    let b := (new { roll := fun _ _ => 0 } none (some .full)).run [.songsLoaded catalog]
    let c := (b.update (.selectCategory "Hip\u00a0Hop: Live")).1
    b.threshold = .full ∧ c.query = "genre:HipHop:Live" ∧ c.mode = .filtered ∧
      c.ranking.songs.Perm [live, more] ∧
      (c.ranking.songs.filter (·.genre = some "Hip\u00a0Hop: Live")).Perm [live] := by
  intro live more plain catalog b c
  obtain ⟨-, filtered, -, genre, begins⟩ := selectCategory_shows_genre b "Hip\u00a0Hop: Live"
  have full : b.threshold = .full := by decide +kernel
  have live_or_more : (b.catalog.filter fun s => ∃ actual ∈ s.genre,
      Text.folded (Text.squeeze "Hip\u00a0Hop: Live".toList) <+:
        Text.folded (Text.squeeze actual.toList)) = [live, more] := by
    decide +kernel
  have only_live : b.catalog.filter (·.genre = some "Hip\u00a0Hop: Live") = [live] := by
    decide +kernel
  exact ⟨full, by decide +kernel, filtered, live_or_more ▸ begins full, only_live ▸ genre⟩

end Browser

end Karaoke
