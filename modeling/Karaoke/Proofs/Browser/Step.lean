import Karaoke.Browser.Update
import Karaoke.Proofs.Dice
import Karaoke.Proofs.Text.Words

/-!
# What a message does

A message first brings something: a catalog, a query, news of a list. Some messages then have the
ranking recomputed from what is known by now. The others leave it as it is.
-/

set_option autoImplicit false

namespace Karaoke

/-- Whether a command has the browser told something later on. -/
def Command.isTimer : Command → Bool
  | .scheduleTick _ _ | .scheduleScroll _ => true
  | _ => false

namespace Browser

/-- Whether a message has the ranking recomputed. -/
def recomputes (b : Browser) : Message → Bool
  | .songsLoaded _ | .search _ | .toggleVideo | .toggleDuets | .selectCategory _ | .shuffle => true
  | .listLoaded name _ => b.parsed.list = some name
  | _ => false

/-- The browser with what a message brings, before anything is recomputed or asked for. -/
def received (b : Browser) : Message → Browser
  | .songsLoaded songs => { b with catalog := songs }
  | .indexLoaded names => { b with lists := b.lists.register names }
  | .listLoaded name members => { b with lists := b.lists.resolve name members }
  | .listFailed name _ => { b with lists := b.lists.fail name }
  | .listChanged name => { b with lists := b.lists.invalidate name }
  | .search query => { b with query }
  | .toggleVideo =>
    { b with query := Query.format { b.parsed with video := toggled b.parsed.video } }
  | .toggleDuets => { b with query := Query.format { b.parsed with duet := toggled b.parsed.duet } }
  | .toggleCategories =>
    { b with screen := match b.screen with | .categories => .songs | .songs => .categories }
  | .selectCategory genre =>
    { b with
      screen := .songs
      query := String.ofList (Query.Key.genre.token (Text.squeeze genre.toList)) }
  | .shuffle => { b with query := b.parsed.withoutFreeTerms.format }
  | _ => b

/-- The list that a message has the browser ask for. -/
def asked (b : Browser) (m : Message) : Option String :=
  if b.recomputes m then (b.received m).parsed.list
  else match m with
    | .listChanged name => if b.parsed.list = some name then some name else none
    | _ => none

theorem asked_of_recomputes {b : Browser} {m : Message} (h : b.recomputes m = true) :
    b.asked m = (b.received m).parsed.list := by
  unfold asked
  exact if_pos h

/-- What a message has a browser look at again later on. -/
def rechecks (b : Browser) : Message → List Command
  | .scroll remaining => (b.scroll remaining).2
  | _ => []

/-- The commands that are no ticks. -/
def withoutTicks (commands : List Command) : List Command :=
  commands.filter fun
    | .scheduleTick _ _ => false
    | _ => true

@[simp] theorem withoutTicks_append (cs ds : List Command) :
    withoutTicks (cs ++ ds) = withoutTicks cs ++ withoutTicks ds :=
  List.filter_append cs ds

theorem recomputes_congr {b c : Browser} (h : b.parsed = c.parsed) (m : Message) :
    b.recomputes m = c.recomputes m := by
  cases m <;> simp [recomputes, h]

theorem exists_fetchList_of_mem_requestList {lists : Playlists} {wanted : Option String}
    {c : Command} (h : c ∈ (requestList lists wanted).2) : ∃ name, c = .fetchList name := by
  cases wanted with
  | none => cases h
  | some name =>
    simp only [requestList] at h
    split at h
    · exact ⟨name, List.mem_singleton.mp h⟩
    · cases h

theorem withoutTicks_requestList (lists : Playlists) (wanted : Option String) :
    withoutTicks (requestList lists wanted).2 = (requestList lists wanted).2 := by
  apply List.filter_eq_self.mpr
  intro c mem
  obtain ⟨name, rfl⟩ := exists_fetchList_of_mem_requestList mem
  rfl

/-! ## Recomputing the ranking -/

theorem modeOf_eq_filtered_iff {query : String} :
    modeOf query = .filtered ↔ Text.words query.toList ≠ [] := by
  rw [← Text.hasWord_iff, modeOf]
  split <;> simp_all

theorem modeOf_eq_idle_iff {query : String} :
    modeOf query = .idle ↔ Text.words query.toList = [] := by
  have filtered : modeOf query = .filtered ↔ Text.words query.toList ≠ [] :=
    modeOf_eq_filtered_iff
  cases h : modeOf query <;> simp_all

/-- A blank search field asks for nothing. -/
theorem parsed_of_idle {b : Browser} (h : modeOf b.query = .idle) : b.parsed = {} := by
  rw [parsed, Query.parse, modeOf_eq_idle_iff.mp h]
  rfl

theorem suggest_eq (b : Browser) :
    ∃ dice placeholder, (suggest b).1 = { b with dice, placeholder } := by
  unfold suggest
  split
  · exact ⟨b.dice, b.placeholder, rfl⟩
  · exact ⟨_, _, rfl⟩

theorem withoutTicks_suggest (b : Browser) : withoutTicks (suggest b).2 = [] := by
  unfold suggest
  split <;> rfl

/-- The browser with its whole catalog in a drawn order. -/
def drawn (b : Browser) : Browser :=
  { b with
    mode := .idle
    shown := b.window
    ranking := (Ranking.shuffled b.catalog b.dice).1
    dice := (Ranking.shuffled b.catalog b.dice).2 }

/-- The browser with what the query finds among the lists that it has asked for. -/
def found (b : Browser) : Browser :=
  { b with
    mode := .filtered
    shown := b.window
    lists := (requestList b.lists b.parsed.list).1
    ranking := .ofQuery (requestList b.lists b.parsed.list).1 b.threshold b.parsed b.catalog }

@[simp] theorem placeholder_found (b : Browser) : b.found.placeholder = b.placeholder := rfl

theorem refresh_of_idle {b : Browser} (h : modeOf b.query = .idle) :
    b.refresh = ((suggest b.drawn).1, .scrollToTop :: (suggest b.drawn).2) := by
  simp only [refresh, h]
  rfl

theorem refresh_of_filtered {b : Browser} (h : modeOf b.query = .filtered) :
    b.refresh = (b.found, .scrollToTop :: (requestList b.lists b.parsed.list).2) := by
  simp only [refresh, h]
  rfl

/-- The ranking after it was recomputed: everything in a drawn order if the search field is blank,
and otherwise what the query finds among the lists that it has asked for. -/
theorem refresh_cases (b : Browser) :
    (modeOf b.query = .idle ∧ ∃ songs dice placeholder, songs.Perm b.catalog ∧
      b.refresh.1 =
        { b with mode := .idle, shown := b.window, ranking := { songs }, dice, placeholder }) ∨
    (modeOf b.query = .filtered ∧ b.refresh.1 =
      { b with
        mode := .filtered
        shown := b.window
        lists := (requestList b.lists b.parsed.list).1
        ranking := .ofQuery (requestList b.lists b.parsed.list).1 b.threshold b.parsed
          b.catalog }) := by
  cases h : modeOf b.query with
  | idle =>
    refine .inl ⟨rfl, ?_⟩
    obtain ⟨dice, placeholder, e⟩ := suggest_eq b.drawn
    rw [refresh_of_idle h]
    exact ⟨_, dice, placeholder, Dice.shuffle_perm b.catalog b.dice, e⟩
  | filtered =>
    rw [refresh_of_filtered h]
    exact .inr ⟨rfl, rfl⟩

/-- A ranking is recomputed with the lists that its query asks for. -/
theorem refresh_state (b : Browser) :
    ∃ ranking dice placeholder, b.refresh.1 =
      { b with
        lists := (requestList b.lists b.parsed.list).1
        mode := modeOf b.query
        shown := b.window
        ranking, dice, placeholder } := by
  rcases refresh_cases b with ⟨h, songs, dice, placeholder, -, e⟩ | ⟨h, e⟩
  · rw [e, h, parsed_of_idle h]
    exact ⟨{ songs }, dice, placeholder, rfl⟩
  · rw [e, h]
    exact ⟨_, b.dice, b.placeholder, rfl⟩

theorem refresh_mode (b : Browser) : b.refresh.1.mode = modeOf b.query := by
  obtain ⟨ranking, dice, placeholder, e⟩ := refresh_state b
  rw [e]

/-- A recomputed ranking is shown from its top, and the list that it asks for is fetched. -/
theorem withoutTicks_refresh (b : Browser) :
    withoutTicks b.refresh.2 = .scrollToTop :: (requestList b.lists b.parsed.list).2 := by
  cases h : modeOf b.query with
  | idle =>
    rw [refresh_of_idle h, parsed_of_idle h]
    exact congrArg (.scrollToTop :: ·) (withoutTicks_suggest b.drawn)
  | filtered =>
    rw [refresh_of_filtered h]
    exact congrArg (.scrollToTop :: ·) (withoutTicks_requestList b.lists b.parsed.list)

/-! ## Shuffling -/

/-- The browser with the songs of its ranking in a drawn order. -/
def reordered (b : Browser) : Browser :=
  { b with
    dice := (b.dice.shuffle b.ranking.songs).2
    ranking := { b.ranking with songs := (b.dice.shuffle b.ranking.songs).1 } }

@[simp] theorem placeholder_reordered (b : Browser) :
    b.reordered.placeholder = b.placeholder := rfl

/-- A shuffle recomputes the ranking. What is filtered is then put in a drawn order. -/
theorem shuffle_eq_match (b : Browser) :
    b.shuffle = match (b.received .shuffle).refresh.1.mode with
      | .idle => (b.received .shuffle).refresh
      | .filtered =>
        ((b.received .shuffle).refresh.1.reordered.suggest.1,
          (b.received .shuffle).refresh.2 ++
            (b.received .shuffle).refresh.1.reordered.suggest.2) := by
  have recomputed : b.search b.parsed.withoutFreeTerms.format = (b.received .shuffle).refresh := rfl
  unfold shuffle
  simp only [recomputed]
  generalize (b.received .shuffle).refresh = r
  obtain ⟨⟨_, _, _, _, _, _, mode, _, _, _, _⟩, _⟩ := r
  cases mode <;> rfl

theorem shuffle_of_idle {b : Browser} (h : modeOf (b.received .shuffle).query = .idle) :
    b.shuffle = (b.received .shuffle).refresh := by
  rw [shuffle_eq_match, refresh_mode, h]

theorem shuffle_of_filtered {b : Browser} (h : modeOf (b.received .shuffle).query = .filtered) :
    b.shuffle = ((b.received .shuffle).refresh.1.reordered.suggest.1,
      (b.received .shuffle).refresh.2 ++
        (b.received .shuffle).refresh.1.reordered.suggest.2) := by
  rw [shuffle_eq_match, refresh_mode, h]

/-- A shuffle recomputes the ranking and then puts its songs in another order. -/
theorem shuffle_eq (b : Browser) :
    ∃ songs dice placeholder,
      songs.Perm (b.received .shuffle).refresh.1.ranking.songs ∧ b.shuffle.1 =
        { (b.received .shuffle).refresh.1 with
          ranking := { (b.received .shuffle).refresh.1.ranking with songs }
          dice, placeholder } := by
  cases h : modeOf (b.received .shuffle).query with
  | idle =>
    rw [shuffle_of_idle h]
    generalize (b.received .shuffle).refresh.1 = r
    exact ⟨r.ranking.songs, r.dice, r.placeholder, .refl _, rfl⟩
  | filtered =>
    rw [shuffle_of_filtered h]
    generalize (b.received .shuffle).refresh.1 = r
    obtain ⟨dice, placeholder, e⟩ := suggest_eq r.reordered
    exact ⟨_, dice, placeholder, Dice.shuffle_perm r.ranking.songs r.dice, e⟩

theorem withoutTicks_shuffle (b : Browser) :
    withoutTicks b.shuffle.2 = withoutTicks (b.received .shuffle).refresh.2 := by
  cases h : modeOf (b.received .shuffle).query with
  | idle => rw [shuffle_of_idle h]
  | filtered =>
    rw [shuffle_of_filtered h, withoutTicks_append, withoutTicks_suggest, List.append_nil]

/-! ## Scrolling -/

theorem rechecks_scroll (b : Browser) (remaining : Int) :
    b.rechecks (.scroll remaining) = (b.scroll remaining).2 := rfl

theorem rechecks_of_unscrolled {b : Browser} {m : Message}
    (unscrolled : ∀ remaining, m ≠ .scroll remaining) : b.rechecks m = [] := by
  cases m
  case scroll remaining => exact absurd rfl (unscrolled remaining)
  all_goals rfl

/-- Only a scroll has anything looked at again, and only while there is a song to be revealed. -/
theorem rechecks_cases (b : Browser) (m : Message) :
    b.rechecks m = [] ∨ (∃ remaining, m = .scroll remaining) ∧
      b.shown < b.ranking.songs.length ∧ b.rechecks m = [.scheduleScroll scrollDelay] := by
  by_cases scrolled : ∃ remaining, m = .scroll remaining
  · obtain ⟨remaining, rfl⟩ := scrolled
    rw [rechecks_scroll, scroll]
    split
    · next near => exact .inr ⟨⟨remaining, rfl⟩, near.2, rfl⟩
    · exact .inl rfl
  · exact .inl (rechecks_of_unscrolled (not_exists.mp scrolled))

/-- A song is revealed for each time that the list is looked at again. -/
theorem scroll_eq (b : Browser) (remaining : Int) :
    b.scroll remaining =
      ({ b with shown := b.shown + (b.rechecks (.scroll remaining)).length },
        b.rechecks (.scroll remaining)) := by
  rw [rechecks_scroll, scroll]
  split
  · rfl
  · simp

theorem withoutTicks_rechecks (b : Browser) (m : Message) :
    withoutTicks (b.rechecks m) = b.rechecks m := by
  rcases rechecks_cases b m with e | ⟨-, -, e⟩ <;> rw [e] <;> rfl

/-! ## One message -/

/-- A message brings nothing but a catalog, lists, a query and the list on screen. -/
theorem received_eq (b : Browser) (m : Message) :
    ∃ catalog lists query screen, b.received m = { b with catalog, lists, query, screen } := by
  cases m <;> exact ⟨_, _, _, _, rfl⟩

theorem received_of_not_recomputes {b : Browser} {m : Message} (h : b.recomputes m = false) :
    ∃ lists screen, b.received m = { b with lists, screen } := by
  cases m
  case songsLoaded | search | toggleVideo | toggleDuets | selectCategory | shuffle =>
    simp [recomputes] at h
  all_goals exact ⟨_, _, rfl⟩

theorem parsed_received_of_not_recomputes {b : Browser} {m : Message}
    (h : b.recomputes m = false) : (b.received m).parsed = b.parsed := by
  obtain ⟨lists, screen, e⟩ := received_of_not_recomputes h
  rw [e]
  rfl

theorem rechecks_of_recomputes {b : Browser} {m : Message} (h : b.recomputes m = true) :
    b.rechecks m = [] := by
  apply rechecks_of_unscrolled
  rintro remaining rfl
  simp [recomputes] at h

/-- Other than for a tick or a scroll, nothing is done without a new ranking but to ask for a
list. -/
theorem update_eq_request {b : Browser} {m : Message} (h : b.recomputes m = false)
    (untimed : ∀ generation, m ≠ .tick generation)
    (unscrolled : ∀ remaining, m ≠ .scroll remaining) :
    b.update m =
      ({ b.received m with lists := (requestList (b.received m).lists (b.asked m)).1 },
        (requestList (b.received m).lists (b.asked m)).2) := by
  cases m
  case scroll remaining => exact absurd rfl (unscrolled remaining)
  case tick generation => exact absurd rfl (untimed generation)
  case listLoaded name members =>
    have unwanted : b.parsed.list ≠ some name := by simpa [recomputes] using h
    simp only [update, listLoaded, received, asked, h]
    exact if_neg unwanted
  case listChanged name =>
    simp only [update, listChanged, received, asked, h]
    split <;> rfl
  case indexLoaded | listFailed | toggleCategories | songsFailed | unknown => rfl
  all_goals simp [recomputes] at h

/-- Without a new ranking a message is a tick, or nothing is done but to ask for a list and to
reveal a song. -/
theorem cases_of_not_recomputes {b : Browser} {m : Message} (h : b.recomputes m = false) :
    (∃ generation, m = .tick generation) ∨ b.update m =
      ({ b.received m with
          lists := (requestList (b.received m).lists (b.asked m)).1
          shown := b.shown + (b.rechecks m).length },
        (requestList (b.received m).lists (b.asked m)).2 ++ b.rechecks m) := by
  by_cases ticked : ∃ generation, m = .tick generation
  · exact .inl ticked
  · right
    by_cases scrolled : ∃ remaining, m = .scroll remaining
    · obtain ⟨remaining, rfl⟩ := scrolled
      exact scroll_eq b remaining
    · have unscrolled := not_exists.mp scrolled
      have shown : (b.received m).shown = b.shown := by
        obtain ⟨catalog, lists, query, screen, e⟩ := received_eq b m
        rw [e]
      rw [update_eq_request h (not_exists.mp ticked) unscrolled, rechecks_of_unscrolled unscrolled,
        List.append_nil, List.length_nil, Int.natCast_zero, Int.add_zero, ← shown]

theorem update_of_not_recomputes {b : Browser} {m : Message} (h : b.recomputes m = false) :
    ∃ placeholder, (b.update m).1 =
      { b.received m with
        lists := (requestList (b.received m).lists (b.asked m)).1
        shown := b.shown + (b.rechecks m).length
        placeholder } := by
  rcases cases_of_not_recomputes h with ⟨generation, rfl⟩ | e
  · have silent : b.rechecks (.tick generation) = [] := rfl
    refine ⟨(b.placeholder.tick generation).2, ?_⟩
    rw [silent, List.length_nil, Int.natCast_zero, Int.add_zero]
    rfl
  · rw [e]
    exact ⟨(b.received m).placeholder, rfl⟩

theorem update_eq_refresh {b : Browser} {m : Message} (h : b.recomputes m = true)
    (hm : m ≠ .shuffle) : b.update m = (b.received m).refresh := by
  cases m
  case listLoaded name members =>
    have wanted : b.parsed.list = some name := by simpa [recomputes] using h
    simp only [update, listLoaded, received]
    exact if_pos wanted
  case shuffle => exact absurd rfl hm
  case songsLoaded | search | toggleVideo | toggleDuets | selectCategory => rfl
  all_goals simp [recomputes] at h

/-- A recomputed ranking may be put in another order, which only a shuffle does. -/
theorem update_of_recomputes {b : Browser} {m : Message} (h : b.recomputes m = true) :
    ∃ songs dice placeholder, songs.Perm (b.received m).refresh.1.ranking.songs ∧
      (b.update m).1 =
        { (b.received m).refresh.1 with
          ranking := { (b.received m).refresh.1.ranking with songs }
          dice, placeholder } := by
  by_cases shuffled : m = .shuffle
  · subst shuffled
    exact shuffle_eq b
  · rw [update_eq_refresh h shuffled]
    generalize (b.received m).refresh.1 = r
    exact ⟨r.ranking.songs, r.dice, r.placeholder, .refl _, rfl⟩

/-- What a message does to the state, up to the ranking and the placeholder. -/
theorem update_state (b : Browser) (m : Message) :
    ∃ ranking dice placeholder, (b.update m).1 =
      { b.received m with
        lists := (requestList (b.received m).lists (b.asked m)).1
        mode := if b.recomputes m then modeOf (b.received m).query else b.mode
        shown := if b.recomputes m then b.window else b.shown + (b.rechecks m).length
        ranking, dice, placeholder } := by
  have same : (b.received m).window = b.window ∧ (b.received m).mode = b.mode := by
    obtain ⟨catalog, lists, query, screen, e⟩ := received_eq b m
    rw [e]
    exact ⟨rfl, rfl⟩
  cases h : b.recomputes m with
  | false =>
    obtain ⟨placeholder, e⟩ := update_of_not_recomputes h
    rw [e, ← same.2]
    exact ⟨_, _, placeholder, rfl⟩
  | true =>
    obtain ⟨songs, dice, placeholder, -, e⟩ := update_of_recomputes h
    obtain ⟨ranking, dice', placeholder', e'⟩ := refresh_state (b.received m)
    rw [e, e', asked_of_recomputes h, ← same.1]
    exact ⟨_, dice, placeholder, rfl⟩

theorem update_query (b : Browser) (m : Message) :
    (b.update m).1.query = (b.received m).query := by
  obtain ⟨ranking, dice, placeholder, e⟩ := update_state b m
  rw [e]

theorem parsed_update (b : Browser) (m : Message) :
    (b.update m).1.parsed = (b.received m).parsed :=
  congrArg Query.parse (update_query b m)

/-- A new ranking is revealed as far as the first one was. Otherwise a song is revealed for each
time that the list is looked at again. -/
theorem shown_update (b : Browser) (m : Message) :
    (b.update m).1.shown =
      if b.recomputes m then b.window else b.shown + (b.rechecks m).length := by
  obtain ⟨ranking, dice, placeholder, e⟩ := update_state b m
  rw [e]

/-- The commands of a message: the list on screen goes back to its top if the ranking is recomputed,
the list that was asked for is fetched, and what has moved is looked at again. -/
theorem withoutTicks_update (b : Browser) (m : Message) :
    withoutTicks (b.update m).2 = (if b.recomputes m then [.scrollToTop] else []) ++
      (requestList (b.received m).lists (b.asked m)).2 ++ b.rechecks m := by
  cases h : b.recomputes m with
  | false =>
    rcases cases_of_not_recomputes h with ⟨generation, rfl⟩ | e
    · simp only [update, tick]
      split <;> rfl
    · rw [e, withoutTicks_append, withoutTicks_requestList, withoutTicks_rechecks]
      rfl
  | true =>
    rw [asked_of_recomputes h, rechecks_of_recomputes h, List.append_nil]
    by_cases shuffled : m = .shuffle
    · subst shuffled
      exact (withoutTicks_shuffle b).trans (withoutTicks_refresh _)
    · rw [update_eq_refresh h shuffled]
      exact withoutTicks_refresh _

/-- The commands of a kind that are no ticks and fetch nothing: a message has them for a new ranking
or for what has moved. -/
theorem countP_update {p : Command → Bool}
    (ticks : ∀ delay generation, p (.scheduleTick delay generation) = false)
    (fetches : ∀ name, p (.fetchList name) = false) (b : Browser) (m : Message) :
    (b.update m).2.countP p =
      (if b.recomputes m then [.scrollToTop] else []).countP p + (b.rechecks m).countP p := by
  have kept : (withoutTicks (b.update m).2).countP p = (b.update m).2.countP p := by
    rw [withoutTicks, List.countP_filter]
    apply List.countP_congr
    intro c _
    cases c
    case scheduleTick delay generation => simp [ticks]
    all_goals simp
  have requested : (requestList (b.received m).lists (b.asked m)).2.countP p = 0 := by
    apply List.countP_eq_zero.mpr
    intro c mem
    obtain ⟨name, rfl⟩ := exists_fetchList_of_mem_requestList mem
    rw [fetches]
    exact Bool.false_ne_true
  rw [← kept, withoutTicks_update, List.countP_append, List.countP_append, requested, Nat.add_zero]

theorem cases_of_mem_update {b : Browser} {m : Message} {c : Command} (h : c ∈ (b.update m).2) :
    (c = .scrollToTop ∧ b.recomputes m = true) ∨ (∃ name, c = .fetchList name) ∨
      c.isTimer = true := by
  by_cases tick : ∃ delay generation, c = .scheduleTick delay generation
  · obtain ⟨delay, generation, rfl⟩ := tick
    exact .inr (.inr rfl)
  · have kept : c ∈ withoutTicks (b.update m).2 := by
      refine List.mem_filter.mpr ⟨h, ?_⟩
      cases c
      case scheduleTick delay generation => exact absurd ⟨delay, generation, rfl⟩ tick
      all_goals rfl
    rw [withoutTicks_update, List.mem_append, List.mem_append] at kept
    rcases kept with (top | fetch) | recheck
    · split at top
      · next recomputed => exact .inl ⟨List.mem_singleton.mp top, recomputed⟩
      · cases top
    · exact .inr (.inl (exists_fetchList_of_mem_requestList fetch))
    · rcases rechecks_cases b m with e | ⟨-, -, e⟩
      · rw [e] at recheck
        cases recheck
      · rw [e] at recheck
        rw [List.mem_singleton.mp recheck]
        exact .inr (.inr rfl)

/-! ## Many messages -/

/-- The state after a sequence of messages. -/
def run (b : Browser) (ms : List Message) : Browser :=
  ms.foldl (fun b m => (b.update m).1) b

@[simp] theorem run_nil (b : Browser) : b.run [] = b := rfl

@[simp] theorem run_cons (b : Browser) (m : Message) (ms : List Message) :
    b.run (m :: ms) = (b.update m).1.run ms := rfl

theorem run_concat (b : Browser) (ms : List Message) (m : Message) :
    b.run (ms ++ [m]) = ((b.run ms).update m).1 := by
  rw [run, List.foldl_append]
  rfl

def outputs (b : Browser) : List Message → List Command
  | [] => []
  | m :: ms => (b.update m).2 ++ (b.update m).1.outputs ms

end Browser

end Karaoke
