import Karaoke.Proofs.Ranking.Filters
import Karaoke.Proofs.Ranking.Order

/-!
# Queries with more filters

What songs a query hides is settled by its filters, and what order the others have by its free
terms. So a query without free terms shows the same songs, and one that has more filters takes songs
out of a ranking and leaves the others where they are.
-/

set_option autoImplicit false

namespace Karaoke

/-- Whether a query has the free terms of another one, and all of its filters. -/
structure Query.Narrows (narrow wide : Query) : Prop where
  plain : narrow.plain = wide.plain
  title : narrow.title = wide.title
  artist : narrow.artist = wide.artist
  duet : ∀ wanted ∈ wide.duet, wanted ∈ narrow.duet
  video : ∀ wanted ∈ wide.video, wanted ∈ narrow.video
  language : ∀ wanted ∈ wide.language, wanted ∈ narrow.language
  genre : ∀ wanted ∈ wide.genre, wanted ∈ narrow.genre
  year : ∀ wanted ∈ wide.year, wanted ∈ narrow.year
  list : ∀ name ∈ wide.list, name ∈ narrow.list

theorem Query.Narrows.refl (q : Query) : q.Narrows q :=
  ⟨rfl, rfl, rfl, fun _ => id, fun _ => id, fun _ => id, fun _ => id, fun _ => id, fun _ => id⟩

variable {s : Song} {lists : Playlists} {t t' : Threshold} {q q' : Query} {catalog : List Song}

/-! ## Thresholds -/

theorem Threshold.Suffices.weaken {wanted actual : String} (strict : t' = t ∨ t' = .full)
    (enough : t'.Suffices wanted actual) : t.Suffices wanted actual := by
  rcases strict with rfl | rfl
  · exact enough
  · cases t with
    | full => exact enough
    | half =>
      -- A full match earns three points for each character, which is twice what is needed.
      have full := Fuzzy.score_eq_iff.mpr enough
      rw [Fuzzy.adjacentPoints] at full
      rw [Threshold.Suffices]
      omega

theorem Threshold.suffices_self (t : Threshold) (text : String) : t.Suffices text text := by
  have full : Threshold.full.Suffices text text := List.prefix_refl _
  exact full.weaken (.inr rfl)

/-! ## One song -/

namespace Song

theorem isSome_score?_withoutFreeTerms :
    (s.score? lists t q.withoutFreeTerms).isSome = (s.score? lists t q).isSome := by
  rw [isSome_score?_eq_passes, isSome_score?_eq_passes]
  rfl

theorem Meets.of_narrows (narrows : q'.Narrows q) (strict : t' = t ∨ t' = .full)
    (meets : s.Meets lists t' q') : s.Meets lists t q := by
  have weaken {wanted : String} {actual : Option String}
      (found : ∃ a ∈ actual, t'.Suffices wanted a) : ∃ a ∈ actual, t.Suffices wanted a := by
    obtain ⟨a, mem, enough⟩ := found
    exact ⟨a, mem, enough.weaken strict⟩
  constructor
  case duet => exact fun w mem => meets.duet w (narrows.duet w mem)
  case video => exact fun w mem => meets.video w (narrows.video w mem)
  case language => exact fun w mem => weaken (meets.language w (narrows.language w mem))
  case genre => exact fun w mem => weaken (meets.genre w (narrows.genre w mem))
  case year => exact fun w mem => weaken (meets.year w (narrows.year w mem))
  case list => exact fun name mem => meets.list name (narrows.list name mem)

theorem freeScore_of_narrows (narrows : q'.Narrows q) : s.freeScore q' = s.freeScore q := by
  rw [freeScore, freeScore, narrows.plain, narrows.title, narrows.artist]

/-- A song that passes more filters keeps its score. -/
theorem score?_of_narrows (narrows : q'.Narrows q) (strict : t' = t ∨ t' = .full) :
    s.score? lists t' q' = (s.score? lists t q).filter (fun _ => s.passes lists t' q') := by
  by_cases passes' : s.passes lists t' q' = true
  · have passes : s.passes lists t q = true := by
      apply passes_iff.mpr
      exact (passes_iff.mp passes').of_narrows narrows strict
    simp [score?, passes, passes', freeScore_of_narrows narrows, Option.filter_some]
  · simp [score?, passes']

end Song

/-! ## Rankings -/

namespace Ranking

theorem visible_eq_filter_passes :
    visible lists t q catalog = catalog.filter (·.passes lists t q) := by
  simp only [visible, Song.isSome_score?_eq_passes]

theorem covers_withoutFreeTerms_iff {r : Ranking} :
    Covers lists t q.withoutFreeTerms catalog r ↔ Covers lists t q catalog r := by
  have visible' : visible lists t q.withoutFreeTerms catalog = visible lists t q catalog := by
    simp only [visible, Song.isSome_score?_withoutFreeTerms]
  have hidden' : (fun s : Song => (s.score? lists t q.withoutFreeTerms).isNone) =
      fun s => (s.score? lists t q).isNone := by
    funext s
    rw [← Option.not_isSome, ← Option.not_isSome, Song.isSome_score?_withoutFreeTerms]
  constructor
  · rintro ⟨songs, hidden⟩
    exact ⟨visible' ▸ songs, hidden' ▸ hidden⟩
  · rintro ⟨songs, hidden⟩
    exact ⟨visible'.symm ▸ songs, hidden'.symm ▸ hidden⟩

theorem scored_of_narrows (narrows : q'.Narrows q) (strict : t' = t ∨ t' = .full) :
    scored lists t' q' catalog =
      (scored lists t q catalog).filter (fun e => e.2.passes lists t' q') := by
  rw [scored, scored, List.filter_filterMap]
  apply List.filterMap_congr
  intro s _
  rw [Song.score?_of_narrows narrows strict]
  cases s.score? lists t q with
  | none => rfl
  | some n => by_cases passes' : s.passes lists t' q' = true <;> simp [passes', Option.filter_some]

theorem songs_of_narrows (narrows : q'.Narrows q) (strict : t' = t ∨ t' = .full) :
    (ofQuery lists t' q' catalog).songs =
      (ofQuery lists t q catalog).songs.filter (·.passes lists t' q') := by
  calc (ofQuery lists t' q' catalog).songs
    _ = (((scored lists t q catalog).filter (fun e => e.2.passes lists t' q')).mergeSort
          precedes).map (·.2) := by
        rw [← scored_of_narrows narrows strict]
        rfl
    _ = (((scored lists t q catalog).mergeSort precedes).filter
          (fun e => e.2.passes lists t' q')).map (·.2) := by
        rw [filter_mergeSort precedes_trans precedes_total]
    _ = (ofQuery lists t q catalog).songs.filter (·.passes lists t' q') := by
        rw [ofQuery, List.filter_map]
        rfl

/-- More filters, or a stricter threshold, only take songs out of a ranking. The others stay in
their order, and those that were taken out are hidden. -/
theorem ofQuery_narrowed {q q' : Query} (narrows : q'.Narrows q) {t t' : Threshold}
    (strict : t' = t ∨ t' = .full) (lists : Playlists) (catalog : List Song) :
    let wide := ofQuery lists t q catalog
    let narrow := ofQuery lists t' q' catalog
    narrow.songs.Sublist wide.songs ∧
      narrow.songs = wide.songs.filter (·.passes lists t' q') ∧
      narrow.hidden = wide.hidden + (wide.songs.length - narrow.songs.length) := by
  intro wide narrow
  have songs : narrow.songs = wide.songs.filter (·.passes lists t' q') :=
    songs_of_narrows narrows strict
  have sublist : narrow.songs.Sublist wide.songs := by
    rw [songs]
    exact List.filter_sublist
  refine ⟨sublist, songs, ?_⟩
  have all : wide.hidden + wide.songs.length = catalog.length :=
    (covers_ofQuery lists t q catalog).hidden_add_length
  have all' : narrow.hidden + narrow.songs.length = catalog.length :=
    (covers_ofQuery lists t' q' catalog).hidden_add_length
  have fewer := sublist.length_le
  omega

/-- Of four songs that are found, one of them twice in the catalog, a filter takes out one and the
stricter threshold another. -/
theorem ofQuery_narrowed_twice :
    let wall : Song :=
      { title := "Wonderwall", artist := "Oasis", video := some "a.mp4", genre := some "Brit Pop",
        hash := "a" }
    let land : Song :=
      { title := "Wonderland", artist := "Big Country", video := some "b.mp4",
        genre := some "British Pop", hash := "b" }
    let wonder : Song :=
      { title := "Wonder", artist := "Embrace", genre := some "Brit Pop", hash := "c" }
    let catalog := [wall, land, wonder, wall]
    let q : Query := { plain := some "wonder", genre := some "britpop" }
    let q' : Query := { q with video := some true }
    let wide := ofQuery {} .half q catalog
    let narrow := ofQuery {} .full q' catalog
    q'.Narrows q ∧ visible {} .half q catalog = [wall, land, wonder, wall] ∧
      visible {} .full q' catalog = [wall, wall] ∧ wide.hidden = 0 ∧
      narrow.songs.Sublist wide.songs ∧
      narrow.hidden = wide.hidden + (wide.songs.length - narrow.songs.length) := by
  intro wall land wonder catalog q q' wide narrow
  have narrows : q'.Narrows q :=
    ⟨rfl, rfl, rfl, nofun, nofun, nofun, fun _ mem => mem, nofun, nofun⟩
  obtain ⟨sublist, -, hidden⟩ := ofQuery_narrowed narrows (.inr rfl) {} catalog
  refine ⟨narrows, ?_, ?_, ?_, sublist, hidden⟩
  all_goals decide +kernel

end Ranking

end Karaoke
