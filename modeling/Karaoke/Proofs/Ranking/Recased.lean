import Karaoke.Proofs.Fuzzy.Recased
import Karaoke.Proofs.Ranking.Order

/-!
# Queries in another case

The texts of a query are looked for by comparisons only: free terms as they are, filters without
their spaces and also against themselves, for their best score. None of the three sees the case of
an ASCII letter. The name of a list is looked up and not compared, so there case does matter.
-/

set_option autoImplicit false

namespace Karaoke

open Text

/-- Whether two queries differ only in the case of ASCII letters, and not in the list that they ask
for. -/
structure Query.Recased (q q' : Query) : Prop where
  plain : RecasedValue q.plain q'.plain
  title : RecasedValue q.title q'.title
  artist : RecasedValue q.artist q'.artist
  duet : q.duet = q'.duet
  video : q.video = q'.video
  language : RecasedValue q.language q'.language
  genre : RecasedValue q.genre q'.genre
  year : RecasedValue q.year q'.year
  list : q.list = q'.list

/-! ## Filters -/

namespace Filter

theorem accepts_eq_of_recased {wanted wanted' : List Char} (recased : Recased wanted wanted')
    (t : Threshold) (actual : List Char) : accepts t wanted actual = accepts t wanted' actual := by
  have score := Fuzzy.score_eq_of_recased recased actual
  have best := Fuzzy.best_eq_of_recased recased
  unfold accepts
  rw [score, best]

theorem text_eq_of_recased {wanted wanted' : Option String}
    (recased : RecasedValue wanted wanted') (t : Threshold) (actual : Option String) :
    text t wanted actual = text t wanted' actual := by
  cases recased with
  | none => rfl
  | some recased =>
    cases actual with
    | none => rfl
    | some a => exact accepts_eq_of_recased recased.squeeze t (squeeze a.toList)

end Filter

/-! ## Songs -/

namespace Song

variable {q q' : Query}

theorem termScore_eq_of_recased {term term' : Option String} (recased : RecasedValue term term')
    (text : String) : termScore term text = termScore term' text := by
  cases recased with
  | none => rfl
  | some recased => exact Fuzzy.score_eq_of_recased recased text.toList

theorem freeScore_eq_of_recased (recased : q.Recased q') (s : Song) :
    s.freeScore q = s.freeScore q' := by
  have plain := termScore_eq_of_recased recased.plain
  have title := termScore_eq_of_recased recased.title
  have artist := termScore_eq_of_recased recased.artist
  rw [freeScore, freeScore, plain, plain, title, artist]

theorem passes_eq_of_recased (recased : q.Recased q') (lists : Playlists) (t : Threshold)
    (s : Song) : s.passes lists t q = s.passes lists t q' := by
  have language := Filter.text_eq_of_recased recased.language t
  have genre := Filter.text_eq_of_recased recased.genre t
  have year := Filter.text_eq_of_recased recased.year t
  rw [passes, passes, recased.duet, recased.video, recased.list, language, genre, year]

theorem score?_eq_of_recased (recased : q.Recased q') (lists : Playlists) (t : Threshold)
    (s : Song) : s.score? lists t q = s.score? lists t q' := by
  rw [score?, score?, passes_eq_of_recased recased, freeScore_eq_of_recased recased]

end Song

/-! ## Rankings -/

namespace Ranking

/-- The case of ASCII letters makes no difference. A query in another case gives every song the same
score and every catalog the same ranking, and texts in another case are compared alike, pair by
pair. Within ASCII nothing else makes none: two texts that differ in more than case are told apart
by some comparison, as searches and as targets. -/
theorem ofQuery_eq_of_recased :
    (∀ {q q' : Query}, q.Recased q' → ∀ (lists : Playlists) (t : Threshold),
      (∀ catalog, ofQuery lists t q catalog = ofQuery lists t q' catalog) ∧
      ∀ s : Song, s.score? lists t q = s.score? lists t q') ∧
    (∀ {target target' search search' : List Char},
      Recased target target' → Recased search search' →
        Fuzzy.compare target search = Fuzzy.compare target' search') ∧
    ∀ cs ds : List Char, IsAscii cs → IsAscii ds →
      (Recased cs ds ↔ ∀ target, Fuzzy.compare target cs = Fuzzy.compare target ds) ∧
      (Recased cs ds ↔ ∀ search, Fuzzy.compare cs search = Fuzzy.compare ds search) := by
  refine ⟨?_, Fuzzy.compare_eq_of_recased, ?_⟩
  · intro q q' recased lists t
    have scores := Song.score?_eq_of_recased recased lists t
    exact ⟨fun _ => ofQuery_eq_of_score?_eq scores, scores⟩
  · intro cs ds ascii ascii'
    rw [← folded_eq_iff_of_ascii ascii ascii']
    exact ⟨Fuzzy.folded_eq_iff_searches, Fuzzy.folded_eq_iff_targets⟩

/-- A search in capitals finds what it finds in small letters, its filter included. A character
beyond ASCII may stand between the letters, and a text with another letter is told apart. -/
theorem ofQuery_eq_of_recased_shouted :
    let wall : Song :=
      { title := "Wonderwall", artist := "Oasis", genre := some "Brit Pop", hash := "a" }
    let land : Song :=
      { title := "Wonderland", artist := "Big Country", genre := some "Brit Rock", hash := "b" }
    let catalog := [land, wall]
    let q := Query.parse "genre:britpop wonder"
    let q' := Query.parse "genre:BRITPOP WONDER"
    q.Recased q' ∧ q ≠ q' ∧ (ofQuery {} .full q catalog).songs = [wall] ∧
      ofQuery {} .full q catalog = ofQuery {} .full q' catalog ∧
      wall.score? {} .full q = some 18 ∧ wall.score? {} .full q' = some 18 ∧
      Fuzzy.compare "Straße".toList "straße".toList =
        Fuzzy.compare "STRAßE".toList "sTRAßE".toList ∧
      ¬ ∀ target, Fuzzy.compare target "wonder".toList = Fuzzy.compare target "Wander".toList := by
  intro wall land catalog q q'
  have recased : q.Recased q' := by
    constructor
    all_goals decide +kernel
  obtain ⟨queries, texts, apart⟩ := ofQuery_eq_of_recased
  obtain ⟨rankings, scores⟩ := queries recased {} .full
  have songs : (ofQuery {} .full q catalog).songs = [wall] := by
    rw [songs_ofQuery]
    decide +kernel
  have found : wall.score? {} .full q = some 18 := by decide +kernel
  obtain ⟨told, -⟩ := apart "wonder".toList "Wander".toList (by decide +kernel) (by decide +kernel)
  exact ⟨recased, by decide +kernel, songs, rankings catalog, found, scores wall ▸ found,
    texts (by decide +kernel) (by decide +kernel), told.not.mp (by decide +kernel)⟩

end Ranking

end Karaoke
