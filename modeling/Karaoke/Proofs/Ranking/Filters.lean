import Karaoke.Proofs.Fuzzy
import Karaoke.Proofs.Playlists
import Karaoke.Ranking

/-!
# Which songs pass

What a query demands of a song, said without scores: a full match of two texts is that one begins
with the other. The free terms demand nothing, they only bound the score of a song that passes.
-/

set_option autoImplicit false

namespace Karaoke

open Text

/-- Whether a text is enough like a wanted one. Spaces are left out of both, and every character is
folded by itself. Under the full threshold the text has to begin with the wanted one, and under the
other it has to have half of the best score, which is three points for each wanted character. -/
def Threshold.Suffices (t : Threshold) (wanted actual : String) : Prop :=
  match t with
  | .full => folded (squeeze wanted.toList) <+: folded (squeeze actual.toList)
  | .half =>
    3 * (squeeze wanted.toList).length ≤
      2 * Fuzzy.score (squeeze actual.toList) (squeeze wanted.toList)

/-- Whether a song meets everything that a query demands. What is not set demands nothing. -/
structure Song.Meets (s : Song) (lists : Playlists) (t : Threshold) (q : Query) : Prop where
  duet : ∀ wanted ∈ q.duet, wanted = (s.singer1.isSome && s.singer2.isSome)
  video : ∀ wanted ∈ q.video, wanted = s.video.isSome
  language : ∀ wanted ∈ q.language, ∃ actual ∈ s.language, t.Suffices wanted actual
  genre : ∀ wanted ∈ q.genre, ∃ actual ∈ s.genre, t.Suffices wanted actual
  year : ∀ wanted ∈ q.year, ∃ actual ∈ s.year, t.Suffices wanted actual
  list : ∀ name ∈ q.list, ∃ members, lists.load name = .loaded members ∧ s.hash ∈ members

/-- The length of the longest free term, zero if there is none. -/
def Query.longestTerm (q : Query) : Nat :=
  max ((q.plain.map String.length).getD 0)
    (max ((q.title.map String.length).getD 0) ((q.artist.map String.length).getD 0))

/-! ## One filter -/

theorem Threshold.suffices_squeeze {t : Threshold} {wanted actual : String} :
    t.Suffices (String.ofList (squeeze wanted.toList)) actual ↔ t.Suffices wanted actual := by
  cases t <;> simp only [Suffices, String.toList_ofList, squeeze_squeeze]

namespace Filter

theorem flag_iff {wanted : Option Bool} {actual : Bool} :
    flag wanted actual = true ↔ ∀ w ∈ wanted, w = actual := by
  cases wanted <;> simp [flag]

theorem accepts_iff {t : Threshold} {wanted actual : String} :
    accepts t (squeeze wanted.toList) (squeeze actual.toList) = true ↔
      t.Suffices wanted actual := by
  cases t with
  | full =>
    rw [accepts, decide_eq_true_iff, Fuzzy.best_eq]
    exact Fuzzy.score_eq_iff
  | half =>
    rw [accepts, decide_eq_true_iff, Fuzzy.best_eq]
    rfl

theorem text_iff {t : Threshold} {wanted actual : Option String} :
    text t wanted actual = true ↔ ∀ w ∈ wanted, ∃ a ∈ actual, t.Suffices w a := by
  cases wanted with
  | none => simp [text]
  | some w =>
    cases actual with
    | none => simp [text]
    | some a => simp [text, accepts_iff]

theorem list_iff {lists : Playlists} {wanted : Option String} {hash : String} :
    list lists wanted hash = true ↔
      ∀ name ∈ wanted, ∃ members, lists.load name = .loaded members ∧ hash ∈ members := by
  cases wanted with
  | none => simp [list]
  | some name =>
    simp only [list, Option.mem_some_iff, forall_eq', ← Playlists.members?_eq_some_iff]
    cases lists.members? name <;> simp

end Filter

namespace Song

variable {s : Song} {lists : Playlists} {t : Threshold} {q : Query}

theorem isDuet_eq : s.isDuet = (s.singer1.isSome && s.singer2.isSome) := by
  rw [Bool.eq_iff_iff, isDuet_iff, Bool.and_eq_true]

theorem passes_iff : s.passes lists t q = true ↔ s.Meets lists t q := by
  simp only [passes, Bool.and_eq_true, Filter.flag_iff, Filter.text_iff, Filter.list_iff, isDuet_eq]
  constructor
  · rintro ⟨⟨⟨⟨⟨duet, video⟩, language⟩, genre⟩, year⟩, list⟩
    exact ⟨duet, video, language, genre, year, list⟩
  · intro meets
    exact ⟨⟨⟨⟨⟨meets.duet, meets.video⟩, meets.language⟩, meets.genre⟩, meets.year⟩, meets.list⟩

theorem meets_genre_iff {wanted : String} :
    s.Meets lists t { genre := some wanted } ↔ ∃ actual ∈ s.genre, t.Suffices wanted actual := by
  constructor
  · intro meets
    exact meets.genre wanted rfl
  · rintro ⟨actual, mem, enough⟩
    constructor
    case genre =>
      rintro _ ⟨⟩
      exact ⟨actual, mem, enough⟩
    all_goals nofun

/-- A genre that a query asks for may be written without its spaces. -/
theorem passes_genre_iff {wanted : String} :
    s.passes lists t { genre := some (String.ofList (squeeze wanted.toList)) } = true ↔
      ∃ actual ∈ s.genre, t.Suffices wanted actual := by
  rw [passes_iff, meets_genre_iff]
  simp only [Threshold.suffices_squeeze]

theorem isSome_score?_eq_passes : (s.score? lists t q).isSome = s.passes lists t q := by
  unfold score?
  split <;> simp_all

/-! ## The free terms -/

theorem termScore_le (term : Option String) (text : String) :
    termScore term text ≤ 3 * (term.map String.length).getD 0 := by
  cases term with
  | none => exact Nat.le_refl 0
  | some w =>
    have bound := Fuzzy.score_le text.toList w.toList
    rwa [String.length_toList] at bound

theorem freeScore_le (q : Query) (s : Song) : s.freeScore q ≤ 3 * q.longestTerm := by
  have byPlain := termScore_le q.plain
  have byTitle := termScore_le q.title s.title
  have byArtist := termScore_le q.artist s.artist
  have plainTitle := byPlain s.title
  have plainArtist := byPlain s.artist
  unfold freeScore Query.longestTerm
  omega

/-- A query lets a song through exactly if the song meets its demands. The free terms make no
difference to that, and the score that they give is at most three points for each character of the
longest. -/
theorem isSome_score?_iff_meets (s : Song) (lists : Playlists) (t : Threshold) (q : Query) :
    ((s.score? lists t q).isSome ↔ s.Meets lists t q) ∧
      (∀ score ∈ s.score? lists t q, score ≤ 3 * q.longestTerm) ∧
      ∀ plain title artist,
        (s.score? lists t { q with plain, title, artist }).isSome =
          (s.score? lists t q).isSome := by
  refine ⟨?_, ?_, ?_⟩
  · rw [isSome_score?_eq_passes]
    exact passes_iff
  · intro score found
    unfold score? at found
    split at found
    · cases found
      exact freeScore_le q s
    · cases found
  · intro plain title artist
    rw [isSome_score?_eq_passes, isSome_score?_eq_passes]
    rfl

/-- The genre begins with the wanted one once both are without spaces. -/
theorem meets_of_begins :
    let s : Song :=
      { title := "Wonderwall", artist := "Oasis", genre := some "Brit Pop", hash := "a" }
    let q := Query.parse "genre:britp wonder"
    s.score? {} .full q = some 18 ∧ s.Meets {} .full q ∧ 18 ≤ 3 * q.longestTerm := by
  intro s q
  have found : s.score? {} .full q = some 18 := by decide +kernel
  obtain ⟨passes, bound, -⟩ := isSome_score?_iff_meets s {} .full q
  exact ⟨found, passes.mp (found ▸ rfl), bound 18 found⟩

end Song

end Karaoke
