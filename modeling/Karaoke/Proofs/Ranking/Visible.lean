import Karaoke.Ranking

/-!
# Visible songs

Which songs of a catalog a query lets through, and the rankings that have exactly these. Of the
lists only the one that the query asks for matters, and of that one only the members.
-/

set_option autoImplicit false

namespace Karaoke

theorem Song.score?_congr {p p' : Playlists} {q : Query}
    (h : ∀ name, q.list = some name → p.members? name = p'.members? name) (t : Threshold)
    (s : Song) : s.score? p t q = s.score? p' t q := by
  have list : Filter.list p q.list s.hash = Filter.list p' q.list s.hash := by
    cases hq : q.list with
    | none => rfl
    | some name => simp only [Filter.list, h name hq]
  rw [score?, score?, passes, passes, list]

/-- A query that asks for nothing hides no song. -/
theorem Song.score?_empty (p : Playlists) (t : Threshold) (s : Song) :
    s.score? p t {} = some 0 := rfl

namespace Ranking

variable (lists : Playlists) (t : Threshold) (q : Query) (catalog : List Song)

/-- The songs of a catalog that no filter of a query hides. -/
def visible : List Song :=
  catalog.filter (fun s => (s.score? lists t q).isSome)

/-- Whether a ranking has exactly the visible songs of a catalog and counts the others. -/
structure Covers (r : Ranking) : Prop where
  songs : r.songs.Perm (visible lists t q catalog)
  hidden : r.hidden = catalog.countP (fun s => (s.score? lists t q).isNone)

theorem countP_isNone_add_length_visible :
    catalog.countP (fun s => (s.score? lists t q).isNone) + (visible lists t q catalog).length =
      catalog.length := by
  have others : (fun s : Song => (s.score? lists t q).isSome) =
      fun s => decide ¬(s.score? lists t q).isNone = true := by
    funext s
    cases s.score? lists t q <;> rfl
  rw [visible, ← List.countP_eq_length_filter, others]
  exact (List.length_eq_countP_add_countP _).symm

theorem map_snd_scored :
    (scored lists t q catalog).map (·.2) = visible lists t q catalog := by
  induction catalog with
  | nil => rfl
  | cons s catalog ih =>
    cases h : s.score? lists t q <;> simp_all [scored, visible]

theorem covers_ofQuery : Covers lists t q catalog (ofQuery lists t q catalog) where
  songs := by
    rw [← map_snd_scored]
    exact (List.mergeSort_perm _ _).map _
  hidden := by
    have found : (scored lists t q catalog).length = (visible lists t q catalog).length := by
      rw [← map_snd_scored, List.length_map]
    have all := countP_isNone_add_length_visible lists t q catalog
    simp only [ofQuery]
    omega

variable {lists t q catalog}

theorem Covers.hidden_add_length {r : Ranking} (h : Covers lists t q catalog r) :
    r.hidden + r.songs.length = catalog.length := by
  rw [h.hidden, h.songs.length_eq, countP_isNone_add_length_visible]

theorem Covers.unique {r r' : Ranking} (h : Covers lists t q catalog r)
    (h' : Covers lists t q catalog r') : r.songs.Perm r'.songs ∧ r.hidden = r'.hidden :=
  ⟨h.songs.trans h'.songs.symm, h.hidden.trans h'.hidden.symm⟩

theorem covers_iff {r : Ranking} : Covers lists t q catalog r ↔
    r.songs.Perm (ofQuery lists t q catalog).songs ∧
      r.hidden = (ofQuery lists t q catalog).hidden := by
  have found := covers_ofQuery lists t q catalog
  constructor
  · intro covers
    exact covers.unique found
  · rintro ⟨songs, hidden⟩
    exact ⟨songs.trans found.songs, hidden.trans found.hidden⟩

/-- Every order of the whole catalog covers a query that asks for nothing. -/
theorem covers_of_perm {songs : List Song} (h : songs.Perm catalog) :
    Covers lists t {} catalog { songs } where
  songs := by rwa [visible, List.filter_eq_self.mpr fun s _ => by rw [Song.score?_empty]; rfl]
  hidden := by simp [Song.score?_empty]

theorem Covers.perm {r : Ranking} (h : Covers lists t q catalog r) {songs : List Song}
    (hs : songs.Perm r.songs) : Covers lists t q catalog { r with songs } where
  songs := hs.trans h.songs
  hidden := h.hidden

theorem Covers.congr {lists' : Playlists} {r : Ranking}
    (same : ∀ name, q.list = some name → lists.members? name = lists'.members? name)
    (h : Covers lists t q catalog r) : Covers lists' t q catalog r where
  songs := by simpa only [visible, Song.score?_congr same] using h.songs
  hidden := by simpa only [Song.score?_congr same] using h.hidden

/-- A ranking is settled by the scores of the songs. -/
theorem ofQuery_eq_of_score?_eq {lists' : Playlists} {t' : Threshold} {q' : Query}
    (same : ∀ s : Song, s.score? lists t q = s.score? lists' t' q') :
    ofQuery lists t q catalog = ofQuery lists' t' q' catalog := by
  simp only [ofQuery, scored, same]

theorem ofQuery_congr {lists' : Playlists}
    (same : ∀ name, q.list = some name → lists.members? name = lists'.members? name) :
    ofQuery lists t q catalog = ofQuery lists' t q catalog :=
  ofQuery_eq_of_score?_eq (Song.score?_congr same t)

end Ranking

end Karaoke
