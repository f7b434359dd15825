import Karaoke.Proofs.Ranking.Filters
import Karaoke.Proofs.Ranking.Order

/-!
# Songs that begin with the search

A song has the greatest score for a plain text exactly if its title or its artist begins with that
text. Such songs therefore stand before all others, and, as their scores are equal, in the order of
their keys.
-/

set_option autoImplicit false

namespace Karaoke

open Text

/-- Whether the title or the artist of a song begins with a text, each character folded. -/
def Song.BeginsWith (s : Song) (text : String) : Prop :=
  folded text.toList <+: folded s.title.toList ∨ folded text.toList <+: folded s.artist.toList

/-! ## The greatest score -/

namespace Song

variable {s : Song} {lists : Playlists} {t : Threshold} {q : Query} {p : String} {n : Nat}

theorem freeScore_of_score? (scored : s.score? lists t q = some n) : s.freeScore q = n := by
  unfold score? at scored
  split at scored
  · exact Option.some.inj scored
  · cases scored

section Plain

variable (plain : q.plain = some p) (title : q.title = none) (artist : q.artist = none)

include plain title artist

theorem freeScore_of_plain :
    s.freeScore q =
      max (Fuzzy.score s.title.toList p.toList) (Fuzzy.score s.artist.toList p.toList) := by
  simp [freeScore, termScore, plain, title, artist]

theorem le_of_score? (scored : s.score? lists t q = some n) : n ≤ 3 * p.length := by
  have bound := freeScore_le q s
  rw [freeScore_of_score? scored] at bound
  simpa [Query.longestTerm, plain, title, artist] using bound

theorem beginsWith_iff (scored : s.score? lists t q = some n) :
    s.BeginsWith p ↔ n = 3 * p.length := by
  have byTitle := Fuzzy.score_le s.title.toList p.toList
  have byArtist := Fuzzy.score_le s.artist.toList p.toList
  rw [← freeScore_of_score? scored, freeScore_of_plain plain title artist]
  rw [BeginsWith, ← Fuzzy.score_eq_iff, ← Fuzzy.score_eq_iff]
  rw [Fuzzy.adjacentPoints, String.length_toList] at *
  omega

theorem BeginsWith.of_before {a b : Song} (before : Ranking.Before lists t q a b)
    (begins : b.BeginsWith p) : a.BeginsWith p := by
  obtain ⟨m, n, scored, scored', order⟩ := before
  have bound : m ≤ 3 * p.length := le_of_score? plain title artist scored
  apply (beginsWith_iff plain title artist scored).mpr
  have greatest := (beginsWith_iff plain title artist scored').mp begins
  omega

theorem BeginsWith.key_le {a b : Song} (begins : a.BeginsWith p) (begins' : b.BeginsWith p)
    (before : Ranking.Before lists t q a b) : a.key ≤ b.key := by
  obtain ⟨m, n, scored, scored', order⟩ := before
  have greatest := (beginsWith_iff plain title artist scored).mp begins
  have greatest' := (beginsWith_iff plain title artist scored').mp begins'
  rcases order with better | ⟨-, earlier⟩
  · omega
  · exact earlier

end Plain

end Song

/-! ## Rankings -/

namespace Ranking

theorem exists_parted_of_pairwise {α : Type} {p : α → Prop} {l : List α}
    (first : l.Pairwise (fun a b => p b → p a)) :
    ∃ before after, l = before ++ after ∧ (∀ a ∈ before, p a) ∧ ∀ a ∈ after, ¬ p a := by
  induction l with
  | nil => exact ⟨[], [], rfl, nofun, nofun⟩
  | cons a l ih =>
    obtain ⟨behind, later⟩ := List.pairwise_cons.mp first
    by_cases holds : p a
    · obtain ⟨before, after, rfl, all, none⟩ := ih later
      exact ⟨a :: before, after, rfl, List.forall_mem_cons.mpr ⟨holds, all⟩, none⟩
    · refine ⟨[], a :: l, rfl, nofun, List.forall_mem_cons.mpr ⟨holds, ?_⟩⟩
      intro b mem holds'
      exact holds (behind b mem holds')

/-- A ranking by a plain text begins with the songs whose title or artist begins with that text, in
the order of title, artist and hash. None of the songs behind them begins with it. -/
theorem ofQuery_hits_first {q : Query} {p : String} (plain : q.plain = some p)
    (title : q.title = none) (artist : q.artist = none) (lists : Playlists) (t : Threshold)
    (catalog : List Song) :
    ∃ hits others, (ofQuery lists t q catalog).songs = hits ++ others ∧
      (∀ s ∈ hits, s.BeginsWith p) ∧ (∀ s ∈ others, ¬ s.BeginsWith p) ∧
      hits.Pairwise (fun a b => a.key ≤ b.key) := by
  have order := pairwise_before_ofQuery lists t q catalog
  have first : (ofQuery lists t q catalog).songs.Pairwise
      (fun a b => b.BeginsWith p → a.BeginsWith p) :=
    order.imp fun before begins => begins.of_before plain title artist before
  obtain ⟨hits, others, parted, all, none⟩ := exists_parted_of_pairwise first
  refine ⟨hits, others, parted, all, none, ?_⟩
  rw [parted] at order
  apply (List.pairwise_append.mp order).1.imp_of_mem
  intro a b mem mem' before
  exact (all a mem).key_le plain title artist (all b mem') before

/-- One song begins with the search by its title and one by its artist. A third has all of its
characters, though not at the beginning, and would be first by its title. -/
theorem ofQuery_hits_first_wonder :
    let skipped : Song :=
      { title := "I Wonder", artist := "Rodriguez", year := some "1970", hash := "a" }
    let byTitle : Song :=
      { title := "Wonderwall", artist := "Oasis", year := some "1995", hash := "b" }
    let byArtist : Song :=
      { title := "Nobody", artist := "Wonder Girls", year := some "1999", hash := "c" }
    let catalog := [skipped, byTitle, { byTitle with hash := "d", year := none }, byArtist]
    let q : Query := { plain := some "wonder", year := some "19" }
    let r := ofQuery {} .full q catalog
    r.songs = [byArtist, byTitle, skipped] ∧
      ∃ hits others, r.songs = hits ++ others ∧ (∀ s ∈ hits, s.BeginsWith "wonder") ∧
        (∀ s ∈ others, ¬ s.BeginsWith "wonder") ∧ hits.Pairwise (fun a b => a.key ≤ b.key) := by
  intro skipped byTitle byArtist catalog q r
  have songs : r.songs = [byArtist, byTitle, skipped] := by
    rw [songs_ofQuery]
    decide +kernel
  exact ⟨songs, ofQuery_hits_first rfl rfl rfl {} .full catalog⟩

end Ranking

end Karaoke
