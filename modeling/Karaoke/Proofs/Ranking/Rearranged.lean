import Karaoke.Proofs.Ranking.Order
import Mathlib.Order.WithBot

/-!
# Catalogs in another order

A ranking is sorted by score, title, artist and hash, so what it says of these at each place does
not depend on the order of the catalog. Only songs that agree in all four are left in that order,
and this makes no difference if they are the same song.
-/

set_option autoImplicit false

namespace Karaoke.Ranking

open Text (codePoints codePoints_strictMono)

abbrev Entry := Option Nat × String × String × String

/-- What a song is ranked by. -/
def entry (lists : Playlists) (t : Threshold) (q : Query) (s : Song) : Entry :=
  (s.score? lists t q, s.title, s.artist, s.hash)

/-- Where an entry stands: the smaller, the further ahead. A hidden song would be behind all
others. -/
def place (e : Entry) : (WithBot Nat)ᵒᵈ ×ₗ List Nat ×ₗ List Nat ×ₗ List Nat :=
  let score : WithBot Nat := e.1
  toLex (OrderDual.toDual score,
    toLex (codePoints e.2.1, toLex (codePoints e.2.2.1, codePoints e.2.2.2)))

theorem place_injective : Function.Injective place := by
  rintro ⟨score, title, artist, hash⟩ ⟨score', title', artist', hash'⟩ same
  simp only [place, toLex_inj, Prod.mk.injEq, codePoints_strictMono.injective.eq_iff] at same
  obtain ⟨scores, rfl, rfl, rfl⟩ := same
  cases OrderDual.toDual_inj.mp scores
  rfl

variable {lists : Playlists} {t : Threshold} {q : Query} {catalog catalog' : List Song}

theorem place_le_of_before {a b : Song} (before : Before lists t q a b) :
    place (entry lists t q a) ≤ place (entry lists t q b) := by
  obtain ⟨m, n, scored, scored', order⟩ := before
  apply Prod.Lex.toLex_le_toLex.mpr
  rw [entry, entry, scored, scored']
  rcases order with better | ⟨rfl, earlier⟩
  · left
    exact OrderDual.toDual_lt_toDual.mpr (WithBot.coe_lt_coe.mpr better)
  · right
    exact ⟨rfl, earlier⟩

theorem pairwise_place (catalog : List Song) :
    (ofQuery lists t q catalog).songs.Pairwise
      (fun a b => place (entry lists t q a) ≤ place (entry lists t q b)) :=
  (pairwise_before_ofQuery lists t q catalog).imp place_le_of_before

theorem songs_perm (perm : catalog.Perm catalog') :
    (ofQuery lists t q catalog).songs.Perm (ofQuery lists t q catalog').songs := by
  have kept : (visible lists t q catalog).Perm (visible lists t q catalog') := perm.filter _
  have found := (covers_ofQuery lists t q catalog).songs
  have found' := (covers_ofQuery lists t q catalog').songs
  exact found.trans (kept.trans found'.symm)

theorem mem_of_mem_songs {s : Song} (mem : s ∈ (ofQuery lists t q catalog).songs) : s ∈ catalog :=
  List.mem_of_mem_filter ((covers_ofQuery lists t q catalog).songs.mem_iff.mp mem)

/-- The order of a catalog decides neither how many songs are hidden nor what score, title, artist
and hash there are at each place of a ranking. It makes no difference at all if no two different
songs agree in title, artist and hash. -/
theorem ofQuery_rearranged {catalog catalog' : List Song} (perm : catalog.Perm catalog')
    (lists : Playlists) (t : Threshold) (q : Query) :
    let r := ofQuery lists t q catalog
    let r' := ofQuery lists t q catalog'
    r.hidden = r'.hidden ∧ r.songs.map (entry lists t q) = r'.songs.map (entry lists t q) ∧
      ((∀ a ∈ catalog, ∀ b ∈ catalog,
        a.title = b.title → a.artist = b.artist → a.hash = b.hash → a = b) → r = r') := by
  intro r r'
  have songs : r.songs.Perm r'.songs := songs_perm perm
  have hidden : r.hidden = r'.hidden := by
    rw [(covers_ofQuery lists t q catalog).hidden, (covers_ofQuery lists t q catalog').hidden]
    exact perm.countP_eq _
  refine ⟨hidden, ?_, ?_⟩
  · have sorted (l : List Song) : ((ofQuery lists t q l).songs.map (entry lists t q)).Pairwise
        (fun e e' => place e ≤ place e') := List.pairwise_map.mpr (pairwise_place l)
    apply (songs.map _).eq_of_pairwise _ (sorted catalog) (sorted catalog')
    intro e e' _ _ ahead behind
    exact place_injective (le_antisymm ahead behind)
  · intro distinct
    have same : r.songs = r'.songs := by
      apply songs.eq_of_pairwise _ (pairwise_place catalog) (pairwise_place catalog')
      intro a b mem mem' ahead behind
      have tied := place_injective (le_antisymm ahead behind)
      simp only [entry, Prod.mk.injEq] at tied
      obtain ⟨-, title, artist, hash⟩ := tied
      have mem_b : b ∈ catalog := mem_of_mem_songs (songs.mem_iff.mpr mem')
      exact distinct a (mem_of_mem_songs mem) b mem_b title artist hash
    calc r = ⟨r.songs, r.hidden⟩ := rfl
      _ = ⟨r'.songs, r'.hidden⟩ := by rw [same, hidden]

/-- Two songs agree in everything that they are ranked by, and only they are left in the order of
the catalog. Without one of them that order makes no difference. -/
theorem ofQuery_rearranged_tied :
    let first : Song := { title := "Wonderwall", artist := "Oasis", year := some "1995", hash := "a" }
    let second : Song := { first with year := some "2014" }
    let other : Song := { title := "Wonderwall", artist := "Mike Flowers", hash := "b" }
    let catalog := [first, second, other]
    let catalog' := [other, second, first]
    let q : Query := { plain := some "wonderwall" }
    let r := ofQuery {} .full q catalog
    let r' := ofQuery {} .full q catalog'
    catalog.Perm catalog' ∧ r.songs = [other, first, second] ∧ r'.songs = [other, second, first] ∧
      r.songs.map (entry {} .full q) = r'.songs.map (entry {} .full q) ∧
      ofQuery {} .full q [first, other] = ofQuery {} .full q [other, first] := by
  intro first second other catalog catalog' q r r'
  have perm : catalog.Perm catalog' := (List.reverse_perm catalog).symm
  have distinct : ∀ a ∈ [first, other], ∀ b ∈ [first, other],
      a.title = b.title → a.artist = b.artist → a.hash = b.hash → a = b := by
    decide
  obtain ⟨-, same, -⟩ := ofQuery_rearranged perm {} .full q
  obtain ⟨-, -, identical⟩ := ofQuery_rearranged (.swap other first []) {} .full q
  have songs : r.songs = [other, first, second] := by
    rw [songs_ofQuery]
    decide +kernel
  have songs' : r'.songs = [other, second, first] := by
    rw [songs_ofQuery]
    decide +kernel
  exact ⟨perm, songs, songs', same, identical distinct⟩

end Karaoke.Ranking
