import Karaoke.Proofs.Fuzzy
import Karaoke.Proofs.Fuzzy.Greedy
import Karaoke.Ranking

/-!
# Searches that are typed further

A search is matched from its first character on. What is typed behind it is matched by itself, in
the part of the target that is left, and changes nothing about what was matched before.
-/

set_option autoImplicit false

namespace Karaoke

namespace Fuzzy

/-- A match in later parts of two texts, its indexes those of the whole texts. -/
def Match.shifted (m : Match) (index cursor : Nat) : Match :=
  ⟨m.score, m.pairs.map (fun p => (p.1 + index, p.2 + cursor))⟩

/-- Two matches, the second in what the first has left. -/
def Match.followedBy (m n : Match) : Match :=
  ⟨m.score + n.score, m.pairs ++ n.pairs⟩

/-! ## The scan -/

variable {α : Type} [DecidableEq α]

theorem scan_shifted (rest search : List α) (cursor index cursor' index' : Nat) :
    scan rest (cursor + cursor') (index + index') search =
      (scan rest cursor index search).shifted index' cursor' := by
  induction search generalizing rest cursor index with
  | nil => rfl
  | cons wanted more ih =>
    cases found : rest.findIdx? (· = wanted) with
    | none =>
      simp only [scan, found]
      rw [Nat.add_right_comm index]
      exact ih rest cursor (index + 1)
    | some gap =>
      have later := ih (rest.drop (gap + 1)) (cursor + gap + 1) (index + 1)
      have here : cursor + cursor' + gap = cursor + gap + cursor' := Nat.add_right_comm ..
      simp only [scan, found, here]
      rw [Nat.add_right_comm (cursor + gap), Nat.add_right_comm index, later]
      rfl

theorem scan_append (target first second : List α) (cursor index : Nat) :
    scan (target.drop cursor) cursor index (first ++ second) =
      let scanned := scan (target.drop cursor) cursor index first
      let stop := cursorAfter cursor scanned.pairs
      scanned.followedBy (scan (target.drop stop) stop (index + first.length) second) := by
  induction first generalizing cursor index with
  | nil =>
    simp [Match.followedBy, cursorAfter]
  | cons wanted more ih =>
    have next : index + (more.length + 1) = index + 1 + more.length := by omega
    cases found : (target.drop cursor).findIdx? (· = wanted) with
    | none =>
      simp only [List.cons_append, List.length_cons, scan, found, next]
      exact ih cursor (index + 1)
    | some gap =>
      have later := ih (cursor + gap + 1) (index + 1)
      have left : (target.drop cursor).drop (gap + 1) = target.drop (cursor + gap + 1) :=
        List.drop_drop
      simp only [List.cons_append, List.length_cons, scan, found, next, left, later,
        cursorAfter_cons, Match.followedBy, Nat.add_assoc (points gap)]

/-! ## Texts -/

open Text

theorem compare_append (target s u : List Char) :
    let stop := cursorAfter 0 (compare target s).pairs
    compare target (s ++ u) =
      (compare target s).followedBy ((compare (target.drop stop) u).shifted s.length stop) := by
  intro stop
  have whole := scan_append (folded target) (folded s) (folded u) 0 0
  have rest := scan_shifted ((folded target).drop stop) (folded u) 0 0 stop s.length
  have left : folded (target.drop stop) = (folded target).drop stop := List.map_drop
  rw [Nat.zero_add, Nat.zero_add] at rest
  rw [List.drop_zero, Nat.zero_add, length_folded] at whole
  calc compare target (s ++ u)
    _ = (compare target s).followedBy
          (scan ((folded target).drop stop) stop s.length (folded u)) := by
        rw [compare, folded_append]
        exact whole
    _ = (compare target s).followedBy ((compare (target.drop stop) u).shifted s.length stop) := by
        rw [rest, ← left]
        rfl

theorem score_append_bounds (target s u : List Char) :
    score target s ≤ score target (s ++ u) ∧
      score target (s ++ u) ≤ score target s + 3 * u.length := by
  have whole := congrArg Match.score (compare_append target s u)
  have bound := score_le (target.drop (cursorAfter 0 (compare target s).pairs)) u
  simp only [Match.followedBy, Match.shifted] at whole
  simp only [score, adjacentPoints] at bound ⊢
  omega

end Fuzzy

/-! ## Songs -/

/-- The ways to type a free term of a query, the others left as they are. -/
def Query.typings (q : Query) : List (String → Query) :=
  [fun w => { q with plain := some w }, fun w => { q with title := some w },
    fun w => { q with artist := some w }]

namespace Song

theorem termScore_append (w u text : String) :
    termScore (some w) text ≤ termScore (some (w ++ u)) text ∧
      termScore (some (w ++ u)) text ≤ termScore (some w) text + 3 * u.length := by
  have bounds := Fuzzy.score_append_bounds text.toList w.toList u.toList
  rwa [← String.toList_append, String.length_toList] at bounds

theorem freeScore_append {q : Query} {typed : String → Query} (mem : typed ∈ q.typings) (s : Song)
    (w u : String) :
    s.freeScore (typed w) ≤ s.freeScore (typed (w ++ u)) ∧
      s.freeScore (typed (w ++ u)) ≤ s.freeScore (typed w) + 3 * u.length := by
  have byTitle := termScore_append w u s.title
  have byArtist := termScore_append w u s.artist
  simp only [Query.typings, List.mem_cons, List.not_mem_nil, or_false] at mem
  rcases mem with rfl | rfl | rfl
  all_goals
    dsimp only [freeScore]
    omega

theorem passes_typing {q : Query} {typed : String → Query} (mem : typed ∈ q.typings) (s : Song)
    (lists : Playlists) (t : Threshold) (w : String) :
    s.passes lists t (typed w) = s.passes lists t q := by
  simp only [Query.typings, List.mem_cons, List.not_mem_nil, or_false] at mem
  rcases mem with rfl | rfl | rfl <;> rfl

end Song

namespace Fuzzy

/-- A search that is typed further keeps its pairs. What is new is matched by itself in the part of
the target behind the last pair, so that the score never falls, and rises by at most three points
for each new character. The same holds of the score of a song. -/
theorem compare_typed_further :
    (∀ target s u : List Char,
      let first := compare target s
      let cursor := (first.pairs.getLast?.map (·.2 + 1)).getD 0
      let rest := compare (target.drop cursor) u
      let whole := compare target (s ++ u)
      whole.score = first.score + rest.score ∧
      whole.pairs = first.pairs ++ rest.pairs.map (fun p => (p.1 + s.length, p.2 + cursor)) ∧
      first.pairs <+: whole.pairs ∧
      first.score ≤ whole.score ∧ whole.score ≤ first.score + 3 * u.length) ∧
    ∀ (song : Song) lists t (q : Query), ∀ typed ∈ q.typings, ∀ w u : String,
      (song.score? lists t (typed (w ++ u))).isSome = (song.score? lists t (typed w)).isSome ∧
      ∀ before ∈ song.score? lists t (typed w), ∀ after ∈ song.score? lists t (typed (w ++ u)),
        before ≤ after ∧ after ≤ before + 3 * u.length := by
  constructor
  · intro target s u first cursor rest whole
    have parts : whole = first.followedBy (rest.shifted s.length cursor) :=
      compare_append target s u
    refine ⟨congrArg Match.score parts, congrArg Match.pairs parts, ?_,
      score_append_bounds target s u⟩
    rw [parts]
    exact List.prefix_append _ _
  · intro song lists t q typed mem w u
    rw [Song.score?, Song.score?, Song.passes_typing mem, Song.passes_typing mem]
    split
    · refine ⟨rfl, ?_⟩
      intro before same after same'
      cases same
      cases same'
      exact Song.freeScore_append mem song w u
    · exact ⟨rfl, nofun⟩

end Fuzzy

end Karaoke
