import Karaoke.Fuzzy
import Mathlib.Algebra.Order.Ring.Nat
import Mathlib.Order.Bounds.Basic

/-!
# The greedy matching

What a comparison pairs, said without the scan. A search index is paired with the least target
index from its cursor on that holds an equal character, and with none only if there is no such
index. The cursor of an index is settled by the pairs before it: it stands just behind the last of
them, so that a character that is not found leaves it where it is.
-/

set_option autoImplicit false

namespace Karaoke.Fuzzy

open Text

/-- Where a scan that began at `start` stands at its end: just behind its last pair. -/
def cursorAfter (start : Nat) (pairs : List (Nat × Nat)) : Nat :=
  (pairs.getLast?.map (·.2 + 1)).getD start

/-- Where a scan that began at `start` stands when it comes to a search index: just behind the last
pair of a smaller one. -/
def cursorAt (start : Nat) (pairs : List (Nat × Nat)) (index : Nat) : Nat :=
  ((pairs.filter (·.1 < index)).getLast?.map (·.2 + 1)).getD start

/-- The indexes from a cursor on at which a target holds a wanted character. -/
def places {α : Type} (target : List α) (cursor : Nat) (wanted : α) : Set Nat :=
  {j | cursor ≤ j ∧ target[j]? = some wanted}

variable {α : Type} [DecidableEq α]

/-! ## Cursors -/

/-- Behind its first pair a scan goes on as one that began there. -/
theorem cursorAfter_cons {start k j : Nat} {pairs : List (Nat × Nat)} :
    cursorAfter start ((k, j) :: pairs) = cursorAfter (j + 1) pairs := by
  rw [cursorAfter, List.getLast?_cons, cursorAfter]
  cases pairs.getLast? <;> rfl

theorem cursorAt_of_le {start index : Nat} {pairs : List (Nat × Nat)}
    (later : ∀ p ∈ pairs, index ≤ p.1) : cursorAt start pairs index = start := by
  have none : pairs.filter (·.1 < index) = [] := by
    apply List.filter_eq_nil_iff.mpr
    intro p mem
    simpa using later p mem
  rw [cursorAt, none]
  rfl

theorem cursorAt_cons {start k j index : Nat} {pairs : List (Nat × Nat)} (before : k < index) :
    cursorAt start ((k, j) :: pairs) index = cursorAt (j + 1) pairs index := by
  rw [cursorAt, List.filter_cons_of_pos (by simpa using before)]
  exact cursorAfter_cons

/-! ## The first place -/

omit [DecidableEq α] in
theorem mem_places_add {target : List α} {cursor gap : Nat} {wanted : α} :
    cursor + gap ∈ places target cursor wanted ↔ (target.drop cursor)[gap]? = some wanted := by
  rw [List.getElem?_drop]
  exact and_iff_right (Nat.le_add_right cursor gap)

theorem places_eq_empty_iff {target : List α} {cursor : Nat} {wanted : α} :
    places target cursor wanted = ∅ ↔ (target.drop cursor).findIdx? (· = wanted) = none := by
  rw [List.findIdx?_eq_none_iff, Set.eq_empty_iff_forall_notMem]
  constructor
  · intro empty c mem
    obtain ⟨gap, at_gap⟩ := List.mem_iff_getElem?.mp mem
    have elsewhere := empty (cursor + gap)
    rw [mem_places_add, at_gap] at elsewhere
    simpa using elsewhere
  · rintro none j ⟨reached, found⟩
    obtain ⟨gap, rfl⟩ := Nat.exists_eq_add_of_le reached
    rw [← List.getElem?_drop] at found
    simpa using none wanted (List.mem_of_getElem? found)

theorem isLeast_places {target : List α} {cursor gap : Nat} {wanted : α}
    (found : (target.drop cursor).findIdx? (· = wanted) = some gap) :
    IsLeast (places target cursor wanted) (cursor + gap) := by
  obtain ⟨bound, here, before⟩ := List.findIdx?_eq_some_iff_getElem.mp found
  constructor
  · rw [mem_places_add, List.getElem?_eq_getElem bound]
    simpa using here
  · rintro j ⟨reached, there⟩
    obtain ⟨gap', rfl⟩ := Nat.exists_eq_add_of_le reached
    by_contra skipped
    have earlier : gap' < gap := by omega
    rw [← List.getElem?_drop, List.getElem?_eq_getElem (earlier.trans bound)] at there
    exact before gap' earlier (by simpa using there)

/-! ## The scan -/

theorem bounds_of_mem_pairs_scan {rest search : List α} {cursor index : Nat} :
    ∀ p ∈ (scan rest cursor index search).pairs,
      index ≤ p.1 ∧ p.1 < index + search.length ∧ cursor ≤ p.2 := by
  induction search generalizing rest cursor index with
  | nil => simp
  | cons wanted more ih =>
    intro p mem
    rw [List.length_cons]
    unfold scan at mem
    split at mem
    · have later := ih p mem
      omega
    · rcases List.mem_cons.mp mem with rfl | mem
      · dsimp only
        omega
      · have later := ih p mem
        omega

theorem pairwise_pairs_scan (rest search : List α) (cursor index : Nat) :
    (scan rest cursor index search).pairs.Pairwise (fun p q => p.1 < q.1 ∧ p.2 < q.2) := by
  induction search generalizing rest cursor index with
  | nil => exact .nil
  | cons wanted more ih =>
    unfold scan
    split
    · exact ih rest cursor (index + 1)
    · refine List.pairwise_cons.mpr ⟨?_, ih _ _ _⟩
      intro p mem
      have later := bounds_of_mem_pairs_scan p mem
      dsimp only
      omega

/-- The first index of a scan is not paired by what comes later. -/
theorem notMem_pairs_scan {rest search : List α} {cursor index j : Nat} :
    (index, j) ∉ (scan rest cursor (index + 1) search).pairs := by
  intro mem
  have later := (bounds_of_mem_pairs_scan _ mem).1
  dsimp only at later
  omega

theorem mem_cons_later_iff {index k n j : Nat} {pairs : List (Nat × Nat)} :
    (index + 1 + n, j) ∈ (index, k) :: pairs ↔ (index + 1 + n, j) ∈ pairs := by
  have later : index + 1 + n ≠ index := by omega
  simp only [List.mem_cons, Prod.mk.injEq, later, false_and, false_or]

theorem cursorAt_scan (rest search : List α) (start cursor index : Nat) :
    cursorAt start (scan rest cursor index search).pairs index = start :=
  cursorAt_of_le fun p mem => (bounds_of_mem_pairs_scan p mem).1

/-- A character is paired with the first place from its cursor on. -/
theorem mem_pairs_scan_iff (target : List α) (cursor index j : Nat) {search : List α} {wanted : α}
    {n : Nat} (at_index : search[n]? = some wanted) :
    (index + n, j) ∈ (scan (target.drop cursor) cursor index search).pairs ↔
      IsLeast (places target
        (cursorAt cursor (scan (target.drop cursor) cursor index search).pairs (index + n)) wanted)
        j := by
  induction search generalizing cursor index n with
  | nil => simp at at_index
  | cons first more ih =>
    cases n with
    | zero =>
      obtain rfl : first = wanted := by simpa using at_index
      rw [Nat.add_zero, cursorAt_scan]
      cases found : (target.drop cursor).findIdx? (· = first) with
      | none =>
        simp only [scan, found]
        have nowhere := places_eq_empty_iff.mpr found
        refine iff_of_false notMem_pairs_scan fun least => ?_
        rw [nowhere] at least
        exact least.1
      | some gap =>
        simp only [scan, found, List.mem_cons, notMem_pairs_scan, or_false, Prod.mk.injEq, true_and]
        have least := isLeast_places found
        exact ⟨fun same => same ▸ least, fun least' => least'.unique least⟩
    | succ n =>
      rw [List.getElem?_cons_succ] at at_index
      have next : index + (n + 1) = index + 1 + n := by omega
      rw [next]
      cases found : (target.drop cursor).findIdx? (· = first) with
      | none =>
        simp only [scan, found]
        exact ih _ _ at_index
      | some gap =>
        have before : index < index + 1 + n := by omega
        simp only [scan, found, mem_cons_later_iff, cursorAt_cons before, List.drop_drop]
        exact ih _ _ at_index

/-- What a pair is worth, given where its scan stood. -/
def worth (start : Nat) (pairs : List (Nat × Nat)) (p : Nat × Nat) : Nat :=
  if p.2 = cursorAt start pairs p.1 then adjacentPoints else skippedPoints

theorem worth_bounds (start : Nat) (pairs : List (Nat × Nat)) (p : Nat × Nat) :
    2 ≤ worth start pairs p ∧ worth start pairs p ≤ 3 := by
  unfold worth
  split <;> decide

theorem sum_worth_bounds (start : Nat) (pairs ps : List (Nat × Nat)) :
    2 * ps.length ≤ (ps.map (worth start pairs)).sum ∧
      (ps.map (worth start pairs)).sum ≤ 3 * ps.length := by
  induction ps with
  | nil => exact ⟨Nat.le_refl 0, Nat.le_refl 0⟩
  | cons p ps ih =>
    have here := worth_bounds start pairs p
    rw [List.map_cons, List.sum_cons, List.length_cons]
    omega

theorem score_scan (rest search : List α) (cursor index : Nat) :
    (scan rest cursor index search).score =
      ((scan rest cursor index search).pairs.map
        (worth cursor (scan rest cursor index search).pairs)).sum := by
  induction search generalizing rest cursor index with
  | nil => rfl
  | cons wanted more ih =>
    cases found : rest.findIdx? (· = wanted) with
    | none =>
      simp only [scan, found]
      exact ih rest cursor (index + 1)
    | some gap =>
      simp only [scan, found, List.map_cons, List.sum_cons]
      generalize later : scan (rest.drop (gap + 1)) (cursor + gap + 1) (index + 1) more = found'
      have here : worth cursor ((index, cursor + gap) :: found'.pairs) (index, cursor + gap) =
          points gap := by
        have start := cursorAt_scan rest (wanted :: more) cursor cursor index
        simp only [scan, found, later] at start
        simp [worth, start, points]
      have there : found'.pairs.map (worth cursor ((index, cursor + gap) :: found'.pairs)) =
          found'.pairs.map (worth (cursor + gap + 1) found'.pairs) := by
        apply List.map_congr_left
        intro p mem
        rw [← later] at mem
        have before : index < p.1 := (bounds_of_mem_pairs_scan p mem).1
        rw [worth, cursorAt_cons before, worth]
      rw [here, there, ← later, ← ih]

/-! ## Texts -/

theorem getElem?_folded_eq_some_iff {cs : List Char} {i : Nat} {folded : List Char} :
    (Text.folded cs)[i]? = some folded ↔ ∃ c, cs[i]? = some c ∧ fold c = folded := by
  rw [Text.folded, List.getElem?_map, Option.map_eq_some_iff]

theorem places_folded (target : List Char) (cursor : Nat) (folded : List Char) :
    places (Text.folded target) cursor folded =
      {j | cursor ≤ j ∧ ∃ d, target[j]? = some d ∧ fold d = folded} := by
  ext j
  exact and_congr_right fun _ => getElem?_folded_eq_some_iff

theorem mem_pairs_compare_iff {target search : List Char} {i j : Nat} {c : Char}
    (at_index : search[i]? = some c) :
    (i, j) ∈ (compare target search).pairs ↔
      IsLeast (places (folded target) (cursorAt 0 (compare target search).pairs i) (fold c)) j := by
  have scanned := mem_pairs_scan_iff (folded target) 0 0 j
    (getElem?_folded_eq_some_iff.mpr ⟨c, at_index, rfl⟩)
  rwa [Nat.zero_add, List.drop_zero] at scanned

theorem exists_of_mem_pairs_compare {target search : List Char} {p : Nat × Nat}
    (mem : p ∈ (compare target search).pairs) :
    ∃ c d, search[p.1]? = some c ∧ target[p.2]? = some d ∧ fold d = fold c := by
  have bound := (bounds_of_mem_pairs_scan p mem).2.1
  rw [Nat.zero_add, length_folded] at bound
  have at_index := List.getElem?_eq_getElem bound
  obtain ⟨-, found⟩ := ((mem_pairs_compare_iff at_index).mp mem).1
  obtain ⟨d, there, same⟩ := getElem?_folded_eq_some_iff.mp found
  exact ⟨search[p.1], d, at_index, there, same⟩

/-- A character finds no partner only if there is no place for it. -/
theorem unpaired_compare_iff {target search : List Char} {i : Nat} {c : Char}
    (at_index : search[i]? = some c) :
    (∀ j, (i, j) ∉ (compare target search).pairs) ↔
      places (folded target) (cursorAt 0 (compare target search).pairs i) (fold c) = ∅ := by
  simp only [mem_pairs_compare_iff at_index]
  constructor
  · intro unpaired
    rw [places_eq_empty_iff]
    cases found : ((folded target).drop _).findIdx? (· = fold c) with
    | none => rfl
    | some gap => exact absurd (isLeast_places found) (unpaired _)
  · intro nowhere j least
    rw [nowhere] at least
    exact least.1

/-- A comparison is the greedy matching: its pairs go up on both sides and hold equal characters,
each character of the search has the first place from its cursor on and none only if there is no
such place, and a pair is worth three points if nothing was skipped to reach it and else two. -/
theorem compare_greedy (target search : List Char) :
    let pairs := (compare target search).pairs
    let cursor := cursorAt 0 pairs
    pairs.Pairwise (fun p q => p.1 < q.1 ∧ p.2 < q.2) ∧
    (∀ p ∈ pairs, ∃ c d, search[p.1]? = some c ∧ target[p.2]? = some d ∧ fold d = fold c) ∧
    (∀ i c, search[i]? = some c →
      (∀ j, (i, j) ∈ pairs ↔
        IsLeast {j | cursor i ≤ j ∧ ∃ d, target[j]? = some d ∧ fold d = fold c} j) ∧
      ((∀ j, (i, j) ∉ pairs) ↔
        ∀ j d, cursor i ≤ j → target[j]? = some d → fold d ≠ fold c)) ∧
    (compare target search).score = (pairs.map fun p => if p.2 = cursor p.1 then 3 else 2).sum ∧
    2 * pairs.length ≤ (compare target search).score ∧
    (compare target search).score ≤ 3 * pairs.length := by
  intro pairs cursor
  have score : (compare target search).score = (pairs.map (worth 0 pairs)).sum :=
    score_scan (folded target) (folded search) 0 0
  refine ⟨pairwise_pairs_scan _ _ 0 0, fun p mem => exists_of_mem_pairs_compare mem, ?_, score,
    ?_, ?_⟩
  · intro i c at_index
    rw [unpaired_compare_iff at_index, places_folded]
    refine ⟨fun j => by rw [mem_pairs_compare_iff at_index, places_folded], ?_⟩
    simp only [Set.eq_empty_iff_forall_notMem, Set.mem_ofPred_eq, not_and, not_exists]
    exact forall_congr' fun j => forall_comm
  · rw [score]
    exact (sum_worth_bounds 0 pairs pairs).1
  · rw [score]
    exact (sum_worth_bounds 0 pairs pairs).2

end Karaoke.Fuzzy
