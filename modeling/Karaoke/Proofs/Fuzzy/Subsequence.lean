import Karaoke.Proofs.Fuzzy.Greedy
import Karaoke.Proofs.Ranking.Filters
import Karaoke.Proofs.Text.Fold

/-!
# Searches that are found as a whole

The greedy matching finds every character of a search exactly if the search can be found in order
in the target at all, with whatever lies between. To take the first place of a character never
costs a later one its place: what can follow a later place can follow the first.
-/

set_option autoImplicit false

namespace Karaoke.Fuzzy

open Text

variable {α : Type} [DecidableEq α] {rest search more : List α} {wanted : α} {gap : Nat}

/-- The exchange: an embedding that puts a character at any place may put it at the first. -/
theorem cons_sublist_iff_of_findIdx? (found : rest.findIdx? (· = wanted) = some gap) :
    (wanted :: more).Sublist rest ↔ more.Sublist (rest.drop (gap + 1)) := by
  induction rest generalizing gap with
  | nil => simp at found
  | cons head tail ih =>
    rw [List.findIdx?_cons] at found
    split at found
    · next same =>
      obtain rfl : head = wanted := by simpa using same
      obtain rfl : 0 = gap := by simpa using found
      exact List.cons_sublist_cons
    · next other =>
      obtain ⟨gap', there, rfl⟩ := Option.map_eq_some_iff.mp found
      have elsewhere : wanted ≠ head := by
        rintro rfl
        simp at other
      rw [List.sublist_cons_iff, List.drop_succ_cons, ← ih there]
      simp [elsewhere]

theorem not_cons_sublist_of_findIdx? (missing : rest.findIdx? (· = wanted) = none) :
    ¬ (wanted :: more).Sublist rest := by
  intro embedded
  have mem : wanted ∈ rest := embedded.subset List.mem_cons_self
  simpa using List.findIdx?_eq_none_iff.mp missing wanted mem

/-! ## The scan -/

theorem map_fst_pairs_scan (cursor index : Nat) (embedded : search.Sublist rest) :
    (scan rest cursor index search).pairs.map (·.1) = List.range' index search.length := by
  induction search generalizing rest cursor index with
  | nil => rfl
  | cons wanted more ih =>
    cases found : rest.findIdx? (· = wanted) with
    | none => exact absurd embedded (not_cons_sublist_of_findIdx? found)
    | some gap =>
      have later := (cons_sublist_iff_of_findIdx? found).mp embedded
      simp only [scan, found, List.map_cons, ih _ _ later]
      rfl

theorem sublist_of_paired (cursor index : Nat)
    (paired : ∀ n < search.length, ∃ j, (index + n, j) ∈ (scan rest cursor index search).pairs) :
    search.Sublist rest := by
  induction search generalizing rest cursor index with
  | nil => exact List.nil_sublist rest
  | cons wanted more ih =>
    rw [List.length_cons] at paired
    cases found : rest.findIdx? (· = wanted) with
    | none =>
      obtain ⟨j, mem⟩ := paired 0 (Nat.succ_pos _)
      simp only [scan, found] at mem
      exact absurd mem notMem_pairs_scan
    | some gap =>
      apply (cons_sublist_iff_of_findIdx? found).mpr
      apply ih (cursor + gap + 1) (index + 1)
      intro n bound
      obtain ⟨j, mem⟩ := paired (n + 1) (Nat.succ_lt_succ bound)
      have next : index + (n + 1) = index + 1 + n := by omega
      simp only [scan, found, next, mem_cons_later_iff] at mem
      exact ⟨j, mem⟩

theorem two_mul_length_pairs_le_score (rest search : List α) (cursor index : Nat) :
    2 * (scan rest cursor index search).pairs.length ≤ (scan rest cursor index search).score := by
  rw [score_scan]
  exact (sum_worth_bounds cursor _ _).1

/-! ## Texts -/

theorem map_fst_pairs_compare {target search : List Char}
    (embedded : (folded search).Sublist (folded target)) :
    (compare target search).pairs.map (·.1) = List.range search.length := by
  rw [compare, map_fst_pairs_scan 0 0 embedded, length_folded, List.range_eq_range']

theorem two_mul_length_le_score {target search : List Char}
    (embedded : (folded search).Sublist (folded target)) :
    2 * search.length ≤ score target search := by
  have paired := congrArg List.length (map_fst_pairs_compare embedded)
  rw [List.length_map, List.length_range] at paired
  rw [← paired]
  exact two_mul_length_pairs_le_score _ _ 0 0

/-- Spaces of the target do no harm: what is left of a squeezed search is never found in one. -/
theorem folded_squeeze_sublist {target search : List Char}
    (embedded : (folded (squeeze search)).Sublist (folded target)) :
    (folded (squeeze search)).Sublist (folded (squeeze target)) := by
  have kept := embedded.filter (fun f => !f.any isSpace)
  rwa [← folded_squeeze, ← folded_squeeze, squeeze_squeeze] at kept

theorem suffices_half_of_sublist {wanted actual : String}
    (embedded : (folded (squeeze wanted.toList)).Sublist (folded actual.toList)) :
    Threshold.half.Suffices wanted actual := by
  have found := two_mul_length_le_score (folded_squeeze_sublist embedded)
  rw [Threshold.Suffices]
  omega

/-- Every character of a search is paired exactly if the folded search is found in order in the
folded target. Each has one pair then, worth at least two points, so that a filter under the lower
threshold accepts every text in which its characters are found in order. -/
theorem compare_complete :
    (∀ target search : List Char,
      ((∀ i < search.length, ∃ j, (i, j) ∈ (compare target search).pairs) ↔
        (folded search).Sublist (folded target)) ∧
      ((folded search).Sublist (folded target) →
        (compare target search).pairs.map (·.1) = List.range search.length ∧
        2 * search.length ≤ score target search)) ∧
    ∀ wanted actual : String, (folded (squeeze wanted.toList)).Sublist (folded actual.toList) →
      Filter.text .half (some wanted) (some actual) = true := by
  constructor
  · intro target search
    refine ⟨⟨?_, ?_⟩, ?_⟩
    · intro paired
      apply sublist_of_paired 0 0
      simpa [compare] using paired
    · intro embedded i bound
      have mem : i ∈ (compare target search).pairs.map (·.1) := by
        rw [map_fst_pairs_compare embedded]
        exact List.mem_range.mpr bound
      obtain ⟨⟨_, j⟩, there, rfl⟩ := List.mem_map.mp mem
      exact ⟨j, there⟩
    · intro embedded
      exact ⟨map_fst_pairs_compare embedded, two_mul_length_le_score embedded⟩
  · intro wanted actual embedded
    apply Filter.text_iff.mpr
    intro w same
    cases same
    exact ⟨actual, rfl, suffices_half_of_sublist embedded⟩

/-- The filter is found in order, with a gap: half of the best score is enough and all is not. -/
theorem compare_complete_gap :
    Filter.text .half (some "h hop") (some "Hip Hop") = true ∧
      Filter.text .full (some "h hop") (some "Hip Hop") = false :=
  ⟨compare_complete.2 _ _ (by decide +kernel), by decide +kernel⟩

end Karaoke.Fuzzy
