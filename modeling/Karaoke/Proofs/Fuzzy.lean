import Karaoke.Fuzzy

/-!
# The greatest score

A search earns at most three points for each of its characters. It earns all of them exactly if
the target begins with it, so that a full score, though it is found by a greedy scan, says nothing
about what comes later in the target.
-/

set_option autoImplicit false

namespace Karaoke.Fuzzy

open Text

variable {α : Type} [DecidableEq α]

theorem points_le (gap : Nat) : points gap ≤ adjacentPoints := by
  unfold points
  split <;> decide

theorem points_lt {gap : Nat} (skipped : gap ≠ 0) : points gap < adjacentPoints := by
  rw [points, if_neg skipped]
  decide

theorem score_scan_le (rest search : List α) (cursor index : Nat) :
    (scan rest cursor index search).score ≤ adjacentPoints * search.length := by
  induction search generalizing rest cursor index with
  | nil => exact Nat.zero_le _
  | cons wanted more ih =>
    rw [List.length_cons, Nat.mul_succ]
    unfold scan
    split
    · exact Nat.le_add_right_of_le (ih rest cursor (index + 1))
    · next gap _ =>
      have later := ih (rest.drop (gap + 1)) (cursor + gap + 1) (index + 1)
      have here := points_le gap
      dsimp only
      omega

/-- Nothing is skipped to reach a character exactly if it stands at the cursor. -/
theorem findIdx?_eq_zero_iff {rest : List α} {wanted : α} :
    rest.findIdx? (· = wanted) = some 0 ↔ ∃ tail, rest = wanted :: tail := by
  cases rest with
  | nil => simp
  | cons head tail =>
    by_cases same : head = wanted <;> simp [List.findIdx?_cons, same]

theorem findIdx?_of_begins {rest more : List α} {wanted : α} (begins : wanted :: more <+: rest) :
    rest.findIdx? (· = wanted) = some 0 := by
  obtain ⟨tail, rfl⟩ := begins
  exact findIdx?_eq_zero_iff.mpr ⟨more ++ tail, rfl⟩

theorem score_scan_eq_iff {rest search : List α} (cursor index : Nat) :
    (scan rest cursor index search).score = adjacentPoints * search.length ↔ search <+: rest := by
  induction search generalizing rest cursor index with
  | nil => simp
  | cons wanted more ih =>
    rw [List.length_cons, Nat.mul_succ]
    have worth : 0 < adjacentPoints := by decide
    cases found : rest.findIdx? (· = wanted) with
    | none =>
      simp only [scan, found]
      have lost := score_scan_le rest more cursor (index + 1)
      constructor
      · intro full
        omega
      · intro begins
        rw [findIdx?_of_begins begins] at found
        cases found
    | some gap =>
      by_cases skipped : gap = 0
      · subst skipped
        obtain ⟨tail, rfl⟩ := findIdx?_eq_zero_iff.mp found
        simp only [scan, found, List.drop_succ_cons, List.drop_zero, List.cons_prefix_cons,
          true_and]
        rw [← ih (cursor + 0 + 1) (index + 1), points, if_pos rfl]
        omega
      · simp only [scan, found]
        have lost := points_lt skipped
        have later := score_scan_le (rest.drop (gap + 1)) more (cursor + gap + 1) (index + 1)
        constructor
        · intro full
          omega
        · intro begins
          rw [findIdx?_of_begins begins] at found
          exact absurd (Option.some.inj found).symm skipped

/-! ## Texts -/

theorem score_le (target search : List Char) :
    score target search ≤ adjacentPoints * search.length := by
  rw [← length_folded search]
  exact score_scan_le (folded target) (folded search) 0 0

theorem score_eq_iff {target search : List Char} :
    score target search = adjacentPoints * search.length ↔ folded search <+: folded target := by
  rw [← length_folded search]
  exact score_scan_eq_iff 0 0

theorem best_eq (search : List Char) : best search = adjacentPoints * search.length :=
  score_eq_iff.mpr (List.prefix_refl _)

/-- The best score of a search is three points for each of its characters. A target never gives
more, and gives as much exactly if it begins with the search once both are folded. -/
theorem greatest_score :
    (∀ search, best search = 3 * search.length) ∧
      ∀ target search, 0 ≤ score target search ∧ score target search ≤ best search ∧
        (score target search = best search ↔ folded search <+: folded target) := by
  refine ⟨best_eq, ?_⟩
  intro target search
  rw [best_eq search]
  exact ⟨Nat.zero_le _, score_le target search, score_eq_iff⟩

end Karaoke.Fuzzy
