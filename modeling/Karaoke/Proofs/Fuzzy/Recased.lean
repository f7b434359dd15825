import Karaoke.Proofs.Fuzzy
import Karaoke.Proofs.Text.Recased

/-!
# Comparisons in another case

A comparison sees only the folded texts, and it sees all of them: two texts that no comparison tells
apart fold to the same. So the case of ASCII letters makes no difference to a comparison, and it is
the only thing in an ASCII text that makes none.
-/

set_option autoImplicit false

namespace Karaoke.Fuzzy

open Text

variable {target target' search search' : List Char}

theorem compare_eq_of_recased (targets : Recased target target')
    (searches : Recased search search') : compare target search = compare target' search' := by
  rw [compare, compare, targets.folded_eq, searches.folded_eq]

theorem score_eq_of_recased (searches : Recased search search') (target : List Char) :
    score target search = score target search' :=
  congrArg Match.score (compare_eq_of_recased (.refl target) searches)

theorem best_eq_of_recased (searches : Recased search search') : best search = best search' :=
  congrArg Match.score (compare_eq_of_recased searches searches)

/-! ## What a comparison tells apart -/

theorem length_le_of_score_eq (same : score search search = score search search') :
    search.length ≤ search'.length := by
  have full : score search search = adjacentPoints * search.length := best_eq search
  have bound := score_le search search'
  rw [adjacentPoints] at full bound
  omega

theorem folded_eq_iff_searches :
    folded search = folded search' ↔
      ∀ target, compare target search = compare target search' := by
  constructor
  · intro same target
    rw [compare, compare, same]
  · intro same
    -- Either search has its best score against itself, and so has the other one there.
    have scores (target : List Char) : score target search = score target search' :=
      congrArg Match.score (same target)
    have shorter : search.length ≤ search'.length := length_le_of_score_eq (scores search)
    have longer : search'.length ≤ search.length := length_le_of_score_eq (scores search').symm
    have begins : folded search' <+: folded search := by
      rw [← score_eq_iff, ← scores, Nat.le_antisymm longer shorter]
      exact best_eq search
    apply (begins.eq_of_length_le _).symm
    rwa [length_folded, length_folded]

theorem folded_eq_iff_targets :
    folded target = folded target' ↔
      ∀ search, compare target search = compare target' search := by
  constructor
  · intro same search
    rw [compare, compare, same]
  · intro same
    have scores (search : List Char) : score target search = score target' search :=
      congrArg Match.score (same search)
    have begins : folded target <+: folded target' := by
      rw [← score_eq_iff, ← scores]
      exact best_eq target
    have begins' : folded target' <+: folded target := by
      rw [← score_eq_iff, scores]
      exact best_eq target'
    exact begins.eq_of_length_le begins'.length_le

end Karaoke.Fuzzy
