import Karaoke.Dice

/-!
# Shuffles

A shuffle puts a list in another order, whatever is drawn.
-/

set_option autoImplicit false

namespace Karaoke.Dice

variable {α : Type}

theorem swapIfInBounds_perm (xs : Array α) (i j : Nat) :
    (xs.swapIfInBounds i j).toList.Perm xs.toList := by
  rw [Array.swapIfInBounds_def]
  split
  · split
    · exact Array.perm_iff_toList_perm.mp (Array.swap_perm _ _)
    · rfl
  · rfl

theorem exchange_perm (xs : Array α) (i : Nat) (d : Dice) :
    (exchange xs i d).1.toList.Perm xs.toList := by
  induction i generalizing xs d with
  | zero => rfl
  | succ i ih => exact (ih _ _).trans (swapIfInBounds_perm xs (i + 1) _)

theorem shuffle_perm (xs : List α) (d : Dice) : (d.shuffle xs).1.Perm xs :=
  exchange_perm xs.toArray _ d

end Karaoke.Dice
