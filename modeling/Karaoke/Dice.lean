/-!
# Random draws

A source of bounded draws may answer in any way, and may go by everything it was asked before.
A shuffle exchanges each position, from the last down to the second, with a drawn one at or below
it.
-/

set_option autoImplicit false

namespace Karaoke

/-- A source of draws with the bounds it was asked for so far, the latest first. -/
structure Dice where
  roll : List Nat → (n : Nat) → Fin (n + 1)
  asked : List Nat := []

namespace Dice

/-- A number from `0` to `n`. -/
def draw (d : Dice) (n : Nat) : Fin (n + 1) × Dice :=
  (d.roll d.asked n, { d with asked := n :: d.asked })

/-- The number of draws so far. -/
def used (d : Dice) : Nat :=
  d.asked.length

@[simp] theorem used_draw (d : Dice) (n : Nat) : (d.draw n).2.used = d.used + 1 := rfl

/-- A source that goes through a list of numbers again and again, reduced to the bound. -/
def ofScript (script : Array Int) : Dice where
  roll asked n :=
    Fin.ofNat (n + 1) ((script[asked.length % script.size]?.getD 0).emod (n + 1)).toNat

/-- Exchanges the positions `i`, `i - 1`, … `1` with drawn ones. -/
def exchange {α : Type} (xs : Array α) : Nat → Dice → Array α × Dice
  | 0, d => (xs, d)
  | i + 1, d =>
    let (j, d) := d.draw (i + 1)
    exchange (xs.swapIfInBounds (i + 1) j) i d

def shuffle {α : Type} (xs : List α) (d : Dice) : List α × Dice :=
  let (ys, d) := exchange xs.toArray (xs.length - 1) d
  (ys.toList, d)

end Dice

end Karaoke
