import Karaoke.Text.Fold

/-!
# Fuzzy comparison

A search is matched greedily: each of its characters takes the first equal character of the
target that is left, and one that finds none is passed over. A character found right at the
cursor is worth more than one found further on.
-/

set_option autoImplicit false

namespace Karaoke.Fuzzy

open Text

/-- The score of a comparison and its matched pairs, search index first. -/
structure Match where
  score : Nat
  pairs : List (Nat × Nat)
deriving DecidableEq, Repr

def adjacentPoints : Nat := 3

def skippedPoints : Nat := 2

/-- What a character is worth when `gap` characters are skipped to reach it. -/
def points (gap : Nat) : Nat :=
  if gap = 0 then adjacentPoints else skippedPoints

/-- Matches a search against `rest`, the part of a target from index `cursor` on; `index` counts
the characters of the search. -/
def scan {α : Type} [DecidableEq α] (rest : List α) (cursor index : Nat) : List α → Match
  | [] => ⟨0, []⟩
  | wanted :: more =>
    match rest.findIdx? (· = wanted) with
    | none => scan rest cursor (index + 1) more
    | some gap =>
      let found := scan (rest.drop (gap + 1)) (cursor + gap + 1) (index + 1) more
      ⟨points gap + found.score, (index, cursor + gap) :: found.pairs⟩

@[simp] theorem scan_nil {α : Type} [DecidableEq α] (rest : List α) (cursor index : Nat) :
    scan rest cursor index [] = ⟨0, []⟩ := rfl

def compare (target search : List Char) : Match :=
  scan (folded target) 0 0 (folded search)

/-- How well a search matches a target; higher is better. -/
def score (target search : List Char) : Nat :=
  (compare target search).score

/-- The best score that a search can reach, which is its score against itself. -/
def best (search : List Char) : Nat :=
  score search search

end Karaoke.Fuzzy
