import Karaoke.Text.Letters
import Karaoke.Text.CaseFolding

/-!
# Folding for comparison

Two characters are compared by their folded forms, so that case, accents and the styled forms of
a letter make no difference. A character that stands for no single letter keeps its own identity:
it only folds its case.
-/

set_option autoImplicit false

namespace Karaoke.Text

def fold (c : Char) : List Char :=
  if c.toNat < 0x80 then [c.toLower]
  else match letter? c with
    | some l => [l]
    | none => caseFold c

theorem fold_of_ascii {c : Char} (h : c.toNat < 0x80) : fold c = [c.toLower] := by
  simp [fold, h]

/-- The folded characters of a text, one for each of its characters. -/
def folded (cs : List Char) : List (List Char) :=
  cs.map fold

@[simp] theorem length_folded (cs : List Char) : (folded cs).length = cs.length := by
  simp [folded]

@[simp] theorem folded_append (cs ds : List Char) : folded (cs ++ ds) = folded cs ++ folded ds := by
  simp [folded]

end Karaoke.Text
