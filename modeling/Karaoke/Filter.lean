import Karaoke.Fuzzy
import Karaoke.Text.Blank

/-!
# Filters

A filter that is not set lets every song pass. A yes-or-no filter compares values; a text filter
matches the wanted text against the song's, spaces left out on both sides.
-/

set_option autoImplicit false

namespace Karaoke

/-- How much of a wanted text must match: all of it, or half of the best score. -/
inductive Threshold where
  | full | half
  deriving DecidableEq, Repr, Inhabited

namespace Filter

open Text

def flag (wanted : Option Bool) (actual : Bool) : Bool :=
  match wanted with
  | none => true
  | some w => w == actual

/-- Whether a song's text gives the wanted text a sufficient score. -/
def accepts (t : Threshold) (wanted actual : List Char) : Bool :=
  match t with
  | .full => Fuzzy.score actual wanted = Fuzzy.best wanted
  | .half => Fuzzy.best wanted ≤ 2 * Fuzzy.score actual wanted

/-- A song without the text fails every filter that is set. -/
def text (t : Threshold) (wanted actual : Option String) : Bool :=
  match wanted, actual with
  | none, _ => true
  | some _, none => false
  | some w, some a => accepts t (squeeze w.toList) (squeeze a.toList)

end Filter

end Karaoke
