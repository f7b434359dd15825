/-!
# Spans of code points

Classes of characters are kept as lists of spans, each of every code point between two or of every
other one.
-/

set_option autoImplicit false

namespace Karaoke.Text

/-- Every `step`-th code point from `first` to `last`. -/
structure Span where
  first : Nat
  last : Nat
  step : Nat
  deriving DecidableEq, Repr

def Span.Covers (s : Span) (n : Nat) : Prop :=
  s.first ≤ n ∧ n ≤ s.last ∧ (n - s.first) % s.step = 0

instance (s : Span) (n : Nat) : Decidable (s.Covers n) :=
  inferInstanceAs (Decidable (_ ∧ _ ∧ _))

/-- Whether a character lies in one of some spans. -/
def inSpans (l : List Span) (c : Char) : Bool :=
  l.any (fun s => s.Covers c.toNat)

/-- What a table of spans gives for a character. -/
def spanValue? {α : Type} (l : List (Span × α)) (c : Char) : Option α :=
  (l.find? (fun s => s.1.Covers c.toNat)).map (·.2)

end Karaoke.Text
