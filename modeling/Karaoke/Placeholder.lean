/-!
# The typed placeholder

A text that appears one character at a time. Every new target starts a new generation, and only a
tick of the current generation reveals a character, so that ticks left over from an earlier target
have no effect.
-/

set_option autoImplicit false

namespace Karaoke

structure Placeholder where
  target : String
  revealed : Nat := 0
  generation : Nat := 0
  deriving DecidableEq, Repr, Inhabited

namespace Placeholder

/-- The target that is typed before any song is known. -/
def defaultTarget : String := "Sök"

/-- The part of the target that has appeared. -/
def display (p : Placeholder) : String :=
  String.ofList (p.target.toList.take p.revealed)

def isDone (p : Placeholder) : Bool :=
  p.target.length ≤ p.revealed

/-- Starts to type another target. -/
def restart (p : Placeholder) (target : String) : Placeholder :=
  { target, revealed := 0, generation := p.generation + 1 }

/-- Whether a tick of a generation reveals a character. -/
def Advances (p : Placeholder) (generation : Int) : Prop :=
  generation = p.generation ∧ p.isDone = false

instance (p : Placeholder) (generation : Int) : Decidable (p.Advances generation) :=
  inferInstanceAs (Decidable (_ ∧ _))

/-- Reveals a character, and says whether another tick is due. -/
def tick (p : Placeholder) (generation : Int) : Bool × Placeholder :=
  if p.Advances generation then
    let next := { p with revealed := p.revealed + 1 }
    (!next.isDone, next)
  else (false, p)

@[simp] theorem generation_restart (p : Placeholder) (target : String) :
    (p.restart target).generation = p.generation + 1 := rfl

@[simp] theorem generation_tick (p : Placeholder) (generation : Int) :
    (p.tick generation).2.generation = p.generation := by
  unfold tick; split <;> rfl

@[simp] theorem target_tick (p : Placeholder) (generation : Int) :
    (p.tick generation).2.target = p.target := by
  unfold tick; split <;> rfl

end Placeholder

end Karaoke
