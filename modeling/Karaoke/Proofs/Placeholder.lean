import Karaoke.Placeholder
import Mathlib.Data.List.DropRight
import Mathlib.Data.List.Induction

/-!
# What a placeholder shows after any calls

A placeholder counts what it has revealed and nothing else, so what it shows is worked out here from
the calls it got. A restart forgets the calls before it. Of the ticks since then only those of the
present generation count, and once the target is typed they count for nothing.
-/

set_option autoImplicit false

namespace Karaoke.Placeholder

inductive Call where
  | restart (target : String)
  | tick (generation : Int)
  deriving DecidableEq, Repr

namespace Call

/-- The target that a call starts to type. -/
def target? : Call → Option String
  | restart target => some target
  | tick _ => none

def isTick (c : Call) : Bool :=
  c.target?.isNone

end Call

def after (p : Placeholder) : Call → Placeholder
  | .restart target => p.restart target
  | .tick generation => (p.tick generation).2

def run (initial : String) (calls : List Call) : Placeholder :=
  calls.foldl after { target := initial }

/-- The targets that were started, in order. -/
def targets (calls : List Call) : List String :=
  calls.filterMap Call.target?

def latest (initial : String) (calls : List Call) : String :=
  (targets calls).getLastD initial

/-- How many ticks came since the latest restart that carried the generation of that time. -/
def current (calls : List Call) : Nat :=
  (calls.rtakeWhile Call.isTick).count (.tick (targets calls).length)

variable {p : Placeholder} {generation : Int}

/-! ## Ticks -/

/-- The next tick is due if there is more to reveal. -/
theorem tick_of_advances (advances : p.Advances generation) :
    (p.tick generation).1 = !(p.tick generation).2.isDone := by
  rw [tick, if_pos advances]

theorem tick_of_not_advances (stale : ¬ p.Advances generation) :
    p.tick generation = (false, p) :=
  if_neg stale

theorem isDone_iff : p.isDone = true ↔ p.target.length ≤ p.revealed :=
  decide_eq_true_iff

theorem advances_iff : p.Advances generation ↔
    generation = p.generation ∧ p.revealed < p.target.length := by
  rw [Advances, ← Bool.not_eq_true, isDone_iff, Nat.not_le]

theorem revealed_tick (p : Placeholder) (generation : Int) :
    (p.tick generation).2.revealed =
      if p.Advances generation then p.revealed + 1 else p.revealed := by
  unfold tick
  split <;> rfl

theorem tick_fst_iff : (p.tick generation).1 = true ↔
    generation = p.generation ∧ p.revealed + 1 < p.target.length := by
  by_cases advances : p.Advances generation
  · rw [tick_of_advances advances, Bool.not_eq_true', ← Bool.not_eq_true, isDone_iff, target_tick,
      revealed_tick, if_pos advances, Nat.not_le]
    exact (and_iff_right advances.1).symm
  · rw [tick_of_not_advances advances]
    refine iff_of_false Bool.false_ne_true fun due => advances (advances_iff.mpr ⟨due.1, ?_⟩)
    omega

/-! ## One more call -/

variable (initial : String) (calls : List Call)

theorem run_concat (c : Call) : run initial (calls ++ [c]) = (run initial calls).after c :=
  List.foldl_append

@[simp] theorem targets_restart (target : String) :
    targets (calls ++ [.restart target]) = targets calls ++ [target] :=
  List.filterMap_append

@[simp] theorem targets_tick (generation : Int) :
    targets (calls ++ [.tick generation]) = targets calls :=
  List.filterMap_append.trans (List.append_nil _)

@[simp] theorem latest_restart (target : String) :
    latest initial (calls ++ [.restart target]) = target := by
  rw [latest, targets_restart, List.getLastD_concat]

@[simp] theorem latest_tick (generation : Int) :
    latest initial (calls ++ [.tick generation]) = latest initial calls := by
  rw [latest, targets_tick, latest]

@[simp] theorem current_restart (target : String) : current (calls ++ [.restart target]) = 0 := by
  rw [current, List.rtakeWhile_concat_neg _ _ _ (by simp [Call.isTick, Call.target?]),
    List.count_nil]

@[simp] theorem current_tick (generation : Int) :
    current (calls ++ [.tick generation]) =
      current calls + if generation = (targets calls).length then 1 else 0 := by
  rw [current, List.rtakeWhile_concat_pos _ _ _ (by simp [Call.isTick, Call.target?]),
    targets_tick, List.count_append, current]
  congr 1
  by_cases same : generation = (targets calls).length
  · simp [same]
  · simp [same]

/-! ## Any calls -/

/-- What the calls say of the state of a placeholder. -/
structure Follows (p : Placeholder) : Prop where
  target : p.target = latest initial calls
  generation : p.generation = (targets calls).length
  revealed : p.revealed = min (current calls) p.target.length

variable {initial calls}

theorem Follows.restart (follows : Follows initial calls p) (target : String) :
    Follows initial (calls ++ [.restart target]) (p.after (.restart target)) where
  target := by rw [latest_restart]; rfl
  generation := by
    rw [targets_restart, List.length_append, ← follows.generation]
    rfl
  revealed := by
    rw [current_restart, Nat.zero_min]
    rfl

theorem Follows.tick (follows : Follows initial calls p) (generation : Int) :
    Follows initial (calls ++ [.tick generation]) (p.after (.tick generation)) where
  target := by
    rw [latest_tick, ← follows.target]
    exact target_tick p generation
  generation := by
    rw [targets_tick, ← follows.generation]
    exact generation_tick p generation
  revealed := by
    have before := follows.revealed
    have revealed : (p.after (.tick generation)).revealed = _ := revealed_tick p generation
    have target : (p.after (.tick generation)).target = p.target := target_tick p generation
    rw [revealed, target, current_tick, ← follows.generation]
    simp only [advances_iff]
    by_cases present : generation = p.generation
    · simp only [present, true_and, if_true]
      split <;> omega
    · simp only [present, false_and, if_false]
      exact before

theorem follows_run (initial : String) (calls : List Call) :
    Follows initial calls (run initial calls) := by
  induction calls using List.reverseRecOn with
  | nil => exact ⟨rfl, rfl, (Nat.zero_min _).symm⟩
  | append_singleton calls c follows =>
    rw [run_concat]
    cases c with
    | restart target => exact follows.restart target
    | tick generation => exact follows.tick generation

/-- After any calls the generation is the number of restarts, as many characters of the latest
target are shown as ticks counted, at most all of them, and a tick asks for another exactly if it
counts itself and leaves characters to reveal. -/
theorem typed_by_ticks (initial : String) (calls : List Call) :
    (run initial calls).generation = (targets calls).length ∧
      (run initial calls).display = String.ofList ((latest initial calls).toList.take
        (min (current calls) (latest initial calls).length)) ∧
      ((run initial calls).isDone = true ↔ (latest initial calls).length ≤ current calls) ∧
      ∀ generation, ((run initial calls).tick generation).1 = true ↔
        generation = (run initial calls).generation ∧
          current (calls ++ [.tick generation]) < (latest initial calls).length := by
  have follows := follows_run initial calls
  have revealed := follows.revealed
  rw [follows.target] at revealed
  refine ⟨follows.generation, ?_, ?_, fun generation => ?_⟩
  · rw [display, follows.target, revealed]
  · rw [isDone_iff, follows.target, revealed]
    omega
  · rw [tick_fst_iff, follows.target, revealed, current_tick, ← follows.generation]
    refine and_congr_right fun present => ?_
    rw [if_pos present]
    omega

end Karaoke.Placeholder
