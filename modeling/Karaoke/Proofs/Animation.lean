import Karaoke.Proofs.Browser.Typing
import Mathlib.Logic.Relation

/-!
# The animation of the placeholder

A browser among the ticks that it has scheduled. A tick is in flight until it is delivered, and any
other message may come in between. A text that is not typed to its end has one tick of its own
generation in flight; what is left from earlier texts is delivered without effect.
-/

set_option autoImplicit false

namespace Karaoke

structure Animation where
  browser : Browser
  /-- The generations of the ticks in flight. -/
  ticks : List Nat

namespace Animation

/-- Processes a message and puts the ticks that it schedules in flight. -/
def process (a : Animation) (m : Message) : Animation where
  browser := (a.browser.update m).1
  ticks := a.ticks ++ Browser.scheduled (a.browser.update m).2

def deliver (a : Animation) (generation : Nat) : Animation :=
  { a with ticks := a.ticks.erase generation }

/-- A browser that has carried out its opening commands. -/
def begin (b : Browser) : Animation where
  browser := b
  ticks := Browser.scheduled b.opening

/-- Only what is in flight is delivered as a tick. -/
inductive Step : Animation → Animation → Prop
  | message {a : Animation} {m : Message} :
    (∀ generation, m ≠ .tick generation) → Step a (a.process m)
  | tick {a : Animation} {generation : Nat} :
    generation ∈ a.ticks → Step a ((a.deliver generation).process (.tick generation))

/-- Whether no generation has two ticks in flight and none is ahead of the placeholder, which has
one of its own if there is more to type. -/
structure Steady (a : Animation) : Prop where
  once : ∀ generation, a.ticks.count generation ≤ 1
  behind : ∀ generation ∈ a.ticks, generation ≤ a.browser.placeholder.generation
  live : a.browser.placeholder.isDone = false →
    a.ticks.count a.browser.placeholder.generation = 1

variable {a a' : Animation}

theorem steady_begin (b : Browser) : Steady (begin b) := by
  have opening : (begin b).ticks = [b.placeholder.generation] := rfl
  constructor
  case once =>
    intro generation
    rw [opening]
    exact List.count_le_length
  case behind =>
    intro generation flying
    rw [opening] at flying
    exact Nat.le_of_eq (List.mem_singleton.mp flying)
  case live =>
    intro _
    rw [opening]
    exact List.count_singleton_self

/-- If nothing of the present generation is in flight, a tick of it may be put there, and it has to
be unless everything is typed. -/
theorem steady_of_unused {ticks : List Nat} (once : ∀ generation, ticks.count generation ≤ 1)
    (behind : ∀ generation ∈ ticks, generation ≤ a.browser.placeholder.generation)
    (unused : a.browser.placeholder.generation ∉ ticks)
    (next : a.ticks = ticks ++ [a.browser.placeholder.generation] ∨
      a.browser.placeholder.isDone = true ∧ a.ticks = ticks) : Steady a := by
  have none : ticks.count a.browser.placeholder.generation = 0 := List.count_eq_zero.mpr unused
  rcases next with scheduled | ⟨done, same⟩
  · constructor
    case once =>
      intro generation
      rw [scheduled, List.count_append]
      by_cases new : generation = a.browser.placeholder.generation
      · apply Nat.le_of_eq
        rw [new, none, List.count_singleton_self]
      · rw [List.count_cons_of_ne (Ne.symm new), List.count_nil, Nat.add_zero]
        exact once generation
    case behind =>
      intro generation flying
      rw [scheduled, List.mem_append, List.mem_singleton] at flying
      rcases flying with old | new
      · exact behind generation old
      · exact Nat.le_of_eq new
    case live =>
      intro _
      rw [scheduled, List.count_append, none, List.count_singleton_self]
  · constructor
    case once => rwa [same]
    case behind => rwa [same]
    case live =>
      intro unfinished
      rw [done] at unfinished
      cases unfinished

theorem Steady.message (steady : Steady a) {m : Message}
    (untimed : ∀ generation, m ≠ .tick generation) : Steady (a.process m) := by
  rcases Browser.retypes_update (b := a.browser) untimed with
    ⟨kept, silent⟩ | ⟨target, restarted, first⟩
  · have ticks : (a.process m).ticks = a.ticks := by rw [process, silent, List.append_nil]
    have placeholder : (a.process m).browser.placeholder = a.browser.placeholder := kept
    constructor
    case once =>
      rw [ticks]
      exact steady.once
    case behind =>
      rw [ticks, placeholder]
      exact steady.behind
    case live =>
      rw [ticks, placeholder]
      exact steady.live
  · have new : (a.process m).browser.placeholder.generation =
        a.browser.placeholder.generation + 1 := congrArg Placeholder.generation restarted
    -- Nothing in flight has the generation of the new text yet.
    apply steady_of_unused steady.once
    · intro generation flying
      rw [new]
      exact Nat.le_succ_of_le (steady.behind generation flying)
    · intro flying
      have behind := steady.behind _ flying
      omega
    · left
      rw [new, process, first]

/-- A tick that has an effect is of the present generation and the only one of it. -/
theorem Steady.tick (steady : Steady a) (generation : Nat) :
    Steady ((a.deliver generation).process (.tick generation)) := by
  have once : ∀ g, (a.ticks.erase generation).count g ≤ 1 := by
    intro g
    exact Nat.le_trans (List.erase_sublist.count_le g) (steady.once g)
  have behind : ∀ g ∈ a.ticks.erase generation, g ≤ a.browser.placeholder.generation := by
    intro g left
    exact steady.behind g (List.mem_of_mem_erase left)
  obtain ⟨ticked, scheduled⟩ := a.browser.update_tick generation
  have placeholder : ((a.deliver generation).process (.tick generation)).browser.placeholder =
    (a.browser.placeholder.tick generation).2 := ticked
  have ticks : ((a.deliver generation).process (.tick generation)).ticks =
      a.ticks.erase generation ++ if (a.browser.placeholder.tick generation).1 then
        [a.browser.placeholder.generation] else [] :=
    congrArg (a.ticks.erase generation ++ ·) scheduled
  by_cases advances : a.browser.placeholder.Advances generation
  · have current : generation = a.browser.placeholder.generation := Int.ofNat.inj advances.1
    have delivered : (a.ticks.erase generation).count generation = 0 := by
      rw [List.count_erase_self, current, steady.live advances.2]
    apply steady_of_unused once
    · rwa [placeholder, Placeholder.generation_tick]
    · rw [placeholder, Placeholder.generation_tick, ← current]
      exact List.count_eq_zero.mp delivered
    · rw [ticks, placeholder, Placeholder.generation_tick, Placeholder.tick_of_advances advances]
      cases (a.browser.placeholder.tick generation).2.isDone
      · exact .inl rfl
      · exact .inr ⟨rfl, List.append_nil _⟩
  · rw [Placeholder.tick_of_not_advances advances] at placeholder ticks
    have fewer : ((a.deliver generation).process (.tick generation)).ticks =
      a.ticks.erase generation := ticks.trans (List.append_nil _)
    constructor
    case once => rwa [fewer]
    case behind => rwa [fewer, placeholder]
    case live =>
      rw [fewer, placeholder]
      intro unfinished
      have stale : a.browser.placeholder.generation ≠ generation := by
        intro current
        exact advances ⟨congrArg Int.ofNat current.symm, unfinished⟩
      rw [List.count_erase_of_ne stale]
      exact steady.live unfinished

/-- However ticks and other messages come, no generation has two ticks in flight and none is ahead
of the placeholder, and a text that is not typed to its end has exactly one tick. -/
theorem ticks_steady {b : Browser} (run : Relation.ReflTransGen Step (begin b) a) :
    (∀ generation, a.ticks.count generation ≤ 1) ∧
      (∀ generation ∈ a.ticks, generation ≤ a.browser.placeholder.generation) ∧
      (a.browser.placeholder.isDone = false →
        a.ticks.count a.browser.placeholder.generation = 1) := by
  have steady : Steady a := by
    induction run with
    | refl => exact steady_begin b
    | tail _ step steady =>
      cases step with
      | message untimed => exact steady.message untimed
      | tick _ => exact steady.tick _
  exact ⟨steady.once, steady.behind, steady.live⟩

/-- The songs arrive while the first tick is in flight. Both ticks are in flight then, and the first
is delivered without effect. -/
theorem ticks_steady_loaded :
    let b := Browser.new { roll := fun _ _ => 0 }
    let song : Song := { title := "Wonderwall", artist := "Oasis", hash := "a" }
    let loaded := (begin b).process (.songsLoaded [song])
    let later := (loaded.deliver 0).process (.tick 0)
    Relation.ReflTransGen Step (begin b) later ∧ loaded.ticks = [0, 1] ∧
      later.browser.placeholder.isDone = false ∧ later.browser.placeholder.display = "" ∧
      later.ticks.count later.browser.placeholder.generation = 1 := by
  intro b song loaded later
  have first : Step (begin b) loaded := .message nofun
  have both : loaded.ticks = [0, 1] := by decide +kernel
  have second : Step loaded later := .tick (by rw [both]; exact List.mem_cons_self)
  have run : Relation.ReflTransGen Step (begin b) later := .tail (.single first) second
  have unfinished : later.browser.placeholder.isDone = false := by decide +kernel
  obtain ⟨-, -, live⟩ := ticks_steady run
  exact ⟨run, both, unfinished, by decide +kernel, live unfinished⟩

end Animation

end Karaoke
