import Karaoke.Proofs.Browser.Lists
import Karaoke.Proofs.Browser.Typing
import Mathlib.Logic.Basic

/-!
# Changes of the view

A message has the ranking recomputed, and then the list is shown from its top with as many songs as
after every search, or it leaves what is listed as it was, but for one more song that a scroll
reveals. So nothing on view changes unless the list goes back to its top.
-/

set_option autoImplicit false

namespace Karaoke.Browser

/-- Whether an answer takes the list back to its top, as its first command and only once, with the
first songs revealed. -/
structure Returns (b : Browser) (a : Answer) : Prop where
  first : a.2.head? = some .scrollToTop
  once : a.2.count .scrollToTop = 1
  shown : a.1.shown = b.window

/-- Whether the answer to a message leaves the list where it is and all that is listed as it was,
but for one more song that a scroll may reveal. -/
structure Stays (b : Browser) (m : Message) (a : Answer) : Prop where
  unmoved : .scrollToTop ∉ a.2
  catalog : a.1.catalog = b.catalog
  query : a.1.query = b.query
  mode : a.1.mode = b.mode
  ranking : a.1.ranking = b.ranking
  shown : a.1.shown = b.shown ∨ (∃ remaining, m = .scroll remaining) ∧ a.1.shown = b.shown + 1

variable {b : Browser} {m : Message}

theorem Returns.not_stays {a : Answer} (returns : Returns b a) : ¬ Stays b m a := by
  intro stays
  exact stays.unmoved (List.mem_of_mem_head? returns.first)

theorem head?_refresh (b : Browser) : b.refresh.2.head? = some .scrollToTop := by
  cases h : modeOf b.query with
  | idle => rw [refresh_of_idle h, List.head?_cons]
  | filtered => rw [refresh_of_filtered h, List.head?_cons]

theorem head?_shuffle (b : Browser) : b.shuffle.2.head? = some .scrollToTop := by
  cases h : modeOf (b.received .shuffle).query with
  | idle =>
    rw [shuffle_of_idle h]
    exact head?_refresh _
  | filtered => rw [shuffle_of_filtered h, List.head?_append, head?_refresh, Option.some_or]

/-- The list goes back to its top once if the ranking is recomputed. -/
theorem count_scrollToTop_update (b : Browser) (m : Message) :
    (b.update m).2.count .scrollToTop = if b.recomputes m then 1 else 0 := by
  have rechecks : (b.rechecks m).countP (· == .scrollToTop) = 0 := by
    rcases rechecks_cases b m with e | ⟨-, -, e⟩ <;> rw [e] <;> rfl
  rw [List.count, countP_update (fun _ _ => rfl) (fun _ => rfl), rechecks]
  split <;> rfl

theorem returns_update (h : b.recomputes m = true) : Returns b (b.update m) where
  first := by
    by_cases shuffled : m = .shuffle
    · subst shuffled
      exact head?_shuffle b
    · rw [update_eq_refresh h shuffled]
      exact head?_refresh _
  once := by rw [count_scrollToTop_update, if_pos h]
  shown := by rw [shown_update, if_pos h]

theorem stays_update (h : b.recomputes m = false) : Stays b m (b.update m) := by
  obtain ⟨placeholder, e⟩ := update_of_not_recomputes h
  obtain ⟨lists, screen, e'⟩ := received_of_not_recomputes h
  constructor
  case unmoved =>
    rw [← List.count_eq_zero, count_scrollToTop_update, h]
    rfl
  case shown =>
    rw [shown_update, h]
    rcases rechecks_cases b m with none | ⟨scrolled, -, one⟩
    · left
      rw [none]
      exact Int.add_zero b.shown
    · right
      rw [one]
      exact ⟨scrolled, rfl⟩
  all_goals rw [e, e']

/-- The next text is of the next generation, and nothing of it has appeared. -/
theorem Retypes.generation {a : Answer} (retypes : Retypes b.placeholder a) :
    a.1.placeholder.generation = b.placeholder.generation ∨
      a.1.placeholder.generation = b.placeholder.generation + 1 ∧
        scheduled a.2 = [a.1.placeholder.generation] ∧ a.1.placeholder.display = "" := by
  rcases retypes with ⟨kept, -⟩ | ⟨target, restarted, first⟩
  · exact .inl (congrArg Placeholder.generation kept)
  · right
    rw [restarted, first]
    exact ⟨rfl, rfl, rfl⟩

theorem length_scheduled_update_le (b : Browser) (m : Message) :
    (scheduled (b.update m).2).length ≤ 1 := by
  by_cases ticked : ∃ generation, m = .tick generation
  · obtain ⟨generation, rfl⟩ := ticked
    rw [(update_tick b generation).2]
    split
    · exact Nat.le_refl 1
    · exact Nat.zero_le 1
  · rcases retypes_update (not_exists.mp ticked) with ⟨-, silent⟩ | ⟨target, -, first⟩
    · rw [silent]
      exact Nat.zero_le 1
    · rw [first]
      exact Nat.le_refl 1

theorem generation_update (b : Browser) (m : Message) :
    (b.update m).1.placeholder.generation = b.placeholder.generation ∨
      (b.update m).1.placeholder.generation = b.placeholder.generation + 1 ∧
        scheduled (b.update m).2 = [(b.update m).1.placeholder.generation] ∧
        (b.update m).1.placeholder.display = "" := by
  by_cases ticked : ∃ generation, m = .tick generation
  · obtain ⟨generation, rfl⟩ := ticked
    left
    rw [(update_tick b generation).1]
    exact b.placeholder.generation_tick generation
  · exact (retypes_update (not_exists.mp ticked)).generation

/-- A message takes the list back to its top or leaves what is listed as it was, and never both. It
has at most one list fetched and at most one tick scheduled, and if it starts to type another text,
the tick is of the new generation. -/
theorem update_announced (b : Browser) (m : Message) :
    Xor (Returns b (b.update m)) (Stays b m (b.update m)) ∧
    (fetched (b.update m).2).length ≤ 1 ∧
    (scheduled (b.update m).2).length ≤ 1 ∧
    ((b.update m).1.placeholder.generation = b.placeholder.generation ∨
      (b.update m).1.placeholder.generation = b.placeholder.generation + 1 ∧
        scheduled (b.update m).2 = [(b.update m).1.placeholder.generation] ∧
        (b.update m).1.placeholder.display = "") := by
  refine ⟨?_, ?_, length_scheduled_update_le b m, generation_update b m⟩
  · cases h : b.recomputes m with
    | true =>
      have returns := returns_update h
      exact .inl ⟨returns, returns.not_stays⟩
    | false =>
      have stays := stays_update h
      exact .inr ⟨stays, fun returns => returns.not_stays stays⟩
  · rw [fetched_update]
    exact Option.length_toList_le

end Karaoke.Browser
