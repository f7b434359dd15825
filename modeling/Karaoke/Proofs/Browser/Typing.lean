import Karaoke.Proofs.Browser.Step
import Karaoke.Proofs.Placeholder

/-!
# What a message does to the placeholder

A message leaves the placeholder as it is or starts to type another text, and then the first tick
for that text is scheduled and no other. Only a tick reveals anything.
-/

set_option autoImplicit false

namespace Karaoke

namespace Browser

def scheduled (commands : List Command) : List Nat :=
  commands.filterMap fun
    | .scheduleTick _ generation => some generation
    | _ => none

/-- Whether an answer leaves a placeholder as it was or starts to type another text. -/
def Retypes (p : Placeholder) (a : Answer) : Prop :=
  (a.1.placeholder = p ∧ scheduled a.2 = []) ∨
    ∃ target, a.1.placeholder = p.restart target ∧ scheduled a.2 = [p.generation + 1]

@[simp] theorem scheduled_append (cs ds : List Command) :
    scheduled (cs ++ ds) = scheduled cs ++ scheduled ds :=
  List.filterMap_append

theorem scheduled_requestList (lists : Playlists) (wanted : Option String) :
    scheduled (requestList lists wanted).2 = [] := by
  apply List.filterMap_eq_nil_iff.mpr
  intro c mem
  obtain ⟨name, rfl⟩ := exists_fetchList_of_mem_requestList mem
  rfl

theorem scheduled_rechecks (b : Browser) (m : Message) : scheduled (b.rechecks m) = [] := by
  rcases rechecks_cases b m with e | ⟨-, -, e⟩ <;> rw [e] <;> rfl

theorem placeholder_received (b : Browser) (m : Message) :
    (b.received m).placeholder = b.placeholder := by
  obtain ⟨catalog, lists, query, screen, e⟩ := received_eq b m
  rw [e]

theorem retypes_suggest (b : Browser) : Retypes b.placeholder b.suggest := by
  unfold suggest
  split
  · exact .inl ⟨rfl, rfl⟩
  · exact .inr ⟨_, rfl, rfl⟩

theorem Retypes.after {p : Placeholder} {a : Answer} {cs : List Command} (retypes : Retypes p a)
    (silent : scheduled cs = []) : Retypes p (a.1, cs ++ a.2) := by
  rw [Retypes, scheduled_append, silent]
  exact retypes

theorem refresh_keeps_placeholder {b : Browser} (h : modeOf b.query = .filtered) :
    b.refresh.1.placeholder = b.placeholder ∧ scheduled b.refresh.2 = [] := by
  rw [refresh_of_filtered h]
  exact ⟨placeholder_found b, scheduled_requestList b.lists b.parsed.list⟩

theorem retypes_refresh (b : Browser) : Retypes b.placeholder b.refresh := by
  cases h : modeOf b.query with
  | idle =>
    rw [refresh_of_idle h]
    exact retypes_suggest b.drawn
  | filtered => exact .inl (refresh_keeps_placeholder h)

/-- A shuffle starts one text at most: what it recomputes starts one if everything is on view, and
what it reorders afterwards is filtered. -/
theorem retypes_shuffle (b : Browser) : Retypes b.placeholder b.shuffle := by
  rw [← placeholder_received b .shuffle]
  cases h : modeOf (b.received .shuffle).query with
  | idle =>
    rw [shuffle_of_idle h]
    exact retypes_refresh (b.received .shuffle)
  | filtered =>
    obtain ⟨kept, silent⟩ := refresh_keeps_placeholder h
    have retypes := retypes_suggest (b.received .shuffle).refresh.1.reordered
    rw [placeholder_reordered, kept] at retypes
    rw [shuffle_of_filtered h]
    exact retypes.after silent

theorem retypes_update {b : Browser} {m : Message} (untimed : ∀ generation, m ≠ .tick generation) :
    Retypes b.placeholder (b.update m) := by
  cases h : b.recomputes m with
  | true =>
    by_cases shuffled : m = .shuffle
    · subst shuffled
      exact retypes_shuffle b
    · rw [update_eq_refresh h shuffled, ← placeholder_received b m]
      exact retypes_refresh (b.received m)
  | false =>
    rcases cases_of_not_recomputes h with ⟨generation, rfl⟩ | e
    · exact absurd rfl (untimed generation)
    · rw [Retypes, e, scheduled_append, scheduled_requestList, scheduled_rechecks]
      exact .inl ⟨placeholder_received b m, rfl⟩

/-! ## Sample queries -/

/-- How many sample queries there are to be typed: one for the first song of the ranking, if it has
any. -/
def samples (b : Browser) : Nat :=
  if b.ranking.songs = [] then 0 else 1

theorem generation_suggest (b : Browser) :
    b.suggest.1.placeholder.generation = b.placeholder.generation + b.samples := by
  unfold suggest samples
  split
  · next empty => rw [if_pos empty, Nat.add_zero]
  · next s songs first =>
    have some : b.ranking.songs ≠ [] := first ▸ List.cons_ne_nil s songs
    rw [if_neg some, Placeholder.generation_restart]

theorem samples_suggest (b : Browser) : b.suggest.1.samples = b.samples := by
  obtain ⟨dice, placeholder, e⟩ := suggest_eq b
  rw [e]
  rfl

theorem generation_refresh (b : Browser) :
    b.refresh.1.placeholder.generation =
      b.placeholder.generation + if b.refresh.1.mode = .idle then b.refresh.1.samples else 0 := by
  rw [refresh_mode]
  cases h : modeOf b.query with
  | idle =>
    rw [refresh_of_idle h, generation_suggest, samples_suggest]
    rfl
  | filtered =>
    rw [refresh_of_filtered h]
    rfl

theorem generation_shuffle (b : Browser) :
    b.shuffle.1.placeholder.generation = b.placeholder.generation + b.shuffle.1.samples := by
  rw [← placeholder_received b .shuffle]
  cases h : modeOf (b.received .shuffle).query with
  | idle =>
    rw [shuffle_of_idle h, generation_refresh, refresh_mode, if_pos h]
  | filtered =>
    rw [shuffle_of_filtered h, generation_suggest, samples_suggest, placeholder_reordered,
      (refresh_keeps_placeholder h).1]

/-- A new ranking has a sample query typed if it is in a drawn order, which it is while everything
is on view and after a shuffle. -/
theorem generation_update_of_recomputes {b : Browser} {m : Message} (h : b.recomputes m = true) :
    (b.update m).1.placeholder.generation = b.placeholder.generation +
      if (b.update m).1.mode = .idle ∨ m = .shuffle then (b.update m).1.samples else 0 := by
  by_cases shuffled : m = .shuffle
  · subst shuffled
    have update : b.update .shuffle = b.shuffle := rfl
    rw [update, if_pos (.inr rfl), generation_shuffle]
  · have idle (mode : Mode) : (mode = .idle ∨ m = .shuffle) ↔ mode = .idle :=
      or_iff_left shuffled
    rw [update_eq_refresh h shuffled, ← placeholder_received b m, generation_refresh]
    simp only [idle]

theorem generation_update_of_not_recomputes {b : Browser} {m : Message}
    (h : b.recomputes m = false) :
    (b.update m).1.placeholder.generation = b.placeholder.generation := by
  rcases cases_of_not_recomputes h with ⟨generation, rfl⟩ | e
  · exact b.placeholder.generation_tick generation
  · rw [e, placeholder_received]

/-! ## Ticks -/

theorem update_tick (b : Browser) (generation : Int) :
    (b.update (.tick generation)).1.placeholder = (b.placeholder.tick generation).2 ∧
      scheduled (b.update (.tick generation)).2 =
        if (b.placeholder.tick generation).1 then [b.placeholder.generation] else [] := by
  constructor
  · rfl
  · rw [← b.placeholder.generation_tick generation]
    simp only [update, tick]
    split <;> rfl

end Browser

end Karaoke
