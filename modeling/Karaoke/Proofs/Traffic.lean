import Karaoke.Proofs.Browser.Lists

/-!
# Traffic

A browser among the fetches of lists that it has started. Each fetch is in flight until it is
answered, at most once, and answers come in any order, between any other messages.
-/

set_option autoImplicit false

namespace Karaoke

/-- Whether a message is the answer to a fetch of a list. -/
def Message.isAnswer : Message → Bool
  | .listLoaded _ _ | .listFailed _ _ => true
  | _ => false

/-- A fetch of a list, known by the number of messages processed before the one it was started
for. -/
structure Fetch where
  name : String
  issued : Nat
  deriving DecidableEq, Repr

structure Traffic where
  browser : Browser
  /-- How many messages were processed. -/
  processed : Nat := 0
  flying : List Fetch := []
  /-- The fetches that have succeeded, with the members that came. -/
  answered : List (Fetch × NameSet) := []
  /-- How many messages were processed before a list changed for the last time. -/
  changed : String → Option Nat := fun _ => none

namespace Traffic

/-- What may come next: a message that is no answer, or an answer. -/
inductive Event where
  | message (m : Message)
  | loaded (f : Fetch) (members : NameSet)
  | failed (f : Fetch) (error : String)
  deriving DecidableEq

/-- The message that an event brings. -/
def Event.news : Event → Message
  | message m => m
  | loaded f members => .listLoaded f.name members
  | failed f error => .listFailed f.name error

/-- Processes a message and puts the fetches that it starts in flight. -/
def process (w : Traffic) (m : Message) : Traffic where
  browser := (w.browser.update m).1
  processed := w.processed + 1
  flying := w.flying ++ (Browser.fetched (w.browser.update m).2).map (⟨·, w.processed⟩)
  answered := w.answered
  changed name := if m = .listChanged name then some w.processed else w.changed name

/-- An answered fetch is no longer in flight. -/
def land (w : Traffic) : Event → Traffic
  | .message _ => w
  | .loaded f members =>
    { w with flying := w.flying.erase f, answered := (f, members) :: w.answered }
  | .failed f _ => { w with flying := w.flying.erase f }

def after (w : Traffic) (e : Event) : Traffic :=
  (w.land e).process e.news

/-- Only a fetch in flight is answered. -/
def Allows (w : Traffic) : Event → Prop
  | .message m => m.isAnswer = false
  | .loaded f _ | .failed f _ => f ∈ w.flying

/-- The events of a run lead from one state to another, the latest event first. -/
inductive Run (w : Traffic) : List Event → Traffic → Prop
  | nil : Run w [] w
  | cons {es : List Event} {w' : Traffic} {e : Event} :
    Run w es w' → w'.Allows e → Run w (e :: es) (w'.after e)

/-- Whether a state is reached from a new browser. -/
def Reachable (w : Traffic) : Prop :=
  ∃ dice window threshold es, Run { browser := .new dice window threshold } es w

/-- How many fetches of a list are in flight. -/
def inFlight (w : Traffic) (name : String) : Nat :=
  w.flying.countP (·.name = name)

variable {w w' : Traffic} {e : Event} {es : List Event}

/-- What every event preserves is preserved by a run. -/
theorem Run.preserves {P : Traffic → Prop} (run : Run w es w') (start : P w)
    (step : ∀ {w e}, P w → w.Allows e → P (w.after e)) : P w' := by
  induction run with
  | nil => exact start
  | cons _ allowed ih => exact step ih allowed

/-- A list changes by a message of its own, so in a run without one every event leaves it. -/
theorem Run.preserves_unchanged {P : Traffic → Prop} {name : String} (run : Run w es w')
    (unchanged : .message (.listChanged name) ∉ es) (start : P w)
    (step : ∀ {w e}, P w → w.Allows e → e.news ≠ .listChanged name → P (w.after e)) : P w' := by
  induction run with
  | nil => exact start
  | @cons es w' e _ allowed ih =>
    have other : e.news ≠ .listChanged name := by
      rintro news
      cases e with
      | message m => exact unchanged (news ▸ List.mem_cons_self)
      | loaded | failed => cases news
    exact step (ih fun h => unchanged (List.mem_cons_of_mem _ h)) allowed other

theorem Reachable.preserves {P : Traffic → Prop} (reachable : Reachable w)
    (new : ∀ dice window threshold, P { browser := .new dice window threshold })
    (step : ∀ {w e}, P w → w.Allows e → P (w.after e)) : P w := by
  obtain ⟨dice, window, threshold, es, run⟩ := reachable
  exact run.preserves (new dice window threshold) step

/-! ## One event -/

@[simp] theorem browser_after : (w.after e).browser = (w.browser.update e.news).1 := by
  cases e <;> rfl

@[simp] theorem processed_land : (w.land e).processed = w.processed := by
  cases e <;> rfl

@[simp] theorem processed_after : (w.after e).processed = w.processed + 1 := by
  rw [after, process, processed_land]

theorem changed_after (name : String) : (w.after e).changed name =
    if e.news = .listChanged name then some w.processed else w.changed name := by
  cases e <;> rfl

theorem flying_land_subset : (w.land e).flying ⊆ w.flying := by
  cases e with
  | message m => exact List.Subset.refl _
  | loaded f members => exact List.erase_subset
  | failed f error => exact List.erase_subset

theorem mem_answered_after {f : Fetch} {members : NameSet} :
    (f, members) ∈ (w.after e).answered ↔ e = .loaded f members ∨ (f, members) ∈ w.answered := by
  have land : (w.after e).answered = (w.land e).answered := rfl
  rw [land]
  cases e <;> simp [Traffic.land, eq_comm]

/-- A fetch in flight was in flight before or is started for the last message. -/
theorem mem_flying_process {m : Message} {f : Fetch} (h : f ∈ (w.process m).flying) :
    f ∈ w.flying ∨ f.issued = w.processed := by
  rcases List.mem_append.mp h with h | h
  · exact .inl h
  · obtain ⟨name, -, rfl⟩ := List.mem_map.mp h
    exact .inr rfl

theorem mem_flying_after {f : Fetch} (h : f ∈ (w.after e).flying) :
    f ∈ w.flying ∨ f.issued = w.processed := by
  rcases mem_flying_process h with h | h
  · exact .inl (flying_land_subset h)
  · exact .inr (h.trans processed_land)

theorem flying_subset_process (m : Message) : w.flying ⊆ (w.process m).flying :=
  List.subset_append_left _ _

/-- Only a fetch in flight is ever loaded, and no other message brings members. -/
theorem eq_loaded_of_news {name : String} {members : NameSet} (allowed : w.Allows e)
    (h : e.news = .listLoaded name members) :
    ∃ f ∈ w.flying, f.name = name ∧ e = .loaded f members := by
  cases e with
  | message m =>
    subst h
    exact absurd allowed Bool.noConfusion
  | loaded f members' =>
    injection h with hn hm
    exact ⟨f, allowed, hn, by rw [hm]⟩
  | failed f error => cases h

/-! ## Fetches in flight -/

@[simp] theorem browser_land : (w.land e).browser = w.browser := by
  cases e <;> rfl

theorem inFlight_process (m : Message) (name : String) : (w.process m).inFlight name =
    w.inFlight name + if name ∈ Browser.fetched (w.browser.update m).2 then 1 else 0 := by
  rw [← Browser.count_fetched_update, inFlight, process, List.countP_append, List.countP_map,
    List.count]
  rfl

theorem inFlight_after (name : String) : (w.after e).inFlight name = (w.land e).inFlight name +
    if name ∈ Browser.fetched (w.browser.update e.news).2 then 1 else 0 := by
  rw [after, inFlight_process, browser_land]

/-- A fetch that lands leaves the others in flight. -/
theorem countP_erase_flying {f : Fetch} (flying : f ∈ w.flying) (name : String) :
    (w.flying.erase f).countP (·.name = name) + (if f.name = name then 1 else 0) =
      w.inFlight name := by
  rw [inFlight, (List.perm_cons_erase flying).countP_eq, List.countP_cons]
  simp

/-- An event says nothing of a list, or tells that it has changed, or answers a fetch of it. -/
theorem Allows.news (allowed : w.Allows e) (name : String) :
    (e.news.load? name = none ∧ (w.land e).inFlight name = w.inFlight name) ∨
    (e.news = .listChanged name ∧ (w.land e).inFlight name = w.inFlight name) ∨
    ∃ load, e.news.load? name = some load ∧ load ≠ .inProgress ∧
      (w.land e).inFlight name + 1 = w.inFlight name := by
  cases e with
  | message m =>
    cases m
    case listLoaded | listFailed => exact absurd allowed Bool.noConfusion
    case listChanged other =>
      by_cases mine : name = other
      · exact .inr (.inl ⟨by rw [mine]; rfl, rfl⟩)
      · exact .inl ⟨by simp [Event.news, Message.load?, mine], rfl⟩
    all_goals exact .inl ⟨rfl, rfl⟩
  | loaded f members =>
    have landed := countP_erase_flying allowed name
    by_cases mine : f.name = name
    · rw [if_pos mine] at landed
      exact .inr (.inr ⟨.loaded members, by simp [Event.news, Message.load?, mine], by simp, landed⟩)
    · rw [if_neg mine] at landed
      exact .inl ⟨by simp [Event.news, Message.load?, Ne.symm mine], landed⟩
  | failed f error =>
    have landed := countP_erase_flying allowed name
    by_cases mine : f.name = name
    · rw [if_pos mine] at landed
      exact .inr (.inr ⟨.notLoaded, by simp [Event.news, Message.load?, mine], by simp, landed⟩)
    · rw [if_neg mine] at landed
      exact .inl ⟨by simp [Event.news, Message.load?, Ne.symm mine], landed⟩

/-! ## Time -/

/-- Whether every fetch was started for a message that was processed. -/
structure Timely (w : Traffic) : Prop where
  flying : ∀ f ∈ w.flying, f.issued < w.processed
  answered : ∀ f members, (f, members) ∈ w.answered → f.issued < w.processed

theorem timely_new (b : Browser) : Timely { browser := b } :=
  ⟨nofun, nofun⟩

theorem Timely.after (timely : Timely w) (allowed : w.Allows e) : Timely (w.after e) where
  flying f hf := by
    rw [processed_after]
    rcases mem_flying_after hf with hf | hf
    · exact Nat.lt_succ_of_lt (timely.flying f hf)
    · exact Nat.lt_succ_of_le (Nat.le_of_eq hf)
  answered f members hf := by
    rw [processed_after]
    rcases mem_answered_after.mp hf with rfl | hf
    · exact Nat.lt_succ_of_lt (timely.flying f allowed)
    · exact Nat.lt_succ_of_lt (timely.answered f members hf)

theorem Reachable.timely (h : Reachable w) : Timely w :=
  h.preserves (fun _ _ _ => timely_new _) Timely.after

end Traffic

end Karaoke
