import Karaoke.Proofs.Traffic

/-!
# Single fetches

A list that is in progress is not fetched again, so as long as it does not change one fetch of it is
in flight while it is in progress and none otherwise. A change drops the progress and leaves the
fetch in flight, and then nothing keeps a second one from being started.
-/

set_option autoImplicit false

namespace Karaoke.Traffic

/-- Whether a fetch of a list is in flight exactly while the list is in progress, and then only
one. -/
def Single (w : Traffic) (name : String) : Prop :=
  w.inFlight name = if w.browser.lists.load name = .inProgress then 1 else 0

variable {w w' : Traffic} {e : Event} {es : List Event} {name : String}

theorem Single.le_one (single : Single w name) : w.inFlight name ≤ 1 := by
  rw [single]
  split <;> decide

theorem single_new (dice : Dice) (window : Option Int) (threshold : Option Threshold)
    (name : String) : Single { browser := .new dice window threshold } name :=
  rfl

/-- A fetch is started only of a list that is not loaded, so that none may be in flight by then. -/
theorem single_after (landed : (w.land e).inFlight name =
      if (e.news.load? name).getD (w.browser.lists.load name) = .inProgress then 1 else 0) :
    Single (w.after e) name := by
  rw [Single, inFlight_after, browser_after, Browser.load_update, landed]
  by_cases fetched : name ∈ Browser.fetched (w.browser.update e.news).2
  · have missing := (Browser.mem_fetched_update_iff.mp fetched).2
    rw [if_pos fetched, if_pos fetched, missing]
    rfl
  · rw [if_neg fetched, if_neg fetched, Nat.add_zero]

theorem Single.after (single : Single w name) (allowed : w.Allows e)
    (unchanged : e.news ≠ .listChanged name) : Single (w.after e) name := by
  apply single_after
  rcases allowed.news name with ⟨silent, same⟩ | ⟨changed, -⟩ | ⟨load, told, other, answered⟩
  · rw [silent, same]
    exact single
  · exact absurd changed unchanged
  · have le_one := single.le_one
    rw [told, Option.getD_some, if_neg other]
    omega

theorem single_change (quiet : w.inFlight name = 0) :
    Single (w.process (.listChanged name)) name := by
  have dropped : (Message.listChanged name).load? name = some .notLoaded :=
    Message.load?_eq_notLoaded_iff.mpr (.inl rfl)
  apply single_after (w := w) (e := .message (.listChanged name))
  rw [Event.news, dropped]
  exact quiet

/-- What is in flight was asked for in a search field. -/
theorem Reachable.exists_parse (reachable : Reachable w) :
    0 < w.inFlight name → ∃ query, (Query.parse query).list = some name := by
  refine reachable.preserves (P := fun w => 0 < w.inFlight name → _) (fun _ _ _ => nofun) ?_
  intro w e asked allowed flying
  rw [inFlight_after] at flying
  by_cases fetched : name ∈ Browser.fetched (w.browser.update e.news).2
  · exact ⟨_, Browser.wanted_of_asked (Browser.mem_fetched_update_iff.mp fetched).1⟩
  · rw [if_neg fetched] at flying
    apply asked
    rcases allowed.news name with ⟨-, same⟩ | ⟨-, same⟩ | ⟨_, -, -, answered⟩ <;> omega

/-- A list that changes while a fetch of it is in flight is fetched a second time when it is asked
for, at the change or by a search. -/
theorem exists_two_inFlight {query : String} (wanted : (Query.parse query).list = some name)
    (flying : 0 < w.inFlight name) :
    ∃ es w', Run (w.process (.listChanged name)) es w' ∧ .message (.listChanged name) ∉ es ∧
      1 < w'.inFlight name := by
  have change := inFlight_process (w := w) (.listChanged name) name
  by_cases fetched : name ∈ Browser.fetched (w.browser.update (.listChanged name)).2
  · refine ⟨[], _, .nil, nofun, ?_⟩
    rw [if_pos fetched] at change
    omega
  · refine ⟨[.message (.search query)], _, .cons .nil rfl, by simp, ?_⟩
    have missing : (w.process (.listChanged name)).browser.lists.load name = .notLoaded := by
      rw [process, Browser.load_update, if_neg fetched]
      simp [Message.load?]
    have again : name ∈ Browser.fetched
        ((w.process (.listChanged name)).browser.update (.search query)).2 :=
      Browser.mem_fetched_update_iff.mpr ⟨wanted, missing⟩
    have search := inFlight_after (w := w.process (.listChanged name))
      (e := .message (.search query)) name
    rw [Event.news, if_pos again, land] at search
    omega

/-- Of a list that has never changed at most one fetch is in flight. After a change this stays so,
until the next one, whatever comes in whatever order, exactly if none was in flight at the
change. -/
theorem inFlight_le_one_iff (reachable : Reachable w) (name : String) :
    (w.changed name = none → w.inFlight name ≤ 1) ∧
    ((∀ es w', Run (w.process (.listChanged name)) es w' → .message (.listChanged name) ∉ es →
        w'.inFlight name ≤ 1) ↔
      w.inFlight name = 0) := by
  constructor
  · intro unchanged
    have single : w.changed name = none → Single w name := by
      refine reachable.preserves (P := fun w => w.changed name = none → Single w name)
        (fun _ _ _ _ => single_new _ _ _ name) ?_
      intro w e single allowed unchanged
      rw [changed_after] at unchanged
      split at unchanged
      · cases unchanged
      · next other => exact (single unchanged).after allowed other
    exact (single unchanged).le_one
  · constructor
    · intro bounded
      refine Nat.eq_zero_of_not_pos fun flying => ?_
      obtain ⟨query, wanted⟩ := reachable.exists_parse flying
      obtain ⟨es, w', run, others, two⟩ := exists_two_inFlight wanted flying
      exact absurd (bounded es w' run others) (Nat.not_le_of_lt two)
    · intro quiet es w' run others
      exact (run.preserves_unchanged others (single_change quiet) Single.after).le_one

/-- A list that changes after its fetch was answered is fetched once at a time. -/
theorem inFlight_le_one_of_answered :
    let w : Traffic := { browser := .new { roll := fun _ _ => 0 } }
    let wanted := w.after (.message (.search "list:Fans"))
    let answered := wanted.after (.loaded ⟨"Fans", 0⟩ (.ofList ["a"]))
    Reachable answered ∧ wanted.inFlight "Fans" = 1 ∧ answered.inFlight "Fans" = 0 ∧
      ∀ es w', Run (answered.process (.listChanged "Fans")) es w' →
        .message (.listChanged "Fans") ∉ es → w'.inFlight "Fans" ≤ 1 := by
  intro w wanted answered
  have first : ⟨"Fans", 0⟩ ∈ wanted.flying := by decide +kernel
  have reachable : Reachable answered := ⟨_, none, none, _, .cons (.cons .nil rfl) first⟩
  have quiet : answered.inFlight "Fans" = 0 := by decide +kernel
  exact ⟨reachable, by decide +kernel, quiet,
    (inFlight_le_one_iff reachable "Fans").2.mpr quiet⟩

/-- A list changes while a fetch of it is in flight, and a second one is started. -/
theorem two_inFlight_of_change :
    let w : Traffic := { browser := .new { roll := fun _ _ => 0 } }
    let changed := (w.after (.message (.search "list:Fans"))).after
      (.message (.listChanged "Fans"))
    Reachable changed ∧ changed.flying = [⟨"Fans", 0⟩, ⟨"Fans", 1⟩] ∧
      ¬ changed.inFlight "Fans" ≤ 1 := by
  intro w changed
  exact ⟨⟨_, none, none, _, .cons (.cons .nil rfl) rfl⟩, by decide +kernel, by decide +kernel⟩

end Karaoke.Traffic
