import Karaoke.Proofs.Traffic

/-!
# Fresh lists

The members of a list are fresh if they came for a fetch that was started since the list last
changed. An answer tells the name of its list and not when it was asked for, so a list that
changes while a fetch of it is in flight can be left with members from before.
-/

set_option autoImplicit false

namespace Karaoke.Traffic

/-- Whether the members came for a fetch that was started since the list last changed. -/
def Fresh (w : Traffic) (name : String) (members : NameSet) : Prop :=
  ∃ f, (f, members) ∈ w.answered ∧ f.name = name ∧ ∀ t, w.changed name = some t → t ≤ f.issued

/-- Whether a list is not loaded or has fresh members. -/
def NoStale (w : Traffic) (name : String) : Prop :=
  ∀ members, w.browser.lists.load name = .loaded members → w.Fresh name members

/-- Whether nothing is known of a list, or on its way, from before a message. -/
structure Current (w : Traffic) (name : String) (since : Nat) : Prop where
  processed : since ≤ w.processed
  flying : ∀ f ∈ w.flying, f.name = name → since ≤ f.issued
  loaded : ∀ members, w.browser.lists.load name = .loaded members →
    ∃ f, (f, members) ∈ w.answered ∧ f.name = name ∧ since ≤ f.issued

variable {w w' : Traffic} {e : Event} {es : List Event} {name : String} {since : Nat}

theorem current_new (dice : Dice) (window : Option Int) (threshold : Option Threshold)
    (name : String) : Current { browser := .new dice window threshold } name 0 :=
  ⟨Nat.zero_le _, nofun, nofun⟩

theorem Current.after (current : Current w name since) (allowed : w.Allows e) :
    Current (w.after e) name since where
  processed := by
    rw [processed_after]
    exact Nat.le_succ_of_le current.processed
  flying f hf hn := by
    rcases mem_flying_after hf with hf | hf
    · exact current.flying f hf hn
    · exact hf ▸ current.processed
  loaded members h := by
    rw [browser_after] at h
    rcases Browser.loaded_update h with news | h
    · obtain ⟨f, hf, hn, rfl⟩ := eq_loaded_of_news allowed news
      exact ⟨f, mem_answered_after.mpr (.inl rfl), hn, current.flying f hf hn⟩
    · obtain ⟨f, hf, hn, issued⟩ := current.loaded members h
      exact ⟨f, mem_answered_after.mpr (.inr hf), hn, issued⟩

theorem Current.run (current : Current w name since) (h : Run w es w') :
    Current w' name since :=
  h.preserves current Current.after

/-- A change leaves nothing from before it if no fetch of the list is in flight. -/
theorem current_change (quiet : ∀ f ∈ w.flying, f.name ≠ name) :
    Current (w.process (.listChanged name)) name w.processed where
  processed := Nat.le_succ _
  flying f hf hn := by
    rcases mem_flying_process hf with hf | hf
    · exact absurd hn (quiet f hf)
    · exact Nat.le_of_eq hf.symm
  loaded members h := absurd h (Browser.load_update_listChanged_ne w.browser name members)

theorem Run.changed_eq (h : Run w es w') (unchanged : .message (.listChanged name) ∉ es) :
    w'.changed name = w.changed name := by
  refine h.preserves_unchanged (P := fun v => v.changed name = w.changed name) unchanged rfl ?_
  intro v e same _ other
  rw [changed_after, if_neg other, same]

theorem Current.noStale (current : Current w name since)
    (changed : ∀ t, w.changed name = some t → t = since) : NoStale w name := by
  intro members h
  obtain ⟨f, hf, hn, issued⟩ := current.loaded members h
  exact ⟨f, hf, hn, fun t ht => changed t ht ▸ issued⟩

/-- A fetch that is in flight when its list changes may bring members from before the change. -/
theorem stale_of_flying (timely : Timely w) {f : Fetch} (flying : f ∈ w.flying)
    (members : NameSet) :
    ¬ ((w.process (.listChanged f.name)).after (.loaded f members)).NoStale f.name := by
  intro fresh
  have loaded : ((w.process (.listChanged f.name)).after (.loaded f members)).browser.lists.load
      f.name = .loaded members := by
    rw [browser_after, Event.news, Browser.load_update_listLoaded]
  obtain ⟨g, answered, -, issued⟩ := fresh members loaded
  have since : w.processed ≤ g.issued := issued w.processed (if_pos rfl)
  have before : g.issued < w.processed := by
    rcases mem_answered_after.mp answered with e | answered
    · injection e with hg
      exact hg ▸ timely.flying f flying
    · exact timely.answered g members answered
  omega

/-- A list that has never changed is fresh if it is loaded. After a change it is, until the next
one, whatever comes in whatever order, exactly if no fetch of it was in flight at the change. -/
theorem noStale_iff (reachable : Reachable w) (name : String) :
    (w.changed name = none → w.NoStale name) ∧
    ((∀ es w', Run (w.process (.listChanged name)) es w' → .message (.listChanged name) ∉ es →
        w'.NoStale name) ↔
      ∀ f ∈ w.flying, f.name ≠ name) := by
  constructor
  · intro unchanged
    have current : Current w name 0 :=
      reachable.preserves (fun _ _ _ => current_new _ _ _ name) Current.after
    exact current.noStale (by simp [unchanged])
  · constructor
    · rintro fresh f flying rfl
      -- The shortest run that goes wrong answers the fetch right after the change.
      apply stale_of_flying reachable.timely flying default
      apply fresh [.loaded f default]
      · exact .cons .nil (flying_subset_process _ flying)
      · nofun
    · intro quiet es w' run others
      have now : (w.process (.listChanged name)).changed name = some w.processed := if_pos rfl
      apply ((current_change quiet).run run).noStale
      intro t ht
      rw [run.changed_eq others, now] at ht
      exact (Option.some.inj ht).symm

/-- A list that changes after its fetch was answered is never stale. -/
theorem noStale_of_answered :
    let w : Traffic := { browser := .new { roll := fun _ _ => 0 } }
    let wanted := w.after (.message (.search "list:Fans"))
    let answered := wanted.after (.loaded ⟨"Fans", 0⟩ (.ofList ["a"]))
    Reachable answered ∧ ∀ es w', Run (answered.process (.listChanged "Fans")) es w' →
      .message (.listChanged "Fans") ∉ es → w'.NoStale "Fans" := by
  intro w wanted answered
  have first : ⟨"Fans", 0⟩ ∈ wanted.flying := by decide +kernel
  have reachable : Reachable answered := ⟨_, none, none, _, .cons (.cons .nil rfl) first⟩
  exact ⟨reachable, (noStale_iff reachable "Fans").2.mpr (by decide +kernel)⟩

/-- A list changes while a fetch of it is in flight, is fetched again, and the first fetch is
answered last: the members from before the change remain. -/
theorem stale_of_late_answer :
    let w : Traffic := { browser := .new { roll := fun _ _ => 0 } }
    let wanted := w.after (.message (.search "list:Fans"))
    let changed := wanted.after (.message (.listChanged "Fans"))
    let fresh := changed.after (.loaded ⟨"Fans", 1⟩ (.ofList ["a", "b"]))
    let stale := fresh.after (.loaded ⟨"Fans", 0⟩ (.ofList ["a"]))
    Reachable stale ∧ stale.flying = [] ∧
      stale.browser.lists.load "Fans" = .loaded (.ofList ["a"]) ∧
      ¬ stale.Fresh "Fans" (.ofList ["a"]) := by
  intro w wanted changed fresh stale
  have second : ⟨"Fans", 1⟩ ∈ changed.flying := by decide +kernel
  have first : ⟨"Fans", 0⟩ ∈ fresh.flying := by decide +kernel
  refine ⟨⟨_, none, none, _, .cons (.cons (.cons (.cons .nil rfl) rfl) second) first⟩,
    by decide +kernel, by decide +kernel, ?_⟩
  rintro ⟨f, answered, -, issued⟩
  have since : 1 ≤ f.issued := issued 1 (by decide +kernel)
  have before : ∀ a ∈ stale.answered, a.2 = .ofList ["a"] → a.1.issued = 0 := by decide +kernel
  rw [before _ answered rfl] at since
  exact Nat.not_succ_le_zero 0 since

end Karaoke.Traffic
