import Karaoke.Proofs.Browser.Changes
import Karaoke.Proofs.Browser.View

/-!
# The window on the ranking

Every song of the catalog is in the ranking or hidden, and the first songs of the ranking are
revealed. A scroll reveals the next one and has the list looked at again, until all are revealed,
and only a new ranking hides them once more.
-/

set_option autoImplicit false

namespace Karaoke

def Message.songs? : Message → Option (List Song)
  | .songsLoaded songs => some songs
  | _ => none

/-- The songs that came last, or none. -/
def lastSongs (ms : List Message) : List Song :=
  (ms.filterMap Message.songs?).getLast?.getD []

namespace Browser

/-- Whether every song is in the ranking or hidden, none is hidden while everything is on view, and
the window is no smaller than after a search and reaches no further than the ranking otherwise. -/
structure Balanced (b : Browser) : Prop where
  total : b.ranking.songs.length + b.ranking.hidden = b.catalog.length
  idle : b.mode = .idle → b.ranking.hidden = 0
  window_le : b.window ≤ b.shown
  shown_le : b.shown ≤ max b.window b.ranking.songs.length

/-- How often the list is looked at again. -/
def scrollChecks (commands : List Command) : Nat :=
  commands.countP fun
    | .scheduleScroll _ => true
    | _ => false

def unrevealed (b : Browser) : Nat :=
  (b.ranking.songs.length - b.shown).toNat

variable {b : Browser} {m : Message}

theorem update_window (b : Browser) (m : Message) : (b.update m).1.window = b.window := by
  obtain ⟨ranking, dice, placeholder, e⟩ := update_state b m
  obtain ⟨catalog, lists, query, screen, e'⟩ := received_eq b m
  rw [e, e']

theorem run_window (b : Browser) (ms : List Message) : (b.run ms).window = b.window := by
  induction ms generalizing b with
  | nil => rfl
  | cons m ms ih => rw [run_cons, ih, update_window]

theorem update_catalog (b : Browser) (m : Message) :
    (b.update m).1.catalog = m.songs?.getD b.catalog := by
  obtain ⟨ranking, dice, placeholder, e⟩ := update_state b m
  rw [e]
  cases m <;> simp only [received, Message.songs?, Option.getD_some, Option.getD_none]

theorem run_catalog (b : Browser) (ms : List Message) :
    (b.run ms).catalog = (ms.filterMap Message.songs?).getLast?.getD b.catalog := by
  induction ms generalizing b with
  | nil => rfl
  | cons m ms ih =>
    rw [run_cons, ih, update_catalog]
    cases songs : m.songs? with
    | none => rw [List.filterMap_cons_none songs, Option.getD_none]
    | some songs' =>
      rw [List.filterMap_cons_some songs, List.getLast?_cons, Option.getD_some, Option.getD_some]

/-! ## The window -/

theorem balanced_new (dice : Dice) (window : Option Int) (threshold : Option Threshold) :
    Balanced (new dice window threshold) :=
  ⟨rfl, fun _ => rfl, Int.le_refl _, Int.le_max_left _ _⟩

theorem Consistent.balanced {last : Option Message} (consistent : Consistent b last)
    (shown : b.shown = b.window) : Balanced b where
  total := by rw [Nat.add_comm, consistent.covers.hidden_add_length]
  idle idle := by
    have empty : b.parsed = {} := parsed_of_idle (consistent.mode.symm.trans idle)
    rw [consistent.covers.hidden, empty]
    apply List.countP_eq_zero.mpr
    intro s _
    rw [Song.score?_empty]
    exact Bool.false_ne_true
  window_le := Int.le_of_eq shown.symm
  shown_le := by
    rw [shown]
    exact Int.le_max_left _ _

theorem Balanced.update (balanced : Balanced b) (m : Message) : Balanced (b.update m).1 := by
  cases h : b.recomputes m with
  | true =>
    apply (consistent_update_of_recomputes h).balanced
    rw [(returns_update h).shown, update_window]
  | false =>
    have stays := stays_update h
    have shown : (b.update m).1.shown = b.shown + (b.rechecks m).length := by
      rw [shown_update, h]
      rfl
    have window_le := balanced.window_le
    have shown_le := balanced.shown_le
    constructor
    case total =>
      rw [stays.ranking, stays.catalog]
      exact balanced.total
    case idle =>
      rw [stays.mode, stays.ranking]
      exact balanced.idle
    case window_le =>
      rw [update_window, shown]
      omega
    case shown_le =>
      rw [update_window, shown, stays.ranking]
      rcases rechecks_cases b m with none | ⟨-, more, one⟩
      · rw [none, List.length_nil]
        omega
      · rw [one, List.length_singleton]
        omega

theorem Balanced.run (balanced : Balanced b) (ms : List Message) : Balanced (b.run ms) := by
  induction ms generalizing b with
  | nil => exact balanced
  | cons m ms ih => exact ih (balanced.update m)

/-! ## Looking at the list again -/

@[simp] theorem scrollChecks_append (cs ds : List Command) :
    scrollChecks (cs ++ ds) = scrollChecks cs + scrollChecks ds :=
  List.countP_append

theorem scrollChecks_update (b : Browser) (m : Message) :
    scrollChecks (b.update m).2 = (b.rechecks m).length := by
  rw [scrollChecks, countP_update (fun _ _ => rfl) (fun _ => rfl)]
  rcases rechecks_cases b m with e | ⟨-, -, e⟩ <;> rw [e] <;> split <;> rfl

/-- Each time that the list is looked at again, one song fewer is left to be revealed. -/
theorem scrollChecks_update_add_unrevealed (h : b.recomputes m = false) :
    scrollChecks (b.update m).2 + (b.update m).1.unrevealed = b.unrevealed := by
  rw [scrollChecks_update, unrevealed, unrevealed, shown_update, h, (stays_update h).ranking]
  rcases rechecks_cases b m with none | ⟨-, more, one⟩
  · simp [none]
  · simp only [one, List.length_singleton, Bool.false_eq_true, if_false]
    omega

theorem scrollChecks_outputs_add_unrevealed {ms : List Message} (kept : b.lastRecompute ms = none) :
    scrollChecks (b.outputs ms) + (b.run ms).unrevealed = b.unrevealed := by
  induction ms generalizing b with
  | nil => exact Nat.zero_add _
  | cons m ms ih =>
    obtain ⟨later, here⟩ := Option.or_eq_none_iff.mp kept
    have first : b.recomputes m = false := by simpa using here
    have all := ih later
    have one := scrollChecks_update_add_unrevealed first
    rw [outputs, run_cons, scrollChecks_append]
    omega

/-! ## What is revealed -/

theorem view_songs (nonneg : 0 ≤ b.shown) : b.view.songs = b.ranking.songs.take b.shown.toNat :=
  reveal_of_nonneg nonneg _

/-- A scroll does nothing, or reveals the next song of the ranking and has the list looked at
again. -/
theorem view_scroll (nonneg : 0 ≤ b.shown) (remaining : Int) :
    ((b.update (.scroll remaining)).1.view.songs = b.view.songs ∧
      (b.update (.scroll remaining)).2 = []) ∨
    ∃ s, b.ranking.songs[b.view.songs.length]? = some s ∧
      (b.update (.scroll remaining)).1.view.songs = b.view.songs ++ [s] ∧
      (b.update (.scroll remaining)).2 = [.scheduleScroll scrollDelay] := by
  have scrolled : b.update (.scroll remaining) = _ := scroll_eq b remaining
  rcases rechecks_cases b (.scroll remaining) with none | ⟨-, more, one⟩
  · left
    rw [scrolled, none, List.length_nil, Int.natCast_zero, Int.add_zero]
    exact ⟨rfl, rfl⟩
  · right
    have next : b.shown.toNat < b.ranking.songs.length := by omega
    have length : b.view.songs.length = b.shown.toNat := by
      rw [view_songs nonneg, List.length_take_of_le (Nat.le_of_lt next)]
    refine ⟨b.ranking.songs[b.shown.toNat], ?_, ?_, ?_⟩
    · rw [length]
      exact List.getElem?_eq_getElem next
    · have later : (b.shown + 1).toNat = b.shown.toNat + 1 := by omega
      rw [scrolled, one, view_songs nonneg, view_songs (Int.le_add_one nonneg)]
      simp only [List.length_singleton, Int.natCast_one, later, List.take_append_getElem next]
    · rw [scrolled, one]

/-- After every message each song that came last is on view or hidden, none is hidden while the
search field is blank, and the first songs of the ranking are revealed, as many as after a search or
more. A scroll does nothing or reveals the next song and has the list looked at again, which no
other message does, so that it is looked at again no more often than there are songs outside the
first window, until the ranking is recomputed. -/
theorem view_balanced (dice : Dice) (window : Option Int) (threshold : Option Threshold)
    (positive : 1 ≤ (new dice window threshold).window) (ms : List Message) :
    let n := (new dice window threshold).window
    let b := (new dice window threshold).run ms
    b.view.visible + b.view.hidden = (lastSongs ms).length ∧
    (b.view.mode = .idle → b.view.hidden = 0) ∧
    (n ≤ b.view.shown ∧ b.view.shown ≤ max n b.view.visible) ∧
    b.view.songs = b.ranking.songs.take (min b.view.shown b.view.visible).toNat ∧
    (∀ remaining,
      ((b.update (.scroll remaining)).1.view.songs = b.view.songs ∧
        (b.update (.scroll remaining)).2 = []) ∨
      ∃ s, b.ranking.songs[b.view.songs.length]? = some s ∧
        (b.update (.scroll remaining)).1.view.songs = b.view.songs ++ [s] ∧
        (b.update (.scroll remaining)).2 = [.scheduleScroll scrollDelay]) ∧
    (∀ m, (∀ remaining, m ≠ .scroll remaining) → scrollChecks (b.update m).2 = 0) ∧
    ∀ later, b.lastRecompute later = none →
      (scrollChecks (b.outputs later) : Int) ≤ max 0 (b.view.visible - n) := by
  intro n b
  have balanced : Balanced b := (balanced_new dice window threshold).run ms
  have window : b.window = n := run_window _ ms
  have window_le : n ≤ b.shown := window ▸ balanced.window_le
  have nonneg : 0 ≤ b.shown := by omega
  refine ⟨?_, balanced.idle, ⟨window_le, window ▸ balanced.shown_le⟩, ?_, view_scroll nonneg, ?_,
    ?_⟩
  · have catalog : b.catalog = lastSongs ms := run_catalog _ ms
    rw [← catalog]
    exact balanced.total
  · have least : (min b.shown b.ranking.songs.length).toNat =
        min b.shown.toNat b.ranking.songs.length := by omega
    rw [view_songs nonneg, List.take_eq_take_min, ← least]
    rfl
  · intro m unscrolled
    rw [scrollChecks_update, rechecks_of_unscrolled unscrolled, List.length_nil]
  · intro later kept
    have all := scrollChecks_outputs_add_unrevealed kept
    have visible : b.view.visible = b.ranking.songs.length := rfl
    simp only [unrevealed] at all
    omega

/-- One of two songs is revealed at first. A scroll reveals the other, and the next ones do nothing,
however far down the list is. -/
theorem view_balanced_scrolled :
    let dice : Dice := { roll := fun _ _ => 0 }
    let songs : List Song :=
      [{ title := "Wonderwall", artist := "Oasis", hash := "a" },
        { title := "Wannabe", artist := "Spice Girls", hash := "b" }]
    let b := (new dice (some 1)).run [.songsLoaded songs, .scroll 0]
    1 ≤ (new dice (some 1)).window ∧ b.view.visible + b.view.hidden = 2 ∧
      b.view.songs = b.ranking.songs.take (min b.view.shown b.view.visible).toNat ∧
      b.view.songs.length = 2 ∧
      scrollChecks (((new dice (some 1)).run [.songsLoaded songs]).outputs
        [.scroll 0, .tick 1, .scroll (-1000), .scroll 0]) = 1 := by
  intro dice songs b
  have positive : 1 ≤ (new dice (some 1)).window := Int.le_refl 1
  obtain ⟨total, -, -, revealed, -⟩ :=
    view_balanced dice (some 1) none positive [.songsLoaded songs, .scroll 0]
  exact ⟨positive, total, revealed, by decide +kernel, by decide +kernel⟩

end Browser

end Karaoke
