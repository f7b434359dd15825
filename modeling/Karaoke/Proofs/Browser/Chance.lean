import Karaoke.Proofs.Browser.Changes
import Karaoke.Proofs.Browser.View

/-!
# What chance decides

Draws decide in which order songs are on view and which text is typed, and nothing else. How much is
drawn depends on what was drawn before, so that two browsers soon draw in different places, but what
they have in common does not depend on it.
-/

set_option autoImplicit false

namespace Karaoke.Browser

/-- Whether two browsers have in common what does not come from a ranking. -/
structure Agrees (b c : Browser) : Prop where
  window : b.window = c.window
  threshold : b.threshold = c.threshold
  catalog : b.catalog = c.catalog
  lists : b.lists = c.lists
  query : b.query = c.query
  mode : b.mode = c.mode
  screen : b.screen = c.screen
  shown : b.shown = c.shown

/-- Whether two browsers differ only in the order of their songs and in the text that they type, and
in the order only if it was drawn: everything is on view, or the ranking was last recomputed for a
shuffle. -/
structure Alike (b c : Browser) (last : Option Message) : Prop extends Agrees b c where
  songs : b.ranking.songs.Perm c.ranking.songs
  hidden : b.ranking.hidden = c.ranking.hidden
  ordered : b.mode = .filtered → last ≠ some .shuffle → b.ranking = c.ranking
  generation : b.placeholder.generation = c.placeholder.generation

variable {b c : Browser} {last : Option Message}

/-! ## What does not come from a ranking -/

theorem Agrees.parsed (agrees : Agrees b c) : b.parsed = c.parsed :=
  congrArg Query.parse agrees.query

theorem Agrees.search (agrees : Agrees b c) (query : String) :
    Agrees { b with query } { c with query } :=
  { agrees with query := rfl }

theorem Agrees.received (agrees : Agrees b c) (m : Message) :
    Agrees (b.received m) (c.received m) := by
  have parsed := agrees.parsed
  cases m <;> simp only [Browser.received, parsed]
  case songsLoaded => exact { agrees with catalog := rfl }
  case indexLoaded | listLoaded | listFailed | listChanged =>
    exact { agrees with lists := by simp only [agrees.lists] }
  case search | toggleVideo | toggleDuets | shuffle => exact agrees.search _
  case toggleCategories => exact { agrees with screen := by simp only [agrees.screen] }
  case selectCategory => exact { agrees with screen := rfl, query := rfl }
  all_goals exact agrees

theorem Agrees.asked (agrees : Agrees b c) (m : Message) : b.asked m = c.asked m := by
  simp only [Browser.asked, recomputes_congr agrees.parsed, (agrees.received m).parsed,
    agrees.parsed]

theorem Agrees.rechecks (agrees : Agrees b c)
    (length : b.ranking.songs.length = c.ranking.songs.length) (m : Message) :
    b.rechecks m = c.rechecks m := by
  cases m
  case scroll remaining =>
    rw [rechecks_scroll, rechecks_scroll, scroll, scroll, agrees.shown, length]
    split <;> rfl
  all_goals rfl

theorem Agrees.update (agrees : Agrees b c)
    (length : b.ranking.songs.length = c.ranking.songs.length) (m : Message) :
    Agrees (b.update m).1 (c.update m).1 := by
  have received := agrees.received m
  have recomputes := recomputes_congr agrees.parsed m
  obtain ⟨ranking, dice, placeholder, e⟩ := update_state b m
  obtain ⟨ranking', dice', placeholder', e'⟩ := update_state c m
  rw [e, e', ← recomputes, ← agrees.asked, ← agrees.rechecks length, ← received.lists,
    ← received.query, ← agrees.mode, ← agrees.window, ← agrees.shown]
  exact { received with lists := rfl, mode := rfl, shown := rfl }

theorem Agrees.withoutTicks_update (agrees : Agrees b c)
    (length : b.ranking.songs.length = c.ranking.songs.length) (m : Message) :
    withoutTicks (b.update m).2 = withoutTicks (c.update m).2 := by
  rw [Browser.withoutTicks_update, Browser.withoutTicks_update, recomputes_congr agrees.parsed,
    (agrees.received m).lists, agrees.asked, agrees.rechecks length]

/-! ## Rankings -/

theorem samples_eq_of_perm (songs : b.ranking.songs.Perm c.ranking.songs) :
    b.samples = c.samples := by
  have empty : b.ranking.songs = [] ↔ c.ranking.songs = [] := by
    rw [← List.length_eq_zero_iff, songs.length_eq, List.length_eq_zero_iff]
  simp only [samples, empty]

theorem Alike.update_of_recomputes {m : Message} (alike : Alike b c last)
    (h : b.recomputes m = true) : Alike (b.update m).1 (c.update m).1 (some m) := by
  have h' : c.recomputes m = true := (recomputes_congr alike.parsed m).symm.trans h
  have agrees := alike.toAgrees.update alike.songs.length_eq m
  have consistent := consistent_update_of_recomputes h
  have consistent' := consistent_update_of_recomputes h'
  have covers' := consistent'.covers
  rw [← agrees.lists, ← agrees.threshold, ← agrees.parsed, ← agrees.catalog] at covers'
  obtain ⟨songs, hidden⟩ := consistent.covers.unique covers'
  refine { agrees with songs, hidden, ordered := ?ordered, generation := ?generation }
  case ordered =>
    intro filtered unshuffled
    rw [consistent.ordered filtered unshuffled,
      consistent'.ordered (agrees.mode.symm.trans filtered) unshuffled, agrees.lists,
      agrees.threshold, agrees.parsed, agrees.catalog]
  case generation =>
    rw [generation_update_of_recomputes h, generation_update_of_recomputes h', alike.generation,
      agrees.mode, samples_eq_of_perm songs]

theorem Alike.update_of_not_recomputes {m : Message} (alike : Alike b c last)
    (h : b.recomputes m = false) : Alike (b.update m).1 (c.update m).1 last := by
  have h' : c.recomputes m = false := (recomputes_congr alike.parsed m).symm.trans h
  have agrees := alike.toAgrees.update alike.songs.length_eq m
  have stays := stays_update h
  have stays' := stays_update h'
  refine { agrees with
    songs := ?songs, hidden := ?hidden, ordered := ?ordered, generation := ?generation }
  case generation =>
    rw [generation_update_of_not_recomputes h, generation_update_of_not_recomputes h',
      alike.generation]
  all_goals rw [stays.ranking, stays'.ranking]
  case songs => exact alike.songs
  case hidden => exact alike.hidden
  case ordered =>
    rw [stays.mode]
    exact alike.ordered

/-! ## Runs -/

theorem alike_new (dice dice' : Dice) (window : Option Int) (threshold : Option Threshold) :
    Alike (new dice window threshold) (new dice' window threshold) none where
  window := rfl
  threshold := rfl
  catalog := rfl
  lists := rfl
  query := rfl
  mode := rfl
  screen := rfl
  shown := rfl
  songs := .refl _
  hidden := rfl
  ordered := nofun
  generation := rfl

theorem Alike.update (alike : Alike b c last) (m : Message) :
    Alike (b.update m).1 (c.update m).1 ((if b.recomputes m then some m else none).or last) := by
  cases h : b.recomputes m with
  | true => exact alike.update_of_recomputes h
  | false => exact alike.update_of_not_recomputes h

theorem Alike.run (alike : Alike b c last) (ms : List Message) :
    Alike (b.run ms) (c.run ms) ((b.lastRecompute ms).or last) := by
  induction ms generalizing b c last with
  | nil => exact alike
  | cons m ms ih =>
    rw [run_cons, run_cons, lastRecompute, Option.or_assoc]
    exact ih (alike.update m)

/-- Two browsers that draw differently and are told the same have the same catalog, query, mode,
screen and lists, reveal and hide as many songs, rank the same songs, have started as many texts and
answer every message with the same commands but for the ticks. Even the order of the songs is the
same if they are filtered, unless they were last shuffled. -/
theorem run_alike (dice dice' : Dice) (window : Option Int) (threshold : Option Threshold)
    (ms : List Message) :
    let b := (new dice window threshold).run ms
    let c := (new dice' window threshold).run ms
    (b.catalog = c.catalog ∧ b.query = c.query ∧ b.mode = c.mode ∧ b.screen = c.screen ∧
      b.lists = c.lists) ∧
    (b.shown = c.shown ∧ b.ranking.hidden = c.ranking.hidden ∧
      b.ranking.songs.Perm c.ranking.songs) ∧
    b.placeholder.generation = c.placeholder.generation ∧
    (∀ m, withoutTicks (b.update m).2 = withoutTicks (c.update m).2) ∧
    (b.mode = .filtered → (new dice window threshold).lastRecompute ms ≠ some .shuffle →
      b.ranking = c.ranking) := by
  intro b c
  have alike := (alike_new dice dice' window threshold).run ms
  rw [Option.or_none] at alike
  exact ⟨⟨alike.catalog, alike.query, alike.mode, alike.screen, alike.lists⟩,
    ⟨alike.shown, alike.hidden, alike.songs⟩, alike.generation,
    alike.toAgrees.withoutTicks_update alike.songs.length_eq, alike.ordered⟩

/-- Two songs that are drawn in either order are in one order once something is searched for. -/
theorem run_alike_drawn :
    let low : Dice := { roll := fun _ _ => 0 }
    let high : Dice := { roll := fun _ n => Fin.last n }
    let songs : List Song :=
      [{ title := "Wonderwall", artist := "Oasis", hash := "a" },
        { title := "Wannabe", artist := "Spice Girls", hash := "b" }]
    let drawn := [.songsLoaded songs]
    let found := [.songsLoaded songs, .search "wan"]
    ((new low).run drawn).ranking.songs ≠ ((new high).run drawn).ranking.songs ∧
      ((new low).run drawn).ranking.songs.Perm ((new high).run drawn).ranking.songs ∧
      ((new low).run found).mode = .filtered ∧
      (new low).lastRecompute found ≠ some .shuffle ∧
      ((new low).run found).ranking = ((new high).run found).ranking := by
  intro low high songs drawn found
  have filtered : ((new low).run found).mode = .filtered := by decide +kernel
  have searched : (new low).lastRecompute found ≠ some .shuffle := by decide +kernel
  obtain ⟨-, ⟨-, -, same⟩, -⟩ := run_alike low high none none drawn
  obtain ⟨-, -, -, -, ordered⟩ := run_alike low high none none found
  exact ⟨by decide +kernel, same, filtered, searched, ordered filtered searched⟩

end Karaoke.Browser
