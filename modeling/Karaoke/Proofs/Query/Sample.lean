import Karaoke.Proofs.Fuzzy.Subsequence
import Karaoke.Proofs.Ranking.Narrowing
import Karaoke.Proofs.Text.Words
import Karaoke.Query.Sample
import Mathlib.Data.List.ReduceOption

/-!
# What a sample query says of its song

A sample has one term, a text of the song with or without its blanks, and may add the first word of
one detail. All characters of the term are found in order, and a detail begins with its first word,
so that no sample hides the song that it was drawn for.
-/

set_option autoImplicit false

namespace Karaoke

open Text

/-! ## Texts without their blanks -/

/-- The spaces include the blanks, so nothing more is lost if these are left out first. -/
theorem Text.squeeze_flatten_words (cs : List Char) : squeeze (words cs).flatten = squeeze cs := by
  rw [flatten_words, squeeze, squeeze, List.filter_filter]
  apply List.filter_congr
  intro c _
  cases blank : isBlank c with
  | false => simp
  | true => simp [isSpace_of_isBlank blank]

namespace Query

variable {text word : String}

theorem toList_joined (text : String) : (joined text).toList = text.toList.filter (!isBlank ·) := by
  rw [joined, String.toList_ofList, flatten_words]

theorem joined_sublist (text : String) : (joined text).toList.Sublist text.toList := by
  rw [toList_joined]
  exact List.filter_sublist

theorem firstWord?_eq_some_iff :
    firstWord? text = some word ↔ ∃ others, words text.toList = word.toList :: others := by
  rw [firstWord?, Option.map_eq_some_iff]
  constructor
  · rintro ⟨w, first, rfl⟩
    obtain ⟨others, parted⟩ := List.head?_eq_some_iff.mp first
    exact ⟨others, by rw [parted, String.toList_ofList]⟩
  · rintro ⟨others, parted⟩
    exact ⟨word.toList, by rw [parted]; rfl, String.ofList_toList⟩

theorem suffices_of_firstWord? (t : Threshold) (first : firstWord? text = some word) :
    t.Suffices word text := by
  obtain ⟨others, parted⟩ := firstWord?_eq_some_iff.mp first
  have begins : squeeze word.toList <+: squeeze text.toList := by
    rw [← squeeze_flatten_words text.toList, parted, List.flatten_cons, squeeze, squeeze,
      List.filter_append]
    exact List.prefix_append _ _
  have full : Threshold.full.Suffices word text := begins.map fold
  exact full.weaken (.inr rfl)

end Query

/-! ## Terms and details of a song -/

namespace Song

open Query (Detail)

variable {s : Song} {q : Query}

theorem two_mul_length_le_termScore {term text : String}
    (embedded : term.toList.Sublist text.toList) :
    2 * term.length ≤ termScore (some term) text := by
  have found := Fuzzy.two_mul_length_le_score (embedded.map fold)
  rwa [String.length_toList] at found

theorem termScore_le_freeScore (q : Query) (s : Song) :
    termScore q.plain s.title ≤ s.freeScore q ∧ termScore q.plain s.artist ≤ s.freeScore q ∧
      termScore q.title s.title ≤ s.freeScore q ∧ termScore q.artist s.artist ≤ s.freeScore q := by
  unfold freeScore
  omega

theorem freeScore_withDetail (word : String) (f : Detail) :
    s.freeScore (q.withDetail word f) = s.freeScore q := by
  cases f <;> rfl

theorem Meets.withDetail {lists : Playlists} {t : Threshold} {f : Detail} {word : String}
    (meets : s.Meets lists t q) (found : ∃ actual ∈ f.of s, t.Suffices word actual) :
    s.Meets lists t (q.withDetail word f) := by
  cases f with
  | language => exact { meets with language := by rintro _ ⟨⟩; exact found }
  | genre => exact { meets with genre := by rintro _ ⟨⟩; exact found }
  | year => exact { meets with year := by rintro _ ⟨⟩; exact found }

end Song

/-! ## The samples of a song -/

namespace Query

variable {s : Song} {q : Query}

theorem mem_details_iff {f : Detail} {word : String} :
    (f, word) ∈ details s ↔ ∃ text, f.of s = some text ∧ firstWord? text = some word := by
  have known : f ∈ Detail.all := by cases f <;> decide
  simp only [details, List.mem_filterMap, Option.map_eq_some_iff, Option.bind_eq_some_iff]
  constructor
  · rintro ⟨_, -, _, found, same⟩
    cases same
    exact found
  · intro found
    exact ⟨f, known, word, found, rfl⟩

/-- The queries that can be drawn for a song. -/
inductive Describes (s : Song) : Query → Prop
  | opening (n : Fin 4) : Describes s (opening s n)
  | detailed (n : Fin 4) {f : Detail} {word : String} :
    (f, word) ∈ details s → Describes s ((opening s n).withDetail word f)

theorem describes_sample (s : Song) (d : Dice) : Describes s (sample s d).1 := by
  unfold sample
  dsimp only
  split
  · exact .opening _
  · next first others all =>
    split
    · exact .opening _
    · apply Describes.detailed
      rw [all]
      exact List.get_mem _ _

theorem exists_sample_eq (describes : Describes s q) : ∃ d, (sample s d).1 = q := by
  cases describes with
  | opening n =>
    let d : Dice := { roll := fun asked m => Fin.ofNat (m + 1) ([n.val].getD asked.length 0) }
    refine ⟨d, ?_⟩
    have first : (d.draw 3).1 = n := by simp [d, Dice.draw]
    have second : ((d.draw 3).2.draw 1).1 = 0 := by simp [d, Dice.draw]
    simp only [sample, first, second]
    cases details s <;> simp
  | @detailed n f word mem =>
    obtain ⟨i, bound, at_i⟩ := List.mem_iff_getElem.mp mem
    let d : Dice := { roll := fun asked m => Fin.ofNat (m + 1) ([n.val, 1, i].getD asked.length 0) }
    refine ⟨d, ?_⟩
    have first : (d.draw 3).1 = n := by simp [d, Dice.draw]
    have second : ((d.draw 3).2.draw 1).1 = 1 := by simp [d, Dice.draw]
    have third (m : Nat) : ((((d.draw 3).2.draw 1).2.draw m).1 : Nat) = i % (m + 1) := rfl
    have added : (1 : Fin (1 + 1)) ≠ 0 := by decide
    simp only [sample, first, second]
    revert bound at_i
    cases details s with
    | nil => nofun
    | cons e others =>
      intro bound at_i
      rw [List.length_cons] at bound
      simp only [if_neg added, List.get_eq_getElem, third, Nat.mod_eq_of_lt bound, at_i]

theorem opening_eq (s : Song) (n : Fin 4) :
    ∃ plain title artist, opening s n = { plain, title, artist } :=
  match n with
  | 0 | 1 | 2 | 3 => ⟨_, _, _, rfl⟩

theorem meets_opening (s : Song) (n : Fin 4) (lists : Playlists) (t : Threshold) :
    s.Meets lists t (opening s n) := by
  obtain ⟨plain, title, artist, same⟩ := opening_eq s n
  rw [same]
  constructor <;> nofun

theorem exists_term_opening (s : Song) (n : Fin 4) :
    ∃ term, [(opening s n).plain, (opening s n).title, (opening s n).artist].reduceOption = [term] ∧
      2 * term.length ≤ s.freeScore (opening s n) := by
  have least := Song.termScore_le_freeScore (opening s n) s
  match n with
  | 0 =>
    have found := Song.two_mul_length_le_termScore (.refl s.title.toList)
    exact ⟨s.title, rfl, found.trans least.1⟩
  | 1 =>
    have found := Song.two_mul_length_le_termScore (.refl s.artist.toList)
    exact ⟨s.artist, rfl, found.trans least.2.1⟩
  | 2 =>
    have found := Song.two_mul_length_le_termScore (joined_sublist s.title)
    exact ⟨joined s.title, rfl, found.trans least.2.2.1⟩
  | 3 =>
    have found := Song.two_mul_length_le_termScore (joined_sublist s.artist)
    exact ⟨joined s.artist, rfl, found.trans least.2.2.2⟩

namespace Describes

theorem filters (describes : Describes s q) :
    q.duet = none ∧ q.video = none ∧ q.list = none ∧
      [q.language, q.genre, q.year].reduceOption.length ≤ 1 := by
  cases describes with
  | opening n =>
    obtain ⟨plain, title, artist, same⟩ := opening_eq s n
    rw [same]
    exact ⟨rfl, rfl, rfl, Nat.zero_le 1⟩
  | @detailed n f word mem =>
    obtain ⟨plain, title, artist, same⟩ := opening_eq s n
    rw [same]
    cases f <;> exact ⟨rfl, rfl, rfl, Nat.le_refl 1⟩

theorem exists_term (describes : Describes s q) :
    ∃ term, [q.plain, q.title, q.artist].reduceOption = [term] ∧
      2 * term.length ≤ s.freeScore q := by
  cases describes with
  | opening n => exact exists_term_opening s n
  | @detailed n f word mem =>
    rw [Song.freeScore_withDetail]
    cases f <;> exact exists_term_opening s n

theorem meets (describes : Describes s q) (lists : Playlists) (t : Threshold) :
    s.Meets lists t q := by
  cases describes with
  | opening n => exact meets_opening s n lists t
  | detailed n mem =>
    obtain ⟨text, has, first⟩ := mem_details_iff.mp mem
    exact (meets_opening s n lists t).withDetail ⟨text, has, suffices_of_firstWord? t first⟩

end Describes

/-- A sample asks for exactly one term and at most one detail, and for nothing else. It never hides
its song, which gets at least two points for each character of the term. -/
theorem sample_describes (s : Song) (d : Dice) :
    let q := (sample s d).1
    q.duet = none ∧ q.video = none ∧ q.list = none ∧
      [q.language, q.genre, q.year].reduceOption.length ≤ 1 ∧
      ∃ term, [q.plain, q.title, q.artist].reduceOption = [term] ∧
        ∀ lists t, ∃ score ∈ s.score? lists t q, 2 * term.length ≤ score := by
  intro q
  have describes : Describes s q := describes_sample s d
  obtain ⟨duet, video, list, details⟩ := describes.filters
  obtain ⟨term, only, enough⟩ := describes.exists_term
  refine ⟨duet, video, list, details, term, only, ?_⟩
  intro lists t
  have passes : s.passes lists t q = true := Song.passes_iff.mpr (describes.meets lists t)
  exact ⟨s.freeScore q, if_pos passes, enough⟩

end Query

end Karaoke
