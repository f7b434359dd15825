import Karaoke.Browser.Update
import Karaoke.Proofs.Query.RoundTrip
import Karaoke.Proofs.Query.Sample

/-!
# Typing a sample query

A written query has its free text as it is, so that a token in the free text is read as a filter.
What is read back is the query, with what its free text reads as below it. A sample that is typed
thus finds its song exactly if the song meets the filters in the text of its own title or artist.
-/

set_option autoImplicit false

namespace Karaoke

open Text

namespace Query

variable {s : Song} {q : Query}

/-- A query with another one below it, which gives the free text and every field that is not
set. -/
def atop (q r : Query) : Query where
  plain := r.plain
  title := q.title.or r.title
  artist := q.artist.or r.artist
  duet := q.duet.or r.duet
  video := q.video.or r.video
  language := q.language.or r.language
  genre := q.genre.or r.genre
  year := q.year.or r.year
  list := q.list.or r.list

/-- Whether no blank cuts the value of a field. -/
def Uncut (q : Query) : Prop :=
  ∀ v, some v ∈ [q.title, q.artist, q.language, q.genre, q.year, q.list] → IsUncut v

theorem atop_empty (wordless : q.plain = none) : q.atop {} = q := by
  obtain ⟨p, title, artist, duet, video, language, genre, year, list⟩ := q
  obtain rfl : p = none := wordless
  simp only [atop, Option.or_none]

/-! ## What is read back -/

theorem wanted_append (ts us : List Token) (k : Key) :
    wanted (ts ++ us) k = (wanted us k).or (wanted ts k) := by
  rw [wanted, List.filterMap_append, List.getLast?_append]
  rfl

/-- The free text is read as if it were typed alone. A field that is set comes behind it, and
overrides what it asks for. -/
theorem Uncut.parse_format (uncut : q.Uncut) :
    parse q.format = q.atop (parse (q.plain.getD "")) := by
  have canonical : Canonical { q with plain := none } := ⟨nofun, uncut⟩
  have fields : q.fieldTokens.flatMap words = q.fieldTokens := canonical.words_fieldTokens
  have tokens : words q.format.toList = words (q.plain.getD "").toList ++ q.fieldTokens := by
    rw [words_format, fields]
    cases q.plain <;> simp
  have free : freeText (words q.format.toList) = freeText (words (q.plain.getD "").toList) := by
    rw [tokens, freeText_append, freeText_fieldTokens, List.append_nil]
  have asked (k : Key) : wanted (words q.format.toList) k =
      (q.value? k).or (wanted (words (q.plain.getD "").toList) k) := by
    rw [tokens, wanted_append, wanted_fieldTokens]
  have text (o : Option String) (o' : Option (List Char)) :
      ((o.map String.toList).or o').map String.ofList = o.or (o'.map String.ofList) := by
    cases o <;> simp
  have flag (o : Option Bool) (o' : Option (List Char)) :
      ((o.map flagText).or o').bind flag? = o.or (o'.bind flag?) := by
    cases o <;> simp
  simp only [parse, ofTokens, atop, free, asked, value?, text, flag]

theorem parse_of_colon_notMem {raw : String} (keyless : ':' ∉ raw.toList) :
    ∃ plain, parse raw = { plain } := by
  have words_keyless : ∀ w ∈ words raw.toList, ':' ∉ w := by
    intro w mem colon
    have kept : ':' ∈ (words raw.toList).flatten := List.mem_flatten_of_mem mem colon
    rw [flatten_words] at kept
    exact keyless (List.mem_of_mem_filter kept)
  have silent (k : Key) : wanted (words raw.toList) k = none := by
    have alone := wanted_append_of_notMem words_keyless [] k
    rwa [List.append_nil] at alone
  refine ⟨(parse raw).plain, ?_⟩
  simp [parse, ofTokens, silent]

/-! ## Samples -/

theorem isUncut_joined (text : String) : IsUncut (joined text) := by
  intro c mem
  rw [toList_joined, List.mem_filter] at mem
  simpa using mem.2

theorem isUncut_of_firstWord? {text word : String} (first : firstWord? text = some word) :
    IsUncut word := by
  obtain ⟨others, parted⟩ := firstWord?_eq_some_iff.mp first
  have mem : word.toList ∈ words text.toList := by
    rw [parted]
    exact List.mem_cons_self
  exact (isWord_of_mem_words mem).2

theorem uncut_opening (s : Song) (n : Fin 4) : (opening s n).Uncut := by
  intro v mem
  match n with
  | 0 | 1 => simp [opening] at mem
  | 2 =>
    obtain rfl : v = joined s.title := by simpa [opening] using mem
    exact isUncut_joined s.title
  | 3 =>
    obtain rfl : v = joined s.artist := by simpa [opening] using mem
    exact isUncut_joined s.artist

theorem mem_of_plain_opening {p : String} (n : Fin 4) (mem : p ∈ (opening s n).plain) :
    p ∈ [s.title, s.artist] := by
  match n with
  | 0 => cases mem; exact List.mem_cons_self
  | 1 => cases mem; exact List.mem_cons_of_mem _ List.mem_cons_self
  | 2 | 3 => cases mem

theorem Uncut.withDetail {word : String} {f : Detail} (uncut : q.Uncut) (first : IsUncut word) :
    (q.withDetail word f).Uncut := by
  intro v mem
  have either : v = word ∨ some v ∈ [q.title, q.artist, q.language, q.genre, q.year, q.list] := by
    cases f <;> grind [Query.withDetail]
  rcases either with rfl | mem
  · exact first
  · exact uncut v mem

namespace Describes

theorem uncut (describes : Describes s q) : q.Uncut := by
  cases describes with
  | opening n => exact uncut_opening s n
  | detailed n mem =>
    obtain ⟨text, -, first⟩ := mem_details_iff.mp mem
    exact (uncut_opening s n).withDetail (isUncut_of_firstWord? first)

theorem mem_of_plain {p : String} (describes : Describes s q) (mem : p ∈ q.plain) :
    p ∈ [s.title, s.artist] := by
  cases describes with
  | opening n => exact mem_of_plain_opening n mem
  | @detailed n f word _ =>
    apply mem_of_plain_opening n
    cases f <;> exact mem

end Describes

end Query

/-! ## Songs that are found -/

namespace Song

open Query (Describes parse sample)

variable {s : Song} {q r : Query} {lists : Playlists} {t : Threshold}

theorem Meets.atop (meets : s.Meets lists t q) (meets' : s.Meets lists t r) :
    s.Meets lists t (q.atop r) := by
  have either {α : Type} {o o' : Option α} {p : α → Prop} (all : ∀ a ∈ o, p a)
      (all' : ∀ a ∈ o', p a) : ∀ a ∈ o.or o', p a := by
    cases o with
    | none => simpa using all'
    | some a => simpa using all
  constructor
  case duet => exact either meets.duet meets'.duet
  case video => exact either meets.video meets'.video
  case language => exact either meets.language meets'.language
  case genre => exact either meets.genre meets'.genre
  case year => exact either meets.year meets'.year
  case list => exact either meets.list meets'.list

/-- Nothing is harder to meet than the full threshold with no list loaded. -/
theorem Meets.relax (meets : s.Meets {} .full q) (lists : Playlists) (t : Threshold) :
    s.Meets lists t q := by
  have weaker : s.Meets {} t q := meets.of_narrows (.refl q) (.inr rfl)
  refine { weaker with list := ?_ }
  intro name mem
  obtain ⟨members, loaded, -⟩ := meets.list name mem
  cases loaded

theorem meets_of_colon_notMem {p : String} (keyless : ':' ∉ p.toList) (lists : Playlists)
    (t : Threshold) : s.Meets lists t (parse p) := by
  obtain ⟨plain, same⟩ := Query.parse_of_colon_notMem keyless
  rw [same]
  constructor <;> nofun

theorem isSome_score?_format_iff (describes : Describes s q) :
    (s.score? lists t (parse q.format)).isSome = true ↔
      ∀ p ∈ q.plain, s.Meets lists t (q.atop (parse p)) := by
  rw [isSome_score?_eq_passes, passes_iff, describes.uncut.parse_format]
  cases plain : q.plain with
  | none =>
    have same : q.atop (parse "") = q := Query.atop_empty plain
    simp [same, describes.meets]
  | some p => simp

/-- What every sample needs is what the samples without a detail need: that the song meets the
filters in its title and in its artist. -/
theorem forall_sample_found_iff :
    (∀ (d : Dice) lists t, (s.score? lists t (parse (sample s d).1.format)).isSome = true) ↔
      ∀ p ∈ [s.title, s.artist], s.Meets {} .full (parse p) := by
  constructor
  · intro found
    have alone (n : Fin 4) {p : String} (drawn : Query.opening s n = { plain := some p }) :
        s.Meets {} .full (parse p) := by
      have describes : Describes s (Query.opening s n) := .opening n
      obtain ⟨d, same⟩ := Query.exists_sample_eq describes
      have shown := found d {} .full
      rw [same, isSome_score?_format_iff describes, drawn] at shown
      exact shown p rfl
    intro p mem
    simp only [List.mem_cons, List.not_mem_nil, or_false] at mem
    rcases mem with rfl | rfl
    · exact alone 0 rfl
    · exact alone 1 rfl
  · intro meets d lists t
    have describes := Query.describes_sample s d
    apply (isSome_score?_format_iff describes).mpr
    intro p mem
    exact (describes.meets lists t).atop ((meets p (describes.mem_of_plain mem)).relax lists t)

/-- A sample that is typed finds its song if and only if the song meets what the free text reads as,
with the detail of the sample overriding it. One without free text always does. All samples of a
song find it, whatever lists are loaded, if and only if its title and its artist read as filters
that it meets, and these read as none at all if there is no colon in them. -/
theorem typed_sample_found_iff (s : Song) :
    (∀ (d : Dice) lists t, let q := (sample s d).1
      (s.score? lists t (parse q.format)).isSome = true ↔
        ∀ p ∈ q.plain, s.Meets lists t (q.atop (parse p))) ∧
    ((∀ (d : Dice) lists t, (s.score? lists t (parse (sample s d).1.format)).isSome = true) ↔
      ∀ p ∈ [s.title, s.artist], s.Meets {} .full (parse p)) ∧
    ((∀ p ∈ [s.title, s.artist], ':' ∉ p.toList) →
      ∀ (d : Dice) lists t, (s.score? lists t (parse (sample s d).1.format)).isSome = true) := by
  refine ⟨?_, forall_sample_found_iff, ?_⟩
  · intro d lists t q
    exact isSome_score?_format_iff (Query.describes_sample s d)
  · intro keyless
    apply forall_sample_found_iff.mpr
    intro p mem
    exact meets_of_colon_notMem (keyless p mem) {} .full

/-- A title without a colon may be typed, and also one with a filter that the song meets. -/
theorem typed_sample_found_remix :
    let s : Song := { title := "Pop Muzik", artist := "M", hash := "a" }
    let remix : Song :=
      { title := "Pop Muzik year:1989", artist := "M", year := some "1989 Re-Mix", hash := "b" }
    (∀ p ∈ [s.title, s.artist], ':' ∉ p.toList) ∧
      (∀ p ∈ [remix.title, remix.artist], remix.Meets {} .full (parse p)) ∧
      ∀ found ∈ [s, remix], ∀ (d : Dice) lists t,
        (found.score? lists t (parse (sample found d).1.format)).isSome = true := by
  intro s remix
  have keyless : ∀ p ∈ [s.title, s.artist], ':' ∉ p.toList := by decide
  have meets : ∀ p ∈ [remix.title, remix.artist], remix.Meets {} .full (parse p) := by
    have passes : ∀ p ∈ [remix.title, remix.artist], remix.passes {} .full (parse p) = true := by
      decide +kernel
    intro p mem
    exact passes_iff.mp (passes p mem)
  refine ⟨keyless, meets, ?_⟩
  intro found mem
  simp only [List.mem_cons, List.not_mem_nil, or_false] at mem
  rcases mem with rfl | rfl
  · exact (typed_sample_found_iff s).2.2 keyless
  · exact (typed_sample_found_iff remix).2.1.mpr meets

/-- The title of a song reads as a year that the song does not have. Whoever types what the
placeholder shows for this song does not find it. -/
theorem hidden_of_year_in_title :
    let s : Song := { title := "year:zero", artist := "Nine Inch Nails", hash := "a" }
    let d : Dice := { roll := fun _ _ => 0 }
    let b := ((Browser.new d).update (.songsLoaded [s])).1
    let text := (sample s d).1.format
    b.placeholder.target = text ∧ (b.update (.search text)).1.ranking = { songs := [], hidden := 1 } ∧
      ∀ lists t, s.score? lists t (parse text) = none := by
  intro s d b text
  have read : parse text = { year := some "zero" } := by decide +kernel
  refine ⟨by decide +kernel, by decide +kernel, ?_⟩
  intro lists t
  rw [read]
  rfl

end Song

end Karaoke
