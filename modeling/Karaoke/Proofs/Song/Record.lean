import Karaoke.Song.Record
import Mathlib.Data.List.Forall2

/-!
# Records and songs

What makes a value a record, which faults are reported of one that is none, and that a song written
out as a record gives the same song again. A song can be written under the names of its fields or
under those of the wire: no name of one field is a name of another, so a field is read where it was
written. It comes back unchanged because settling a text twice does no more than settling it once.
-/

set_option autoImplicit false

namespace Karaoke.Song

open Json (Value Members)

/-- A value of several parts, which has no text. -/
def Compound (v : Value) : Prop :=
  v.kind = .array ∨ v.kind = .object

theorem text?_eq_none_iff {v : Value} : text? v = none ↔ Compound v := by
  cases v <;> simp [text?, Compound, Value.kind]

namespace Field

/-- Where a field is found: under its wire name, or under its own if there is nothing there. -/
inductive ReadFrom (f : Field) (ms : Members) : String → Value → Prop where
  | wire {v} : ms.get? f.wireName = some v → ReadFrom f ms f.wireName v
  | own {v} : ms.get? f.wireName = none → ms.get? f.name = some v → ReadFrom f ms f.name v

def Absent (f : Field) (ms : Members) : Prop :=
  ms.get? f.wireName = none ∧ ms.get? f.name = none

/-- What is wrong with a field: it is missing, or what is there has no text. -/
inductive Faulty (f : Field) (ms : Members) : RecordFault → Prop where
  | missing : f.required = true → f.Absent ms → Faulty f ms (.missing f)
  | notText {key v} : f.ReadFrom ms key v → Compound v → Faulty f ms (.notText key)

variable {f g : Field} {ms : Members} {key : String} {v : Value}

theorem source?_eq_some_iff : f.source? ms = some (key, v) ↔ f.ReadFrom ms key v := by
  unfold source?
  constructor
  · intro found
    cases wire : ms.get? f.wireName with
    | some w =>
      obtain ⟨rfl, rfl⟩ : f.wireName = key ∧ w = v := by simpa [wire] using found
      exact .wire wire
    | none =>
      obtain ⟨own, rfl⟩ : ms.get? f.name = some v ∧ f.name = key := by simpa [wire] using found
      exact .own wire own
  · rintro (wire | ⟨wire, own⟩)
    · rw [wire]
    · rw [wire, own]
      rfl

theorem source?_eq_none_iff : f.source? ms = none ↔ f.Absent ms := by
  unfold source? Absent
  cases ms.get? f.wireName <;> simp

/-! ## Faults -/

theorem read_of_readFrom (found : f.ReadFrom ms key v) :
    f.read ms = match text? v with
      | some t => .ok (f.settle t)
      | none => .error (.notText key) := by
  cases text : text? v <;> simp only [read, source?_eq_some_iff.mpr found, text]

theorem read_of_absent (absent : f.Absent ms) :
    f.read ms = if f.required then .error (.missing f) else .ok (f.settle none) := by
  rw [read, source?_eq_none_iff.mpr absent]

theorem absent_or_readFrom (f : Field) (ms : Members) :
    f.Absent ms ∨ ∃ key v, f.ReadFrom ms key v := by
  cases found : f.source? ms with
  | none => exact .inl (source?_eq_none_iff.mp found)
  | some source => exact .inr ⟨source.1, source.2, source?_eq_some_iff.mp found⟩

theorem read_eq_error_iff {e : RecordFault} : f.read ms = .error e ↔ f.Faulty ms e := by
  constructor
  · intro failed
    rcases absent_or_readFrom f ms with absent | ⟨key, v, found⟩
    · rw [read_of_absent absent] at failed
      split at failed
      next required =>
        cases failed
        exact .missing required absent
      next => cases failed
    · rw [read_of_readFrom found] at failed
      split at failed
      next => cases failed
      next none =>
        cases failed
        exact .notText found (text?_eq_none_iff.mp none)
  · rintro (⟨required, absent⟩ | ⟨found, compound⟩)
    · rw [read_of_absent absent, if_pos required]
    · rw [read_of_readFrom found, text?_eq_none_iff.mpr compound]

theorem fault?_eq_some_iff {e : RecordFault} : f.fault? ms = some e ↔ f.Faulty ms e := by
  rw [← read_eq_error_iff, fault?]
  cases f.read ms <;> simp

theorem isSome_fault?_iff : (f.fault? ms).isSome = true ↔ ∃ e, f.Faulty ms e := by
  simp only [Option.isSome_iff_exists, fault?_eq_some_iff]

theorem fault?_eq_none_iff :
    f.fault? ms = none ↔
      ¬ (f.required = true ∧ f.Absent ms) ∧ ∀ key v, f.ReadFrom ms key v → ¬ Compound v := by
  rw [← Option.not_isSome_iff_eq_none, isSome_fault?_iff]
  constructor
  · intro faultless
    exact ⟨fun ⟨required, absent⟩ => faultless ⟨_, .missing required absent⟩,
      fun key v found compound => faultless ⟨_, .notText found compound⟩⟩
  · rintro ⟨present, single⟩ ⟨e, ⟨required, absent⟩ | ⟨found, compound⟩⟩
    · exact present ⟨required, absent⟩
    · exact single _ _ found compound

/-! ## Settled texts -/

@[simp] theorem settle_settle (f : Field) (t : Option String) :
    f.settle (f.settle t) = f.settle t := by
  cases isText : f.isText with
  | true => simp [settle, isText]
  | false =>
    by_cases empty : t = some ""
    · simp [settle, isText, empty]
    · simp [settle, isText, empty]

theorem settle_ne_empty (optional : f.isText = false) (t : Option String) :
    f.settle t ≠ some "" := by
  intro settled
  by_cases empty : t = some ""
  · simp [settle, optional, empty] at settled
  · simp [settle, optional, empty] at settled

theorem settle_of_read {t : Option String} (read : f.read ms = .ok t) : f.settle t = t := by
  rcases absent_or_readFrom f ms with absent | ⟨key, v, found⟩
  · rw [read_of_absent absent] at read
    split at read
    next => cases read
    next =>
      cases read
      exact settle_settle f none
  · rw [read_of_readFrom found] at read
    split at read
    next t _ =>
      cases read
      exact settle_settle f t
    next => cases read

theorem settle_value? (faultless : f.fault? ms = none) : f.settle (f.value? ms) = f.value? ms := by
  cases read : f.read ms with
  | error e => simp [fault?, read] at faultless
  | ok t =>
    rw [value?, read]
    exact settle_of_read read

/-! ## The names of a field -/

def IsNameOf (f : Field) (key : String) : Prop :=
  key = f.name ∨ key = f.wireName

theorem IsNameOf.unique (here : f.IsNameOf key) (there : g.IsNameOf key) : f = g := by
  have apart : ∀ f ∈ all, ∀ g ∈ all,
      (f.name = g.name ∨ f.name = g.wireName ∨ f.wireName = g.name ∨ f.wireName = g.wireName) →
        f = g := by
    decide +kernel
  apply apart f (mem_all f) g (mem_all g)
  rcases here with rfl | rfl <;> rcases there with same | same <;> simp [same]

end Field

/-! ## Songs as records -/

/-- A text, or null for none. -/
def ofText? : Option String → Value
  | some t => .ofString t
  | none => .null

@[simp] theorem text?_ofText? (t : Option String) : text? (ofText? t) = some t := by
  cases t with
  | none => rfl
  | some t => simp [ofText?, Value.ofString, text?, Value.text, Text.Wide.ofString]

/-- The members that give fields their texts, in some order and each under one key. -/
def members (order : List Field) (key : Field → String) (t : Field → Option String) : Members :=
  order.map fun f => (.ofString (key f), ofText? (t f))

def ofTexts (t : Field → Option String) : Song where
  title := (t .title).getD ""
  artist := (t .artist).getD ""
  hash := (t .hash).getD ""
  cover := t .cover
  language := t .language
  video := t .video
  year := t .year
  genre := t .genre
  bpm := (t .bpm).getD ""
  singer1 := t .singer1
  singer2 := t .singer2

/-- The text in a field of a song. -/
def text (s : Song) : Field → Option String
  | .title => some s.title
  | .artist => some s.artist
  | .hash => some s.hash
  | .cover => s.cover
  | .language => s.language
  | .video => s.video
  | .year => s.year
  | .genre => s.genre
  | .bpm => some s.bpm
  | .singer1 => s.singer1
  | .singer2 => s.singer2

/-- A song as a record, its fields under the keys given. -/
def record (s : Song) (key : Field → String) : Value :=
  .object (members Field.all key s.text)

theorem text_ofTexts {t : Field → Option String} (settled : ∀ f, f.settle (t f) = t f) (f : Field) :
    (ofTexts t).text f = t f := by
  have always : f.isText = true → some ((t f).getD "") = t f := by
    intro isText
    rw [← settled f, Field.settle, if_pos isText]
    rfl
  cases f <;> first | rfl | exact always rfl

section Members

variable {order : List Field} {key : Field → String} {t : Field → Option String} {f : Field}

theorem get?_members_of_notMem {name : String} (unused : ∀ g ∈ order, key g ≠ name) :
    (members order key t).get? name = none := by
  apply List.lookup_eq_none_iff.mpr
  rintro _ mem
  obtain ⟨g, listed, rfl⟩ := List.mem_map.mp mem
  have other := unused g listed
  simpa [Text.Wide.ofString_inj] using other.symm

theorem get?_members (mem : f ∈ order) (inj : ∀ g ∈ order, key g = key f → g = f) :
    (members order key t).get? (key f) = some (ofText? (t f)) := by
  induction order with
  | nil => cases mem
  | cons g order ih =>
    by_cases same : key g = key f
    · obtain rfl := inj g List.mem_cons_self same
      simp [members, Members.get?]
    · have later : f ∈ order := by
        rcases List.mem_cons.mp mem with rfl | later
        · exact absurd rfl same
        · exact later
      rw [← ih later fun g mem => inj g (List.mem_cons_of_mem _ mem)]
      have other : (Text.Wide.ofString (key f) == .ofString (key g)) = false := by
        simpa [Text.Wide.ofString_inj] using Ne.symm same
      simp [members, Members.get?, List.lookup_cons, other]

theorem readFrom_members (named : ∀ g : Field, g.IsNameOf (key g)) (mem : f ∈ order) :
    f.ReadFrom (members order key t) (key f) (ofText? (t f)) := by
  have inj : ∀ g ∈ order, key g = key f → g = f := by
    intro g _ same
    exact (same ▸ named g : g.IsNameOf (key f)).unique (named f)
  have found := get?_members (t := t) mem inj
  by_cases wire : key f = f.wireName
  · rw [wire] at found ⊢
    exact .wire found
  · obtain own : key f = f.name := (named f).resolve_right wire
    rw [own] at found ⊢
    refine .own (get?_members_of_notMem ?_) found
    intro g mem same
    obtain rfl := (same ▸ named g : g.IsNameOf f.wireName).unique (.inr rfl)
    exact wire same

theorem read_members (named : ∀ g : Field, g.IsNameOf (key g)) (mem : f ∈ order) :
    f.read (members order key t) = .ok (f.settle (t f)) := by
  rw [Field.read_of_readFrom (readFrom_members named mem), text?_ofText?]

theorem ofMembers_eq (ms : Members) : ofMembers ms = ofTexts (·.value? ms) :=
  rfl

theorem faults_eq_nil_iff {ms : Members} : faults ms = [] ↔ ∀ f : Field, f.fault? ms = none := by
  simp [faults, List.filterMap_eq_nil_iff]

/-- A record of texts is a song, whichever of its names each field goes by. -/
theorem ofValue_members (all : ∀ f, f ∈ order) (named : ∀ f : Field, f.IsNameOf (key f)) :
    ofValue (.object (members order key t)) = .ok (ofTexts fun f => f.settle (t f)) := by
  have faultless : faults (members order key t) = [] := by
    rw [faults_eq_nil_iff]
    intro f
    rw [Field.fault?, read_members named (all f)]
  have values : (fun f : Field => f.value? (members order key t)) = fun f => f.settle (t f) := by
    funext f
    rw [Field.value?, read_members named (all f)]
  rw [ofValue, if_pos faultless, ofMembers_eq, values]

end Members

/-! ## Exact records -/

theorem eq_of_ofValue_eq_ok {v : Value} {s : Song} (ok : ofValue v = .ok s) :
    ∃ ms, v = .object ms ∧ (∀ f : Field, f.fault? ms = none) ∧ s = ofTexts (·.value? ms) := by
  unfold ofValue at ok
  split at ok
  next ms =>
    split at ok
    next faultless =>
      cases ok
      exact ⟨ms, rfl, faults_eq_nil_iff.mp faultless, rfl⟩
    next => cases ok
  next => cases ok

theorem ofValue_record {v : Value} {s : Song} {key : Field → String} (ok : ofValue v = .ok s)
    (named : ∀ f : Field, f.IsNameOf (key f)) : ofValue (s.record key) = .ok s := by
  obtain ⟨ms, rfl, faultless, rfl⟩ := eq_of_ofValue_eq_ok ok
  have settled := fun f : Field => Field.settle_value? (faultless f)
  rw [record, ofValue_members Field.mem_all named]
  simp only [text_ofTexts settled, settled]

theorem text_ne_empty {v : Value} {s : Song} {f : Field} (ok : ofValue v = .ok s)
    (optional : f.isText = false) : s.text f ≠ some "" := by
  obtain ⟨ms, rfl, faultless, rfl⟩ := eq_of_ofValue_eq_ok ok
  have settled := fun f : Field => Field.settle_value? (faultless f)
  rw [text_ofTexts settled, ← settled f]
  exact Field.settle_ne_empty optional _

theorem mem_required_iff {key : String} :
    key ∈ ["title", "artist", "song_hash"] ↔ ∃ f : Field, f.required = true ∧ f.name = key := by
  constructor
  · intro mem
    obtain rfl | rfl | rfl : key = "title" ∨ key = "artist" ∨ key = "song_hash" := by
      simpa using mem
    · exact ⟨.title, rfl, rfl⟩
    · exact ⟨.artist, rfl, rfl⟩
    · exact ⟨.hash, rfl, rfl⟩
  · rintro ⟨f, required, rfl⟩
    cases f <;> first | decide +kernel | cases required

theorem wireName_of_required {f : Field} (required : f.required = true) : f.wireName = f.name := by
  cases f <;> first | rfl | cases required

theorem exists_ofValue_eq_ok_iff {v : Value} :
    (∃ s, ofValue v = .ok s) ↔
      ∃ ms : Members, v = .object ms ∧
        (∀ key ∈ ["title", "artist", "song_hash"], ms.get? key ≠ none) ∧
        ∀ (f : Field) key w, f.ReadFrom ms key w → ¬ Compound w := by
  constructor
  · rintro ⟨s, ok⟩
    obtain ⟨ms, rfl, faultless, -⟩ := eq_of_ofValue_eq_ok ok
    simp only [Field.fault?_eq_none_iff] at faultless
    refine ⟨ms, rfl, ?_, fun f => (faultless f).2⟩
    intro key mem absent
    obtain ⟨f, required, rfl⟩ := mem_required_iff.mp mem
    exact (faultless f).1 ⟨required, wireName_of_required required ▸ absent, absent⟩
  · rintro ⟨ms, rfl, present, single⟩
    refine ⟨ofMembers ms, ?_⟩
    rw [ofValue, if_pos]
    rw [faults_eq_nil_iff]
    intro f
    refine Field.fault?_eq_none_iff.mpr ⟨?_, single f⟩
    rintro ⟨required, -, absent⟩
    exact present f.name (mem_required_iff.mpr ⟨f, required, rfl⟩) absent

/-- The faults found along a list belong, in its order, to the elements that have one. -/
theorem forall₂_filterMap {α β : Type} {R : α → β → Prop} {find : α → Option β}
    (sound : ∀ a b, find a = some b → R a b) (l : List α) :
    List.Forall₂ R (l.filter fun a => (find a).isSome) (l.filterMap find) := by
  induction l with
  | nil => exact .nil
  | cons a l ih =>
    cases found : find a with
    | none => simpa [found] using ih
    | some b => simpa [found] using ⟨sound a b found, ih⟩

theorem faults_exact (ms : Members) :
    ∃ fs, fs.Sublist Field.all ∧ (∀ f, f ∈ fs ↔ ∃ e, f.Faulty ms e) ∧
      List.Forall₂ (·.Faulty ms ·) fs (faults ms) := by
  refine ⟨Field.all.filter fun f => (f.fault? ms).isSome, List.filter_sublist, ?_, ?_⟩
  · intro f
    rw [List.mem_filter, and_iff_right (Field.mem_all f), Field.isSome_fault?_iff]
  · exact forall₂_filterMap (fun f e => Field.fault?_eq_some_iff.mp) Field.all

theorem eq_of_ofValue_eq_error {v : Value} {es : List RecordFault}
    (failed : ofValue v = .error es) :
    ((∀ ms, v ≠ .object ms) ∧ es = [.notARecord]) ∨ ∃ ms, v = .object ms ∧ es = faults ms := by
  unfold ofValue at failed
  split at failed
  next ms =>
    split at failed
    next => cases failed
    next =>
      cases failed
      exact .inr ⟨ms, rfl, rfl⟩
  next other =>
    cases failed
    exact .inl ⟨other, rfl⟩

/-- A value is a song exactly if it is an object with the three required keys in which no field is
read from a value of several parts; otherwise the faults are those of its faulty fields, in the
order of the fields. A song has no empty text in an optional field, and it is what its own record
gives, written under either names. -/
theorem ofValue_exact (v : Value) :
    ((∃ s, ofValue v = .ok s) ↔
      ∃ ms : Members, v = .object ms ∧
        (∀ key ∈ ["title", "artist", "song_hash"], ms.get? key ≠ none) ∧
        ∀ (f : Field) key w, f.ReadFrom ms key w → w.kind ≠ .array ∧ w.kind ≠ .object) ∧
    (∀ es, ofValue v = .error es →
      ((∀ ms, v ≠ .object ms) ∧ es = [.notARecord]) ∨
        ∃ ms, v = .object ms ∧ ∃ fs, fs.Sublist Field.all ∧ (∀ f, f ∈ fs ↔ ∃ e, f.Faulty ms e) ∧
          List.Forall₂ (·.Faulty ms ·) fs es) ∧
    ∀ s, ofValue v = .ok s →
      (∀ t ∈ [s.cover, s.language, s.video, s.year, s.genre, s.singer1, s.singer2], t ≠ some "") ∧
      ofValue (s.record Field.name) = .ok s ∧ ofValue (s.record Field.wireName) = .ok s := by
  refine ⟨?_, ?_, ?_⟩
  · rw [exists_ofValue_eq_ok_iff]
    simp only [Compound, not_or]
  · intro es failed
    rcases eq_of_ofValue_eq_error failed with other | ⟨ms, rfl, rfl⟩
    · exact .inl other
    · exact .inr ⟨ms, rfl, faults_exact ms⟩
  · intro s ok
    refine ⟨?_, ofValue_record ok fun f => .inl rfl, ofValue_record ok fun f => .inr rfl⟩
    have optional : ∀ f ∈ Field.all, f.isText = false → s.text f ≠ some "" :=
      fun f _ optional => text_ne_empty ok optional
    simpa [Field.all, Field.isText, text] using optional

end Karaoke.Song
