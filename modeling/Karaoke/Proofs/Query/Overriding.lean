import Karaoke.Proofs.Query.RoundTrip
import Mathlib.Data.List.Induction

/-!
# Tokens that override others

A query can be read one token at a time: a word is added to the free text, a token with a key puts
its value into the field of that key, whatever stood there, and any other token is passed over.
Nothing of the order of the tokens matters then but the order of the words, and for each key which
token with that key is the last.
-/

set_option autoImplicit false

namespace Karaoke.Query

open Text

/-! ## One token more -/

def addWord (q : Query) (w : List Char) : Query :=
  { q with plain := some (match q.plain with
      | none => String.ofList w
      | some p => p ++ " " ++ String.ofList w) }

def assign (q : Query) (value : List Char) : Key → Query
  | .title => { q with title := some (String.ofList value) }
  | .artist => { q with artist := some (String.ofList value) }
  | .duet => { q with duet := flag? value }
  | .video => { q with video := flag? value }
  | .language => { q with language := some (String.ofList value) }
  | .genre => { q with genre := some (String.ofList value) }
  | .year => { q with year := some (String.ofList value) }
  | .list => { q with list := some (String.ofList value) }

/-- What one token more makes of a query. -/
def read (q : Query) (t : Token) : Query :=
  match cut? ':' t with
  | none => q.addWord t
  | some (key, value) =>
    match Key.all.find? (·.text = key) with
    | none => q
    | some k => q.assign value k

theorem read_word (q : Query) {t : Token} (word : ':' ∉ t) : q.read t = q.addWord t := by
  rw [read, cut?_eq_none_iff.mpr word]

theorem read_token (q : Query) (k : Key) (v : List Char) : q.read (k.token v) = q.assign v k := by
  have parted : cut? ':' (k.token v) = some (k.text, v) := cut?_append k.colon_notMem_text
  have known : Key.all.find? (·.text = k.text) = some k := by
    cases k <;> decide
  simp only [read, parted, known]

theorem read_unknown (q : Query) {t : Token} (keyed : ':' ∈ t)
    (unknown : ∀ (k : Key) v, t ≠ k.token v) : q.read t = q := by
  unfold read
  split
  · next whole => exact absurd keyed (cut?_eq_none_iff.mp whole)
  · next key value parted =>
    split
    · rfl
    · next k known =>
      obtain rfl : k.text = key := by simpa using List.find?_some known
      exact absurd (eq_of_cut? parted).1 (unknown k value)

/-! ## All tokens -/

theorem wanted_concat (ts : List Token) (t : Token) (k : Key) :
    wanted (ts ++ [t]) k = (t.value? k).or (wanted ts k) := by
  rw [wanted, List.filterMap_append, List.getLast?_append, wanted]
  cases asked : t.value? k <;> simp [asked]

theorem join_concat {ws : List (List Char)} (nonempty : ws ≠ []) (w : List Char) :
    join (ws ++ [w]) = join ws ++ ' ' :: w := by
  induction ws with
  | nil => exact absurd rfl nonempty
  | cons v ws ih =>
    cases ws with
    | nil => simp [join_cons_cons]
    | cons v' ws =>
      have later := ih (List.cons_ne_nil _ _)
      simp only [List.cons_append, join_cons_cons] at later ⊢
      rw [later]
      simp

theorem ofTokens_concat (ts : List Token) (t : Token) :
    ofTokens (ts ++ [t]) = (ofTokens ts).read t := by
  by_cases keyed : ':' ∈ t
  · have free : freeText (ts ++ [t]) = freeText ts := by
      simp [freeText, keyed]
    by_cases known : ∃ (k : Key) (v : List Char), t = k.token v
    · obtain ⟨k, v, rfl⟩ := known
      rw [read_token]
      cases k <;> simp [ofTokens, assign, free, wanted_concat, Token.value?_token]
    · have unknown : ∀ (k : Key) v, t ≠ k.token v := fun k v same => known ⟨k, v, same⟩
      have silent (k : Key) := Token.value?_eq_none_iff.mpr (unknown k)
      rw [read_unknown _ keyed unknown]
      simp [ofTokens, free, wanted_concat, silent]
  · have free : freeText (ts ++ [t]) = freeText ts ++ [t] := by
      simp [freeText, keyed]
    have silent (k : Key) := Token.value?_of_notMem keyed k
    rw [read_word _ keyed]
    by_cases first : freeText ts = []
    · simp [ofTokens, addWord, free, first, wanted_concat, silent]
    · simp [ofTokens, addWord, free, first, wanted_concat, silent, join_concat,
        String.append_assoc]

/-- A query is read one token after the other. -/
theorem parse_eq_foldl (raw : String) : parse raw = (words raw.toList).foldl read {} := by
  rw [parse]
  induction words raw.toList using List.reverseRecOn with
  | nil => rfl
  | append_singleton ts t ih =>
    rw [ofTokens_concat, ih, List.foldl_append]
    rfl

/-! ## The last token of a key -/

/-- Whether the last token of a key wants a value, or nothing is wanted as no token has the key. -/
def IsLast (ts : List Token) (k : Key) : Option (List Char) → Prop
  | none => ∀ v, k.token v ∉ ts
  | some v => ∃ before after, ts = before ++ k.token v :: after ∧ ∀ u, k.token u ∉ after

theorem filterMap_value?_eq_nil_iff {ts : List Token} {k : Key} :
    ts.filterMap (Token.value? · k) = [] ↔ ∀ v, k.token v ∉ ts := by
  simp only [List.filterMap_eq_nil_iff, Token.value?_eq_none_iff]
  constructor
  · intro apart v mem
    exact apart _ mem v rfl
  · rintro absent t mem v rfl
    exact absent v mem

theorem IsLast.wanted_eq {ts : List Token} {k : Key} {asked : Option (List Char)}
    (last : IsLast ts k asked) : wanted ts k = asked := by
  cases asked with
  | none => rw [wanted, filterMap_value?_eq_nil_iff.mpr last, List.getLast?_nil]
  | some v =>
    obtain ⟨before, after, rfl, absent⟩ := last
    have asks : (k.token v).value? k = some v := Token.value?_eq_some_iff.mpr rfl
    rw [wanted, List.filterMap_append, List.filterMap_cons_some (f := (Token.value? · k)) asks,
      filterMap_value?_eq_nil_iff.mpr absent, List.getLast?_concat]

theorem IsLast.concat {ts : List Token} {k : Key} {asked : Option (List Char)} {t : Token}
    (last : IsLast ts k asked) (other : ∀ u, t ≠ k.token u) : IsLast (ts ++ [t]) k asked := by
  have still {us : List Token} (absent : ∀ u, k.token u ∉ us) : ∀ u, k.token u ∉ us ++ [t] := by
    intro u mem
    rcases List.mem_append.mp mem with mem | mem
    · exact absent u mem
    · exact other u (List.mem_singleton.mp mem).symm
  cases asked with
  | none => exact still last
  | some v =>
    obtain ⟨before, after, rfl, absent⟩ := last
    exact ⟨before, after ++ [t], by simp, still absent⟩

theorem isLast_wanted (ts : List Token) (k : Key) : IsLast ts k (wanted ts k) := by
  induction ts using List.reverseRecOn with
  | nil =>
    intro v mem
    cases mem
  | append_singleton ts t ih =>
    rw [wanted_concat]
    cases asks : t.value? k with
    | none => exact ih.concat (Token.value?_eq_none_iff.mp asks)
    | some v =>
      obtain rfl := Token.value?_eq_some_iff.mp asks
      exact ⟨ts, [], rfl, fun u => List.not_mem_nil⟩

theorem isLast_iff {ts : List Token} {k : Key} {asked : Option (List Char)} :
    IsLast ts k asked ↔ wanted ts k = asked :=
  ⟨IsLast.wanted_eq, fun same => same ▸ isLast_wanted ts k⟩

/-- A query is read token by token. Its free text is that of the words, and each field is settled by
the last token of its key alone, even if a yes-or-no field cannot make anything of that one. Two
texts are therefore read alike if they have the same words and the same last token of each key. -/
theorem parse_last_wins :
    (∀ raw, let ts := words raw.toList
      parse raw = ts.foldl read {} ∧
      ∃ asked : Key → Option (List Char), (∀ k, IsLast ts k (asked k)) ∧
        parse raw =
          { plain := if freeText ts = [] then none else some (String.ofList (join (freeText ts)))
            title := (asked .title).map String.ofList
            artist := (asked .artist).map String.ofList
            duet := (asked .duet).bind flag?
            video := (asked .video).bind flag?
            language := (asked .language).map String.ofList
            genre := (asked .genre).map String.ofList
            year := (asked .year).map String.ofList
            list := (asked .list).map String.ofList }) ∧
    ∀ raw raw', freeText (words raw.toList) = freeText (words raw'.toList) →
      (∀ k asked, IsLast (words raw.toList) k asked ↔ IsLast (words raw'.toList) k asked) →
      parse raw = parse raw' := by
  constructor
  · intro raw ts
    exact ⟨parse_eq_foldl raw, wanted ts, isLast_wanted ts, rfl⟩
  · intro raw raw' free last
    have same (k : Key) : wanted (words raw.toList) k = wanted (words raw'.toList) k :=
      ((last k _).mpr (isLast_wanted _ k)).wanted_eq
    simp only [parse, ofTokens, free, same]

/-- Words and tokens of other keys in between, an earlier answer and an unknown key. -/
theorem parse_last_wins_interleaved :
    let raw := "duet:yes  abba genre:pop\tx:y\nduet:maybe queen genre:re:mix"
    let raw' := "genre:re:mix abba queen duet:maybe"
    parse raw = parse raw' ∧ (parse raw).duet = none ∧ (parse raw).genre = some "re:mix" := by
  intro raw raw'
  have same : ∀ k ∈ Key.all, wanted (words raw.toList) k = wanted (words raw'.toList) k := by
    decide +kernel
  refine ⟨parse_last_wins.2 raw raw' (by decide +kernel) ?_, by decide +kernel⟩
  intro k asked
  rw [isLast_iff, isLast_iff, same k (Key.mem_all k)]

end Karaoke.Query
