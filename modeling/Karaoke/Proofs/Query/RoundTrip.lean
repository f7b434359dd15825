import Karaoke.Proofs.Text.Words

/-!
# Reading a written query

What a query is read from is a list of tokens. The tokens of a written query are the words of its
free text and one token for each field that is set, so that a query is read back exactly if its
free text is made of free words and no field has a blank. Every query that was read is of this
kind.
-/

set_option autoImplicit false

namespace Karaoke.Query

open Text

/-! ## Tokens -/

theorem mem_freeText {ts : List Token} {t : Token} : t ∈ freeText ts ↔ t ∈ ts ∧ ':' ∉ t := by
  simp [freeText]

theorem freeText_append (ts us : List Token) : freeText (ts ++ us) = freeText ts ++ freeText us :=
  List.filter_append ts us

theorem freeText_of_notMem {ts : List Token} (h : ∀ t ∈ ts, ':' ∉ t) : freeText ts = ts :=
  List.filter_eq_self.mpr (by simpa using h)

theorem Token.mem_of_value? {t : Token} {k : Key} {v : List Char} (h : t.value? k = some v) :
    ∀ c ∈ v, c ∈ t := by
  obtain rfl := Token.value?_eq_some_iff.mp h
  intro c hc
  exact List.mem_append_right _ (List.mem_cons_of_mem _ hc)

theorem exists_of_wanted {ts : List Token} {k : Key} {v : List Char} (h : wanted ts k = some v) :
    ∃ t ∈ ts, t.value? k = some v :=
  List.mem_filterMap.mp (List.mem_of_getLast? h)

/-- Free text asks for no field. -/
theorem wanted_append_of_notMem {ts : List Token} (h : ∀ t ∈ ts, ':' ∉ t) (us : List Token)
    (k : Key) : wanted (ts ++ us) k = wanted us k := by
  have none : ts.filterMap (Token.value? · k) = [] :=
    List.filterMap_eq_nil_iff.mpr fun t ht => Token.value?_of_notMem (h t ht) k
  simp [wanted, List.filterMap_append, none]

/-! ## The tokens of a written query -/

theorem colon_mem_of_mem_fieldTokens {q : Query} {t : Token} (h : t ∈ q.fieldTokens) :
    ':' ∈ t := by
  obtain ⟨k, -, hk⟩ := List.mem_filterMap.mp h
  obtain ⟨v, -, rfl⟩ := Option.map_eq_some_iff.mp hk
  simp [Key.token]

theorem freeText_fieldTokens (q : Query) : freeText q.fieldTokens = [] :=
  List.eq_nil_iff_forall_not_mem.mpr fun _ h =>
    (mem_freeText.mp h).2 (colon_mem_of_mem_fieldTokens (mem_freeText.mp h).1)

/-- The field tokens ask for each field that is set, once. -/
theorem wanted_fieldTokens (q : Query) (k : Key) : wanted q.fieldTokens k = q.value? k := by
  have asked (l : Key) :
      ((q.value? l).map l.token).bind (Token.value? · k) = if l = k then q.value? l else none := by
    cases q.value? l <;> simp [Token.value?_token]
  have only : q.fieldTokens.filterMap (Token.value? · k) = (q.value? k).toList := by
    simp only [fieldTokens, List.filterMap_filterMap, asked]
    cases k <;> simp [Key.all, List.filterMap_cons] <;> split <;> simp_all
  rw [wanted, only]
  cases q.value? k <;> rfl

theorem words_format (q : Query) :
    words q.format.toList =
      q.plain.toList.flatMap (words ·.toList) ++ q.fieldTokens.flatMap words := by
  rw [format, String.toList_ofList, words_join, List.flatMap_append, List.flatMap_map]

/-! ## Canonical queries -/

/-- A text that no blank cuts; it may be empty. -/
def IsUncut (v : String) : Prop :=
  ∀ c ∈ v.toList, isBlank c = false

/-- A query whose written form says exactly what it asks for. -/
structure Canonical (q : Query) : Prop where
  plain : ∀ p, q.plain = some p →
    ∃ ws, ws ≠ [] ∧ (∀ w ∈ ws, IsWord w ∧ ':' ∉ w) ∧ p.toList = join ws
  values : ∀ v, some v ∈ [q.title, q.artist, q.language, q.genre, q.year, q.list] → IsUncut v

theorem isUncut_of_wanted {cs v : List Char} {k : Key} (h : wanted (words cs) k = some v) :
    IsUncut (String.ofList v) := by
  obtain ⟨t, ht, hv⟩ := exists_of_wanted h
  intro c hc
  rw [String.toList_ofList] at hc
  exact (isWord_of_mem_words ht).2 c (Token.mem_of_value? hv c hc)

theorem canonical_parse (raw : String) : (parse raw).Canonical where
  plain p h := by
    simp only [parse, ofTokens] at h
    split at h
    case isTrue => simp at h
    case isFalse hne =>
      cases h
      refine ⟨_, hne, fun w hw => ?_, String.toList_ofList⟩
      obtain ⟨hw, colon⟩ := mem_freeText.mp hw
      exact ⟨isWord_of_mem_words hw, colon⟩
  values v h := by
    have read {k : Key} (h : some v = (wanted (words raw.toList) k).map String.ofList) :
        IsUncut v := by
      obtain ⟨u, hu, rfl⟩ := Option.map_eq_some_iff.mp h.symm
      exact isUncut_of_wanted hu
    simp only [List.mem_cons, List.not_mem_nil, or_false] at h
    rcases h with h | h | h | h | h | h <;> exact read h

theorem isWord_token (k : Key) {v : List Char} (h : ∀ c ∈ v, isBlank c = false) :
    IsWord (k.token v) := by
  have key : ∀ c ∈ k.text, isBlank c = false := by
    have all : k.text.all (!isBlank ·) = true := by cases k <;> decide
    simpa using all
  refine ⟨by simp [Key.token], fun c hc => ?_⟩
  rcases List.mem_append.mp hc with hc | hc
  · exact key c hc
  · rcases List.mem_cons.mp hc with rfl | hc
    · decide
    · exact h c hc

namespace Canonical

variable {q : Query}

theorem value_clear (h : q.Canonical) {k : Key} {v : List Char} (hv : q.value? k = some v) :
    ∀ c ∈ v, isBlank c = false := by
  have flag (b : Bool) : ∀ c ∈ flagText b, isBlank c = false := by
    have all : (flagText b).all (!isBlank ·) = true := by cases b <;> decide
    simpa using all
  cases k <;> obtain ⟨u, hu, rfl⟩ := Option.map_eq_some_iff.mp hv
  case duet | video => exact flag u
  all_goals exact h.values u (by simp [hu])

theorem words_fieldTokens (h : q.Canonical) : q.fieldTokens.flatMap words = q.fieldTokens := by
  have word : ∀ t ∈ q.fieldTokens, IsWord t := by
    intro t ht
    obtain ⟨k, -, hk⟩ := List.mem_filterMap.mp ht
    obtain ⟨v, hv, rfl⟩ := Option.map_eq_some_iff.mp hk
    exact isWord_token k (h.value_clear hv)
  rw [← words_join, words_join_of_isWord word]

theorem exists_words_plain (h : q.Canonical) : ∃ ws : List Token,
    q.plain.toList.flatMap (words ·.toList) = ws ∧ (∀ w ∈ ws, ':' ∉ w) ∧
      q.plain = if ws = [] then none else some (String.ofList (join ws)) := by
  cases hp : q.plain with
  | none => exact ⟨[], rfl, by simp, rfl⟩
  | some p =>
    obtain ⟨ws, hne, hws, e⟩ := h.plain p hp
    refine ⟨ws, ?_, fun w hw => (hws w hw).2, ?_⟩
    · simpa [e] using words_join_of_isWord fun w hw => (hws w hw).1
    · rw [if_neg hne, ← e, String.ofList_toList]

theorem parse_format (h : q.Canonical) : parse q.format = q := by
  obtain ⟨ws, hwords, hws, hplain⟩ := h.exists_words_plain
  have tokens : words q.format.toList = ws ++ q.fieldTokens := by
    rw [words_format, hwords, h.words_fieldTokens]
  have free : freeText (words q.format.toList) = ws := by
    rw [tokens, freeText_append, freeText_of_notMem hws, freeText_fieldTokens, List.append_nil]
  have asked (k : Key) : wanted (words q.format.toList) k = q.value? k := by
    rw [tokens, wanted_append_of_notMem hws, wanted_fieldTokens]
  have text (o : Option String) : (o.map String.toList).map String.ofList = o := by
    cases o <;> simp
  have flag (o : Option Bool) : (o.map flagText).bind flag? = o := by
    cases o <;> simp
  simp only [parse, ofTokens, free, asked, value?, text, flag, ← hplain]

end Canonical

/-- What is read is canonical, and a query is read back as it was exactly if it is canonical. -/
theorem parse_format_eq_iff :
    (∀ raw, (parse raw).Canonical) ∧ (∀ q, parse q.format = q ↔ q.Canonical) ∧
      ∀ raw, parse (parse raw).format = parse raw :=
  ⟨canonical_parse, fun q => ⟨fun h => h ▸ canonical_parse q.format, Canonical.parse_format⟩,
    fun raw => (canonical_parse raw).parse_format⟩

end Karaoke.Query
