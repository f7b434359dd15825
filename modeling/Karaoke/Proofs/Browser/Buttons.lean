import Karaoke.Proofs.Browser.Step
import Karaoke.Proofs.Query.RoundTrip

/-!
# Queries that buttons write

A button does not change a parsed query. It writes a new search text, which is read again. Since
what was read is canonical, and stays so when a yes-or-no field or the free terms are changed,
nothing but the field of the button is different afterwards.
-/

set_option autoImplicit false

namespace Karaoke

namespace Query

open Text

theorem Canonical.withVideo {q : Query} (canonical : q.Canonical) (video : Option Bool) :
    Canonical { q with video } :=
  ⟨canonical.plain, canonical.values⟩

theorem Canonical.withDuet {q : Query} (canonical : q.Canonical) (duet : Option Bool) :
    Canonical { q with duet } :=
  ⟨canonical.plain, canonical.values⟩

theorem Canonical.withoutFreeTerms {q : Query} (canonical : q.Canonical) :
    q.withoutFreeTerms.Canonical where
  plain := nofun
  values v mem := by
    apply canonical.values v
    simp only [Query.withoutFreeTerms, List.mem_cons, reduceCtorEq, false_or] at mem
    exact List.mem_cons_of_mem _ (List.mem_cons_of_mem _ (by simpa using mem))

/-- A single token for a field asks for nothing else. -/
theorem parse_genre {value : List Char} (uncut : ∀ c ∈ value, isBlank c = false) :
    parse (String.ofList (Key.genre.token value)) = { genre := some (String.ofList value) } := by
  have word : words (String.ofList (Key.genre.token value)).toList = [Key.genre.token value] := by
    rw [String.toList_ofList, words_of_isWord (isWord_token .genre uncut)]
  have free : freeText [Key.genre.token value] = [] := by
    simp [freeText, Key.token]
  have asked (k : Key) : wanted [Key.genre.token value] k =
      if Key.genre = k then some value else none := by
    rw [wanted, List.filterMap_cons, Token.value?_token]
    split <;> simp_all
  rw [parse, word]
  simp [ofTokens, free, asked]

end Query

namespace Browser

variable (b : Browser)

theorem parsed_received_toggleVideo :
    (b.received .toggleVideo).parsed = { b.parsed with video := toggled b.parsed.video } :=
  ((Query.canonical_parse b.query).withVideo _).parse_format

theorem parsed_received_toggleDuets :
    (b.received .toggleDuets).parsed = { b.parsed with duet := toggled b.parsed.duet } :=
  ((Query.canonical_parse b.query).withDuet _).parse_format

theorem parsed_received_shuffle :
    (b.received .shuffle).parsed = b.parsed.withoutFreeTerms :=
  (Query.canonical_parse b.query).withoutFreeTerms.parse_format

theorem parsed_received_selectCategory (genre : String) :
    (b.received (.selectCategory genre)).parsed =
      { genre := some (String.ofList (Text.squeeze genre.toList)) } := by
  apply Query.parse_genre
  intro c mem
  have kept := (Text.mem_squeeze.mp mem).2
  cases blank : Text.isBlank c with
  | false => rfl
  | true => rw [Text.isSpace_of_isBlank blank] at kept; cases kept

end Browser

end Karaoke
