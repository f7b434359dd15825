import Karaoke.Text.Blank
import Karaoke.Text.Cut

/-!
# Tokens of a query

A token is a word of the query. One with a colon asks for a field: what precedes its first colon
is the key and what follows is the wanted value. One without a colon is free text.
-/

set_option autoImplicit false

namespace Karaoke.Query

open Text (cut? cut?_append cut?_eq_none_iff eq_of_cut?)

abbrev Token := List Char

/-- The fields that a token can ask for. -/
inductive Key where
  | title | artist | duet | video | language | genre | year | list
  deriving DecidableEq, Repr

namespace Key

/-- How the key of a field is written. -/
def text : Key → List Char
  | title => "title".toList
  | artist => "artist".toList
  | duet => "duet".toList
  | video => "video".toList
  | language => "lang".toList
  | genre => "genre".toList
  | year => "year".toList
  | list => "list".toList

/-- Every key, in the order in which a query is written. -/
def all : List Key :=
  [title, artist, duet, video, language, genre, year, list]

@[simp] theorem mem_all (k : Key) : k ∈ all := by cases k <;> decide

@[simp] theorem text_inj {k l : Key} : k.text = l.text ↔ k = l := by
  cases k <;> cases l <;> decide

theorem colon_notMem_text (k : Key) : ':' ∉ k.text := by cases k <;> decide

/-- The token that asks for a value of the field. -/
def token (k : Key) (value : List Char) : Token :=
  k.text ++ ':' :: value

end Key

/-- The value that a token wants for a field, if it asks for that field. -/
def Token.value? (t : Token) (k : Key) : Option (List Char) :=
  match cut? ':' t with
  | some (key, value) => if key = k.text then some value else none
  | none => none

theorem Token.value?_token (k l : Key) (v : List Char) :
    Token.value? (k.token v) l = if k = l then some v else none := by
  simp [Token.value?, Key.token, cut?_append k.colon_notMem_text]

theorem Token.value?_eq_some_iff {t : Token} {k : Key} {v : List Char} :
    t.value? k = some v ↔ t = k.token v := by
  constructor
  · intro asks
    unfold Token.value? at asks
    split at asks
    · next key value parted =>
      split at asks
      · next same =>
        cases asks
        rw [(eq_of_cut? parted).1, same]
        rfl
      · cases asks
    · cases asks
  · rintro rfl
    rw [Token.value?_token, if_pos rfl]

theorem Token.value?_eq_none_iff {t : Token} {k : Key} :
    t.value? k = none ↔ ∀ v, t ≠ k.token v := by
  simp only [Option.eq_none_iff_forall_ne_some, ne_eq, Token.value?_eq_some_iff]

theorem Token.value?_of_notMem {t : Token} (h : ':' ∉ t) (k : Key) : Token.value? t k = none := by
  simp [Token.value?, cut?_eq_none_iff.mpr h]

/-- The value that the last token asking for a field wants: a later token overrides an earlier. -/
def wanted (ts : List Token) (k : Key) : Option (List Char) :=
  (ts.filterMap (·.value? k)).getLast?

/-- The free-text tokens, in order. -/
def freeText (ts : List Token) : List Token :=
  ts.filter (fun t => !t.contains ':')

end Karaoke.Query
