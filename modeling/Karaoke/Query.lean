import Karaoke.Query.Token

/-!
# Search queries

A query is free text together with wanted values for some fields. Reading a query never fails:
tokens with an unknown key are dropped, and a yes-or-no field with any other value is unset.
Writing a query gives its free text first and then one token for each field that is set.
-/

set_option autoImplicit false

namespace Karaoke

structure Query where
  plain : Option String := none
  title : Option String := none
  artist : Option String := none
  duet : Option Bool := none
  video : Option Bool := none
  language : Option String := none
  genre : Option String := none
  year : Option String := none
  list : Option String := none
  deriving DecidableEq, Repr, Inhabited

namespace Query

open Text

/-- The answer that a yes-or-no value gives; any other value gives none. -/
def flag? (value : List Char) : Option Bool :=
  if value ∈ ["true".toList, "yes".toList, "y".toList] then some true
  else if value ∈ ["false".toList, "no".toList, "n".toList] then some false
  else none

def flagText (b : Bool) : List Char :=
  if b then "true".toList else "false".toList

@[simp] theorem flag?_flagText (b : Bool) : flag? (flagText b) = some b := by
  cases b <;> decide

/-- Words with single spaces between them. -/
def join (ws : List (List Char)) : List Char :=
  [' '].intercalate ws

/-- The query that a list of tokens stands for. -/
def ofTokens (ts : List Token) : Query where
  plain := if freeText ts = [] then none else some (String.ofList (join (freeText ts)))
  title := (wanted ts .title).map String.ofList
  artist := (wanted ts .artist).map String.ofList
  duet := (wanted ts .duet).bind flag?
  video := (wanted ts .video).bind flag?
  language := (wanted ts .language).map String.ofList
  genre := (wanted ts .genre).map String.ofList
  year := (wanted ts .year).map String.ofList
  list := (wanted ts .list).map String.ofList

def parse (raw : String) : Query :=
  ofTokens (words raw.toList)

/-- The value of a field as it is written. -/
def value? (q : Query) : Key → Option (List Char)
  | .title => q.title.map String.toList
  | .artist => q.artist.map String.toList
  | .duet => q.duet.map flagText
  | .video => q.video.map flagText
  | .language => q.language.map String.toList
  | .genre => q.genre.map String.toList
  | .year => q.year.map String.toList
  | .list => q.list.map String.toList

/-- The tokens of the fields that are set, in the order of the keys. -/
def fieldTokens (q : Query) : List Token :=
  Key.all.filterMap (fun k => (q.value? k).map k.token)

/-- The written form of a query. -/
def format (q : Query) : String :=
  String.ofList (join (q.plain.toList.map String.toList ++ q.fieldTokens))

/-- Whether nothing at all is asked for. -/
def isEmpty (q : Query) : Bool :=
  q = {}

/-- Whether any term is set that ranks songs rather than excluding them. -/
def hasFreeTerms (q : Query) : Bool :=
  q.plain.isSome || q.title.isSome || q.artist.isSome

/-- The query with only the terms that exclude songs. -/
def withoutFreeTerms (q : Query) : Query :=
  { q with plain := none, title := none, artist := none }

@[simp] theorem hasFreeTerms_withoutFreeTerms (q : Query) :
    q.withoutFreeTerms.hasFreeTerms = false := rfl

end Query

end Karaoke
