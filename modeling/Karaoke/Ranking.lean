import Karaoke.Dice
import Karaoke.Filter
import Karaoke.Playlists
import Karaoke.Query
import Karaoke.Song

/-!
# Ranking

A query hides the songs that fail one of its filters and orders the others by how well they match
its free terms, best first; songs with the same score are in their natural order.
-/

set_option autoImplicit false

namespace Karaoke

/-- Whether a song passes the list that a query asks for: the list is loaded and has the song. -/
def Filter.list (lists : Playlists) (wanted : Option String) (hash : String) : Bool :=
  match wanted with
  | none => true
  | some name =>
    match lists.members? name with
    | none => false
    | some members => hash ∈ members

namespace Song

/-- Whether a song passes every filter of a query. -/
def passes (lists : Playlists) (t : Threshold) (q : Query) (s : Song) : Bool :=
  Filter.flag q.duet s.isDuet && Filter.flag q.video s.hasVideo &&
    Filter.text t q.language s.language && Filter.text t q.genre s.genre &&
    Filter.text t q.year s.year && Filter.list lists q.list s.hash

/-- The score of a text for a term; a term that is not set adds nothing. -/
def termScore (term : Option String) (text : String) : Nat :=
  match term with
  | none => 0
  | some w => Fuzzy.score text.toList w.toList

/-- The best score of the free terms: plain text in title or artist, and the two typed terms. -/
def freeScore (q : Query) (s : Song) : Nat :=
  max (max (termScore q.plain s.title) (termScore q.plain s.artist))
    (max (termScore q.title s.title) (termScore q.artist s.artist))

/-- The score of a song, unless a filter hides it. -/
def score? (lists : Playlists) (t : Threshold) (q : Query) (s : Song) : Option Nat :=
  if s.passes lists t q then some (s.freeScore q) else none

end Song

/-- The songs on view, in order, and how many are hidden. -/
structure Ranking where
  songs : List Song := []
  hidden : Nat := 0
  deriving DecidableEq, Repr, Inhabited

namespace Ranking

abbrev Scored := Nat × Song

/-- Whether a scored song may come before another. -/
def precedes (a b : Scored) : Bool :=
  ((Ord.compare b.1 a.1).then (a.2.compare b.2)).isLE

/-- The songs that pass a query, each with its score, in the order of the catalog. -/
def scored (lists : Playlists) (t : Threshold) (q : Query) (catalog : List Song) : List Scored :=
  catalog.filterMap (fun s => (s.score? lists t q).map (·, s))

def ofQuery (lists : Playlists) (t : Threshold) (q : Query) (catalog : List Song) : Ranking :=
  let found := scored lists t q catalog
  { songs := (found.mergeSort precedes).map (·.2)
    hidden := catalog.length - found.length }

/-- The whole catalog in a drawn order. -/
def shuffled (catalog : List Song) (d : Dice) : Ranking × Dice :=
  let (songs, d) := d.shuffle catalog
  ({ songs }, d)

/-- The genres of a catalog. -/
def categories (catalog : List Song) : NameSet :=
  NameSet.ofList (catalog.filterMap (·.genre))

end Ranking

end Karaoke
