import Karaoke.Dice
import Karaoke.Query
import Karaoke.Song

/-!
# Sample queries

A drawn query that describes a song: one term for its title or its artist and, every other time,
one more for its language, genre or year.
-/

set_option autoImplicit false

namespace Karaoke.Query

open Text

/-- A text without its blanks. -/
def joined (text : String) : String :=
  String.ofList (words text.toList).flatten

/-- The first word of a text, if it has any. -/
def firstWord? (text : String) : Option String :=
  (words text.toList).head?.map String.ofList

/-- The field that may be added to a sample. -/
inductive Detail where
  | language | genre | year
  deriving DecidableEq, Repr

def Detail.all : List Detail :=
  [language, genre, year]

def Detail.of (s : Song) : Detail → Option String
  | language => s.language
  | genre => s.genre
  | year => s.year

def withDetail (q : Query) (value : String) : Detail → Query
  | .language => { q with language := some value }
  | .genre => { q with genre := some value }
  | .year => { q with year := some value }

/-- The details of a song that have a first word, each with that word. -/
def details (s : Song) : List (Detail × String) :=
  Detail.all.filterMap (fun f => ((f.of s).bind firstWord?).map (f, ·))

/-- The four terms that a sample may begin with. -/
def opening (s : Song) (n : Fin 4) : Query :=
  match n with
  | 0 => { plain := some s.title }
  | 1 => { plain := some s.artist }
  | 2 => { title := some (joined s.title) }
  | 3 => { artist := some (joined s.artist) }

/-- A drawn query for a song. A song without details takes a single draw. -/
def sample (s : Song) (d : Dice) : Query × Dice :=
  let (n, d) := d.draw 3
  let q := opening s n
  match details s with
  | [] => (q, d)
  | first :: others =>
    let (more, d) := d.draw 1
    if more = 0 then (q, d)
    else
      let (i, d) := d.draw others.length
      let chosen := (first :: others).get i
      (q.withDetail chosen.2 chosen.1, d)

end Karaoke.Query
