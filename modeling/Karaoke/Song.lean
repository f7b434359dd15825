/-!
# Songs

A song of the catalog. Its hash identifies it; title, artist and hash together give the natural
order of songs.
-/

set_option autoImplicit false

namespace Karaoke

structure Song where
  title : String
  artist : String
  hash : String
  cover : Option String := none
  language : Option String := none
  video : Option String := none
  year : Option String := none
  genre : Option String := none
  bpm : String := ""
  singer1 : Option String := none
  singer2 : Option String := none
  deriving DecidableEq, Repr, Inhabited

namespace Song

/-- The two parts of a duet, if the song names both singers. -/
def duet (s : Song) : Option (String × String) :=
  match s.singer1, s.singer2 with
  | some a, some b => some (a, b)
  | _, _ => none

def isDuet (s : Song) : Bool :=
  s.duet.isSome

@[simp] theorem isDuet_iff {s : Song} :
    s.isDuet = true ↔ s.singer1.isSome = true ∧ s.singer2.isSome = true := by
  cases h1 : s.singer1 <;> cases h2 : s.singer2 <;> simp [isDuet, duet, h1, h2]

def hasVideo (s : Song) : Bool :=
  s.video.isSome

/-- The natural order: by title, then artist, then hash, each by code points. -/
def compare (a b : Song) : Ordering :=
  (Ord.compare a.title b.title).then
    ((Ord.compare a.artist b.artist).then (Ord.compare a.hash b.hash))

end Song

end Karaoke
