import Karaoke.Names.Set
import Karaoke.Song

/-!
# Messages and commands

A browser is told what has happened by messages and asks for things to be done by commands. A
fetch or a timer that a command starts ends in a message in its turn.
-/

set_option autoImplicit false

namespace Karaoke

inductive Message where
  | songsLoaded (songs : List Song)
  | songsFailed (error : String)
  | indexLoaded (names : List String)
  | listLoaded (name : String) (members : NameSet)
  | listFailed (name : String) (error : String)
  /-- A list was modified on the server. -/
  | listChanged (name : String)
  | search (query : String)
  | toggleVideo
  | toggleDuets
  /-- Goes from the songs to the categories or back. -/
  | toggleCategories
  | selectCategory (genre : String)
  | shuffle
  /-- The list has moved and this many pixels remain below. -/
  | scroll (remaining : Int)
  | tick (generation : Int)
  /-- A message of a kind that a browser has no use for. -/
  | unknown (kind : String)
  deriving DecidableEq, Repr

inductive Command where
  | fetchSongs
  | fetchIndex
  | fetchList (name : String)
  /-- Sends a tick of a generation after a delay in milliseconds. -/
  | scheduleTick (delay : Nat) (generation : Nat)
  /-- Asks again how far the list has moved after a delay in milliseconds. -/
  | scheduleScroll (delay : Nat)
  | scrollToTop
  deriving DecidableEq, Repr

end Karaoke
