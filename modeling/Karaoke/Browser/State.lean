import Karaoke.Placeholder
import Karaoke.Ranking

/-!
# The state of a browser

What a browsing session knows and shows. While the search field is blank the whole catalog is on
view in a drawn order; otherwise the songs that pass the query are, best first. Only the first
songs of the ranking are revealed.
-/

set_option autoImplicit false

namespace Karaoke

/-- Whether there is anything in the search field. -/
inductive Mode where
  | idle | filtered
  deriving DecidableEq, Repr, Inhabited

/-- The list on screen. -/
inductive Screen where
  | songs | categories
  deriving DecidableEq, Repr, Inhabited

structure Browser where
  dice : Dice
  /-- How many songs are revealed after each search. -/
  window : Int
  threshold : Threshold
  catalog : List Song := []
  lists : Playlists := {}
  query : String := ""
  mode : Mode := .idle
  screen : Screen := .songs
  ranking : Ranking := {}
  shown : Int := window
  placeholder : Placeholder := { target := Placeholder.defaultTarget }

namespace Browser

def defaultWindow : Int := 100

/-- A browser without a catalog. A window of zero stands for the default one. -/
def new (dice : Dice) (window : Option Int := none) (threshold : Option Threshold := none) :
    Browser :=
  let window := match window with
    | none => defaultWindow
    | some n => if n = 0 then defaultWindow else n
  { dice, window, threshold := threshold.getD .full }

/-- The query in the search field. -/
def parsed (b : Browser) : Query :=
  Query.parse b.query

/-- The mode that the search field calls for. -/
def modeOf (query : String) : Mode :=
  if Text.hasWord query.toList then .filtered else .idle

/-- The first `n` of a list; a negative `n` leaves out that many at the end. -/
def reveal {α : Type} (n : Int) (l : List α) : List α :=
  if 0 ≤ n then l.take n.toNat else l.take (l.length - (-n).toNat)

theorem reveal_of_nonneg {α : Type} {n : Int} (h : 0 ≤ n) (l : List α) :
    reveal n l = l.take n.toNat := by
  simp [reveal, h]

/-- What is on view. -/
structure View where
  mode : Mode
  screen : Screen
  query : String
  songs : List Song
  visible : Nat
  hidden : Nat
  shown : Int
  placeholder : String
  videoOnly : Bool
  duetsOnly : Bool
  categories : NameSet
  deriving DecidableEq, Repr

def view (b : Browser) : View where
  mode := b.mode
  screen := b.screen
  query := b.query
  songs := reveal b.shown b.ranking.songs
  visible := b.ranking.songs.length
  hidden := b.ranking.hidden
  shown := b.shown
  placeholder := b.placeholder.display
  videoOnly := b.parsed.video = some true
  duetsOnly := b.parsed.duet = some true
  categories := Ranking.categories b.catalog

end Browser

end Karaoke
