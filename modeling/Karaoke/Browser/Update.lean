import Karaoke.Browser.Message
import Karaoke.Browser.State
import Karaoke.Query.Sample

/-!
# How a browser answers messages

Every message gives a new state and the commands to carry out. Whatever changes the catalog, the
query or the members of the wanted list recomputes the ranking from the whole catalog at once.
-/

set_option autoImplicit false

namespace Karaoke.Browser

/-- Milliseconds before the first character of the placeholder. -/
def firstTickDelay : Nat := 500

/-- Milliseconds before the first character of a new target. -/
def restartDelay : Nat := 100

/-- Milliseconds between two characters. -/
def tickDelay : Nat := 80

/-- Milliseconds before the list is looked at again after a song was revealed. -/
def scrollDelay : Nat := 32

def rowHeight : Nat := 48

/-- Another song is revealed while fewer rows than this remain below. -/
def rowsAhead : Nat := 50

abbrev Answer := Browser × List Command

/-- The commands that a session begins with. -/
def opening (b : Browser) : List Command :=
  [.fetchSongs, .fetchIndex, .scheduleTick firstTickDelay b.placeholder.generation]

/-- Types a sample query for the first song of the ranking, if there is one. -/
def suggest (b : Browser) : Answer :=
  match b.ranking.songs with
  | [] => (b, [])
  | s :: _ =>
    let (q, dice) := Query.sample s b.dice
    let placeholder := b.placeholder.restart q.format
    ({ b with dice, placeholder }, [.scheduleTick restartDelay placeholder.generation])

/-- Asks for the members of the list that a query wants, if they have to be fetched. -/
def requestList (lists : Playlists) (wanted : Option String) : Playlists × List Command :=
  match wanted with
  | none => (lists, [])
  | some name =>
    let (start, lists) := lists.request name
    (lists, if start then [.fetchList name] else [])

/-- Shows the whole catalog in a drawn order. -/
def showAll (b : Browser) : Answer :=
  let (ranking, dice) := Ranking.shuffled b.catalog b.dice
  suggest { b with ranking, dice }

/-- Shows the songs that pass the query. -/
def showFound (b : Browser) : Answer :=
  let (lists, commands) := requestList b.lists b.parsed.list
  ({ b with lists, ranking := .ofQuery lists b.threshold b.parsed b.catalog }, commands)

/-- Recomputes the ranking and reveals its first songs. -/
def refresh (b : Browser) : Answer :=
  let mode := modeOf b.query
  let b := { b with mode, shown := b.window }
  let (b, commands) := match mode with
    | .idle => b.showAll
    | .filtered => b.showFound
  (b, .scrollToTop :: commands)

def search (b : Browser) (query : String) : Answer :=
  refresh { b with query }

/-- A yes-or-no filter after its button was pressed. -/
def toggled (filter : Option Bool) : Option Bool :=
  if filter = some true then none else some true

/-- Keeps the filters of the query, drops its free terms, and puts what passes in a drawn order. -/
def shuffle (b : Browser) : Answer :=
  let (b, commands) := b.search b.parsed.withoutFreeTerms.format
  match b.mode with
  | .idle => (b, commands)
  | .filtered =>
    let (songs, dice) := b.dice.shuffle b.ranking.songs
    let (b, more) := suggest { b with dice, ranking := { b.ranking with songs } }
    (b, commands ++ more)

/-- Reveals one more song if the list is near its end and not all are revealed. -/
def scroll (b : Browser) (remaining : Int) : Answer :=
  if remaining < rowHeight * rowsAhead ∧ b.shown < b.ranking.songs.length then
    ({ b with shown := b.shown + 1 }, [.scheduleScroll scrollDelay])
  else (b, [])

def tick (b : Browser) (generation : Int) : Answer :=
  let (again, placeholder) := b.placeholder.tick generation
  ({ b with placeholder },
    if again then [.scheduleTick tickDelay placeholder.generation] else [])

/-- The members of a list have arrived; they matter at once if the query wants that list. -/
def listLoaded (b : Browser) (name : String) (members : NameSet) : Answer :=
  let b := { b with lists := b.lists.resolve name members }
  if b.parsed.list = some name then b.refresh else (b, [])

/-- A list has changed; it is fetched again at once if the query wants it. -/
def listChanged (b : Browser) (name : String) : Answer :=
  let lists := b.lists.invalidate name
  if b.parsed.list = some name then
    let (lists, commands) := requestList lists (some name)
    ({ b with lists }, commands)
  else ({ b with lists }, [])

/-- The state after a message, and the commands to carry out. -/
def update (b : Browser) : Message → Answer
  | .songsLoaded songs => refresh { b with catalog := songs }
  | .songsFailed _ => (b, [])
  | .indexLoaded names => ({ b with lists := b.lists.register names }, [])
  | .listLoaded name members => b.listLoaded name members
  | .listFailed name _ => ({ b with lists := b.lists.fail name }, [])
  | .listChanged name => b.listChanged name
  | .search query => b.search query
  | .toggleVideo => b.search { b.parsed with video := toggled b.parsed.video }.format
  | .toggleDuets => b.search { b.parsed with duet := toggled b.parsed.duet }.format
  | .toggleCategories =>
    ({ b with screen := match b.screen with | .categories => .songs | .songs => .categories }, [])
  | .selectCategory genre =>
    search { b with screen := .songs }
      (String.ofList (Query.Key.genre.token (Text.squeeze genre.toList)))
  | .shuffle => b.shuffle
  | .scroll remaining => b.scroll remaining
  | .tick generation => b.tick generation
  | .unknown _ => (b, [])

end Karaoke.Browser
