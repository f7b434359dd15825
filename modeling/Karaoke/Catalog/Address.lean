import Karaoke.Http.Percent

/-!
# Addresses of the catalog server

A template is an address with named slots. Names of lists and songs are percent-encoded before
they fill a slot of a request, so that a name is always one segment of the path.
-/

set_option autoImplicit false

namespace Karaoke.Catalog

inductive Piece where
  | text (s : String)
  | slot (name : String)
  deriving DecidableEq, Repr

abbrev Template := List Piece

namespace Template

/-- The template with each slot as its name in braces. -/
def text (t : Template) : String :=
  String.join (t.map (fun
    | .text s => s
    | .slot name => "\x7b" ++ name ++ "\x7d"))

/-- The address with the values of its slots. -/
def fill (t : Template) (value : String → String) : String :=
  String.join (t.map (fun
    | .text s => s
    | .slot name => value name))

end Template

def songsTemplate : Template := [.text "/api/songs"]

def listsTemplate : Template := [.text "/api/custom/lists"]

def listTemplate : Template := [.text "/api/custom/list/", .slot "name"]

def entryTemplate : Template :=
  [.text "/api/custom/list/", .slot "name", .text "/", .slot "song_hash"]

def coverTemplate : Template :=
  [.text "/images/songs/", .slot "song_hash", .text ".png"]

/-- A name as one segment of a path. -/
def segment (name : String) : String :=
  String.ofList (Http.Percent.encode name.toList)

def songsPath : String := songsTemplate.fill segment

def listsPath : String := listsTemplate.fill segment

/-- The path of the list with a name. -/
def listPath (name : String) : String :=
  listTemplate.fill (fun _ => segment name)

/-- The path of a song's entry in a list. -/
def entryPath (name hash : String) : String :=
  entryTemplate.fill (fun slot => if slot = "song_hash" then segment hash else segment name)

end Karaoke.Catalog
