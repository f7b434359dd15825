import Karaoke.Catalog.Failure
import Karaoke.Csv.Table
import Karaoke.Http.Status
import Karaoke.Json.Source
import Karaoke.Names.Set

/-!
# What responses hold

A successful response is a table or an array of rows. A row is read as a song or as a name.
-/

set_option autoImplicit false

namespace Karaoke.Catalog

open Json (Value)

/-- The response that an outcome gives, if it is a success. -/
def success (path : String) : Http.Outcome → Except Failure Http.Response
  | .fault f =>
    if f.isOfExchange then .error (.fetch (.network path f.message)) else .error (.fault f)
  | .response r =>
    if Http.isSuccess r.status then .ok r
    else .error (.fetch (.status r.status (Http.reason r.status)))

def csvRows [Text.Charsets] (r : Http.Response) : Except Failure (List Value) :=
  match r.text with
  | .error f => .error (.unreadable f)
  | .ok text =>
    match Csv.rows? text with
    | some rows => .ok rows
    | none => .error (.fetch (.payload .csv))

def jsonRows (r : Http.Response) : Except Failure (List Value) :=
  match Json.ofBytes r.body with
  | .ok (.array rows) => .ok rows
  | .ok v => .error (.fetch (.payload (.notAnArray v.kind)))
  | .error .malformed => .error (.fetch (.payload .json))
  | .error (.tooDeep k) => .error (.tooDeep k)

/-- The rows of a response, read as its content type says. -/
def rows [Text.Charsets] (r : Http.Response) : Except Failure (List Value) :=
  if r.mediaType? = some "text/csv" then csvRows r
  else if r.mediaType? = some "application/json" then jsonRows r
  else .error (.fetch (.contentType r.rawContentType?))

/-- The songs of some rows: all of them, or the faults of the first that is no song. -/
def songs (rows : List Value) : Except FetchError (List Song) :=
  match Song.ofValues rows with
  | .ok songs => .ok songs
  | .error faults => .error (.payload (.record faults))

/-- The name that a row gives. Of an object it is the first value, as a text. -/
def name : Value → Except FetchError String
  | .object [] => .error (.payload .emptyRow)
  | .object ((_, v) :: _) => .ok (String.ofList v.text)
  | .string s => .ok s.toString
  | .int n => .ok (String.ofList (Value.int n).text)
  | .bool b => .ok (String.ofList (Value.bool b).text)
  | v => .error (.payload (.notAName v.kind))

def names (rows : List Value) : Except FetchError (List String) :=
  rows.mapM name

/-- What the outcome of a request for rows gives, once the rows are read. -/
def fetched [Text.Charsets] {α : Type} (path : String) (read : List Value → Except FetchError α)
    (o : Http.Outcome) : Except Failure α :=
  match success path o >>= rows with
  | .error e => .error e
  | .ok rows => (read rows).mapError .fetch

end Karaoke.Catalog
