import Karaoke.Http.Exchange
import Karaoke.Song.Record
import Karaoke.Text.Quoted

/-!
# Failures of a request

Why a request to the catalog gave nothing: an error that the catalog knows how to report, a fault
that it passes on, a body that its character set cannot read, or a document that nests too deeply.
Each failure belongs to a category.
-/

set_option autoImplicit false

namespace Karaoke.Catalog

/-- What is wrong with a body. -/
inductive PayloadFault where
  | json
  | csv
  | record (faults : List Song.RecordFault)
  | notAnArray (kind : Json.Kind)
  | notAName (kind : Json.Kind)
  | emptyRow
  /-- Stated in words only. -/
  | stated (text : String)
  deriving DecidableEq, Repr

def PayloadFault.message : PayloadFault → String
  | json => "error deserializing json"
  | csv => "error deserializing csv"
  | record _ => "invalid song record"
  | notAnArray kind => "expected a json array, got " ++ kind.text
  | notAName kind => "expected a string, got " ++ kind.text
  | emptyRow => "empty csv row"
  | stated text => text

inductive FetchError where
  /-- The exchange broke down before there was a response. -/
  | network (path : String) (cause : String)
  | status (code : Int) (reason : String)
  | contentType (raw : Option String)
  | payload (fault : PayloadFault)
  /-- Stated in words only. -/
  | stated (text : String)
  deriving DecidableEq, Repr

namespace FetchError

def statusMessage (code : Int) (reason : String) : String :=
  "server responded with " ++ String.ofList (Number.ofInt code) ++ " " ++ reason

/-- A content type as a message shows it. -/
def contentTypeText : Option String → String
  | none => "None"
  | some raw => String.ofList (Text.Quoted.quoted raw.toList)

def message : FetchError → String
  | network path cause => "request to " ++ path ++ " failed: " ++ cause
  | status code reason => statusMessage code reason
  | contentType raw => "unknown content type " ++ contentTypeText raw
  | payload fault => fault.message
  | stated text => text

end FetchError

inductive Failure where
  | fetch (e : FetchError)
  | fault (f : Http.Fault)
  /-- The character set that a body names cannot read it. -/
  | unreadable (f : Text.Charset.Fault)
  /-- Arrays and objects lie inside each other too deep to be read; the innermost is of a kind. -/
  | tooDeep (k : Json.Kind)
  deriving DecidableEq, Repr

inductive Category where
  | network | status | unauthorized | notFound | contentType | decoding | unknown
  deriving DecidableEq, Repr

def Category.text : Category → String
  | network => "network_error"
  | status => "http_status"
  | unauthorized => "unauthorized"
  | notFound => "not_found"
  | contentType => "unknown_content_type"
  | decoding => "decode_error"
  | unknown => "unknown"

namespace FetchError

def category : FetchError → Category
  | network _ _ => .network
  | status code _ =>
    if code = 401 ∨ code = 403 then .unauthorized
    else if code = 404 then .notFound
    else .status
  | contentType _ => .contentType
  | payload _ => .decoding
  | stated _ => .unknown

end FetchError

namespace Failure

/-- A fault that is passed on counts as one of the network if a connection broke. -/
def category : Failure → Category
  | fetch e => e.category
  | fault (.reported .transport _ _) | fault (.reported .connection _ _) => .network
  | fault _ | unreadable _ | tooDeep _ => .unknown

def depthMessage (k : Json.Kind) : String :=
  "maximum recursion depth exceeded while decoding a JSON " ++
    (if k = .array then "array" else "object") ++ " from a unicode string"

def message : Failure → String
  | fetch e => e.message
  | fault f => f.message
  | unreadable f => f.text
  | tooDeep k => depthMessage k

end Failure

end Karaoke.Catalog
