import Karaoke.Browser.Message
import Karaoke.Catalog.Failure

/-!
# Notices

What a session reports besides what it shows.
-/

set_option autoImplicit false

namespace Karaoke

inductive Notice where
  | songsFetchFailed (e : Catalog.FetchError)
  | indexFetchFailed (e : Catalog.FetchError)
  | listFetchFailed (name : String) (e : Catalog.FetchError)
  /-- The browser has no songs for now. -/
  | songsUnavailable (error : String)
  /-- The browser has no members of a list for now. -/
  | listUnavailable (name : String) (error : String)
  /-- The browser has no use for a kind of message. -/
  | unhandled (kind : String)
  /-- What a message led to could not be shown. -/
  | processingFailed (m : Message)
  deriving DecidableEq, Repr

namespace Notice

inductive Level where
  | warning | error
  deriving DecidableEq, Repr

def Level.text : Level → String
  | warning => "WARNING"
  | error => "ERROR"

def level : Notice → Level
  | songsUnavailable _ | listUnavailable _ _ | unhandled _ => .warning
  | _ => .error

def event : Notice → String
  | songsFetchFailed _ => "songs_fetch_failed"
  | indexFetchFailed _ => "custom_list_index_fetch_failed"
  | listFetchFailed _ _ => "custom_list_fetch_failed"
  | songsUnavailable _ => "songs_unavailable"
  | listUnavailable _ _ => "custom_list_fetch_failed"
  | unhandled _ => "unhandled_message"
  | processingFailed _ => "message_processing_failed"

end Notice

/-- What a browser reports about a message. -/
def Message.notice? : Message → Option Notice
  | songsFailed error => some (.songsUnavailable error)
  | listFailed name error => some (.listUnavailable name error)
  | unknown kind => some (.unhandled kind)
  | _ => none

end Karaoke
