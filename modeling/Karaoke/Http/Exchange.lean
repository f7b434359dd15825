import Karaoke.Compress.Stream
import Karaoke.Http.MediaType
import Karaoke.Http.Url

/-!
# Requests and responses

What goes to a server and what comes back: a response, or a fault that kept it from coming.
-/

set_option autoImplicit false

namespace Karaoke.Http

inductive Method where
  | get | put | delete
  deriving DecidableEq, Repr

def Method.text : Method → String
  | get => "GET"
  | put => "PUT"
  | delete => "DELETE"

/-- A request for a path below the base address. -/
structure Request where
  method : Method
  path : String
  deriving DecidableEq, Repr

/-- A request as it is sent. -/
structure Sent where
  method : Method
  url : Url
  accept : String
  cookie : Option String
  deriving DecidableEq, Repr

namespace Sent

def target (s : Sent) : String :=
  String.ofList s.url.target

/-- The host that the request names, with its socket; none if the address has no host. -/
def host (s : Sent) : Option String :=
  if s.url.host = [] then none else some (String.ofList s.url.location)

end Sent

structure Response where
  status : Int := 200
  headers : List (String × String) := []
  body : List UInt8 := []
  deriving DecidableEq, Repr

/-- The kinds of fault that are reported from outside. -/
inductive FaultKind where
  /-- The exchange broke down on the way: no connection, a timeout, a breach of protocol. -/
  | transport
  /-- The exchange took place and could not be used, as with too many redirects. -/
  | exchange
  /-- The system lost a connection or let a deadline pass. -/
  | connection
  | other
  deriving DecidableEq, Repr

/-- Why there is no response. -/
inductive Fault where
  /-- A fault with the name and the words in which it was reported. -/
  | reported (kind : FaultKind) (label text : String)
  /-- The body is not in the coding that its headers name. -/
  | coding (f : Compress.Fault)
  /-- The address that a response refers to cannot be read. -/
  | reference (f : Url.Fault)
  | address (f : Url.Fault)
  /-- An address that does not begin with a scheme, where cookies ask for one. -/
  | noScheme (text : List Char)
  /-- A text that has to be ASCII and is not. -/
  | beyondAscii (text : List Char)
  | domain (f : Domain.Fault)
  deriving DecidableEq, Repr

namespace Fault

/-- Whether a fault is one of the exchange itself. -/
def isOfExchange : Fault → Bool
  | reported kind _ _ => kind = .transport || kind = .exchange
  | coding _ | reference _ => true
  | _ => false

def isAscii (c : Char) : Bool :=
  c.toNat < 0x80

/-- Where a text leaves ASCII: the first characters that do, and their places. -/
def beyondAsciiMessage (text : List Char) : String :=
  let start := (text.takeWhile isAscii).length
  let run := (text.drop start).takeWhile (!isAscii ·)
  let number (n : Nat) : String := String.ofList (Nat.toDigits 10 n)
  let which := match run with
    | [c] =>
      "character '" ++ String.ofList (Text.Quoted.byCode c) ++ "' in position " ++ number start
    | _ => "characters in position " ++ number start ++ "-" ++ number (start + run.length - 1)
  "'ascii' codec can't encode " ++ which ++ ": ordinal not in range(128)"

def message : Fault → String
  | reported _ _ text => text
  | coding f => f.message
  | reference f => "Invalid URL in location header: " ++ f.message ++ "."
  | address f => f.message
  | noScheme text => "unknown url type: " ++ String.ofList (Text.Quoted.quoted text)
  | beyondAscii text => beyondAsciiMessage text
  | domain f => f.message

end Fault

inductive Outcome where
  | response (r : Response)
  | fault (f : Fault)
  deriving DecidableEq, Repr

namespace Response

def sameName (a b : String) : Bool :=
  a.toList.map Char.toLower == b.toList.map Char.toLower

/-- The values of the headers with a name. -/
def headerValues (r : Response) (name : String) : List String :=
  (r.headers.filter (fun h => sameName h.1 name)).map (·.2)

/-- The value of a header; several of one name are joined by commas. -/
def header? (r : Response) (name : String) : Option String :=
  match r.headerValues name with
  | [] => none
  | values => some (", ".intercalate values)

/-- The content type as the server wrote it. -/
def rawContentType? (r : Response) : Option String :=
  r.header? "content-type"

def mediaType? (r : Response) : Option String :=
  r.rawContentType?.map (fun raw => String.ofList (MediaType.name raw.toList))

variable [Text.Charsets]

/-- The character set of the body; UTF-8 if the content type names none. -/
def charset (r : Response) : Except Text.Charset.Fault Text.Charset :=
  match r.rawContentType? with
  | some raw => MediaType.charset raw.toList
  | none => .ok .utf8

/-- The body as text. Of an empty body no set is asked. -/
def text (r : Response) : Except Text.Charset.Fault (List Char) :=
  if r.body = [] then .ok [] else r.charset >>= (·.decode r.body)

end Response

end Karaoke.Http
