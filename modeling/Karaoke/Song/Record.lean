import Karaoke.Song
import Karaoke.Json.Literal

/-!
# Song records

A record is an object whose members give the fields of a song. A number or a truth value counts
as its text; an empty text in an optional field counts as missing. All fields that are wrong are
reported, in the order of the fields.
-/

set_option autoImplicit false

namespace Karaoke.Song

open Json (Value Members)

inductive Field where
  | title | artist | hash | cover | language | video | year | genre | bpm | singer1 | singer2
  deriving DecidableEq, Repr

namespace Field

/-- Every field, in the order in which faults are reported. -/
def all : List Field :=
  [title, artist, hash, cover, language, video, year, genre, bpm, singer1, singer2]

@[simp] theorem mem_all (f : Field) : f ∈ all := by cases f <;> decide

/-- The name of a field. -/
def name : Field → String
  | title => "title"
  | artist => "artist"
  | hash => "song_hash"
  | cover => "cover"
  | language => "language"
  | video => "video"
  | year => "year"
  | genre => "genre"
  | bpm => "bpm"
  | singer1 => "duet_singer_1"
  | singer2 => "duet_singer_2"

/-- The name under which the server sends a field; the singers have names of their own there. -/
def wireName : Field → String
  | singer1 => "duetsingerp1"
  | singer2 => "duetsingerp2"
  | f => f.name

/-- Whether a record must have the field. -/
def required : Field → Bool
  | title | artist | hash => true
  | _ => false

/-- Whether the field always has a text, be it empty. -/
def isText : Field → Bool
  | title | artist | hash | bpm => true
  | _ => false

end Field

/-- What is wrong with a record. -/
inductive RecordFault where
  | notARecord
  | missing (f : Field)
  /-- The value under a key has no text. -/
  | notText (key : String)
  deriving DecidableEq, Repr

/-- The text of a single value; nothing for a null, and no answer for a value of several parts. -/
def text? : Value → Option (Option String)
  | .null => some none
  | .array _ => none
  | .object _ => none
  | v => some (some (String.ofList v.text))

/-- A text in a field: where a text is always there a missing one is empty, elsewhere an empty
one is missing. -/
def Field.settle (f : Field) (t : Option String) : Option String :=
  if f.isText then some (t.getD "") else if t = some "" then none else t

/-- The member that a field is read from: the one under its wire name, else under its own. -/
def Field.source? (f : Field) (ms : Members) : Option (String × Value) :=
  match ms.get? f.wireName with
  | some v => some (f.wireName, v)
  | none => (ms.get? f.name).map (f.name, ·)

/-- The text of a field in a record. -/
def Field.read (f : Field) (ms : Members) : Except RecordFault (Option String) :=
  match f.source? ms with
  | none => if f.required then .error (.missing f) else .ok (f.settle none)
  | some (key, v) =>
    match text? v with
    | some t => .ok (f.settle t)
    | none => .error (.notText key)

def Field.fault? (f : Field) (ms : Members) : Option RecordFault :=
  match f.read ms with
  | .ok _ => none
  | .error e => some e

/-- The text that a field of a record has, if any. -/
def Field.value? (f : Field) (ms : Members) : Option String :=
  match f.read ms with
  | .ok t => t
  | .error _ => none

/-- Everything that is wrong with the members of a record. -/
def faults (ms : Members) : List RecordFault :=
  Field.all.filterMap (·.fault? ms)

/-- The song that the members of a faultless record give. -/
def ofMembers (ms : Members) : Song where
  title := (Field.title.value? ms).getD ""
  artist := (Field.artist.value? ms).getD ""
  hash := (Field.hash.value? ms).getD ""
  cover := Field.cover.value? ms
  language := Field.language.value? ms
  video := Field.video.value? ms
  year := Field.year.value? ms
  genre := Field.genre.value? ms
  bpm := (Field.bpm.value? ms).getD ""
  singer1 := Field.singer1.value? ms
  singer2 := Field.singer2.value? ms

/-- The song of a record, or all its faults. -/
def ofValue : Value → Except (List RecordFault) Song
  | .object ms => if faults ms = [] then .ok (ofMembers ms) else .error (faults ms)
  | _ => .error [.notARecord]

/-- The songs of a list of records, or the faults of the first that has any. -/
def ofValues (vs : List Value) : Except (List RecordFault) (List Song) :=
  vs.mapM ofValue

end Karaoke.Song
