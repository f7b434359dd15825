import Karaoke.Number.Integer
import Karaoke.Text.Blank
import Karaoke.Text.Charset
import Karaoke.Text.Cut
import Karaoke.Text.Quoted

/-!
# Media types

A media type has a name and parameters, separated by semicolons. The value of a parameter may come
in numbered sections, some of them percent-encoded; then the name of its character set and its
language stand in front of the value. A parameter that comes in one piece goes before one that
comes in sections.
-/

set_option autoImplicit false

namespace Karaoke.Http.MediaType

/-- The pieces of a text between semicolons. One between quotes separates nothing, nor does one
after a quote that is never closed. A quote after a backslash opens and closes nothing. -/
def pieces (quoted escaped : Bool) : List Char → List (List Char)
  | [] => [[]]
  | c :: cs =>
    if c = ';' ∧ !quoted then [] :: pieces false false cs
    else match pieces (if c = '"' ∧ !escaped then !quoted else quoted) (c = '\\') cs with
      | p :: ps => (c :: p) :: ps
      | [] => [[c]]

/-- The name of a media type: what precedes the first semicolon, in lower case. -/
def name (raw : List Char) : List Char :=
  (Text.trim (raw.takeWhile (· != ';'))).map Char.toLower

structure Parameter where
  name : List Char
  value : List Char
  deriving DecidableEq, Repr

/-- A text without the backslashes in front of a character. -/
def unescaped (c : Char) : List Char → List Char
  | '\\' :: d :: cs => if d = c then c :: unescaped c cs else '\\' :: unescaped c (d :: cs)
  | d :: cs => d :: unescaped c cs
  | [] => []

/-- A value without the quotes or angle brackets around it. -/
def unquoted (cs : List Char) : List Char :=
  if 2 ≤ cs.length ∧ cs.head? = some '"' ∧ cs.getLast? = some '"' then
    unescaped '"' (unescaped '\\' cs.tail.dropLast)
  else if 2 ≤ cs.length ∧ cs.head? = some '<' ∧ cs.getLast? = some '>' then cs.tail.dropLast
  else cs

/-- A parameter as a piece writes it; without an equals sign its value is empty. -/
def Parameter.ofPiece (piece : List Char) : Parameter :=
  match Text.cut? '=' piece with
  | some (name, value) =>
    { name := (Text.trim name).map Char.toLower, value := unquoted (Text.trim value) }
  | none => { name := Text.trim piece, value := [] }

/-- The pieces of a media type as parameters, its name in front. -/
def parameters (raw : List Char) : List Parameter :=
  (pieces false false raw).map Parameter.ofPiece

/-! ## Sections -/

/-- A section of the value of a parameter; its number is in digits, of which there may be none. -/
structure Section where
  name : List Char
  digits : List Char
  value : List Char
  encoded : Bool
  deriving DecidableEq, Repr

def isWordChar (c : Char) : Bool :=
  c.isAlphanum || c == '_'

/-- The section that a parameter with a star in its name gives. -/
def Parameter.section? (p : Parameter) : Option Section :=
  match Text.cut? '*' p.name with
  | none => none
  | some (name, mark) =>
    let digits := mark.takeWhile Char.isDigit
    let star := mark.drop digits.length
    if name = [] ∨ !name.all isWordChar ∨ !(star == [] || star == ['*'] && digits != []) then none
    else some { name, digits, value := p.value, encoded := p.name.getLast? = some '*' }

/-- The order in which sections are put together. -/
def Section.before (a b : Section) : Bool :=
  let place (s : Section) : Nat := Number.ofAscii s.digits
  place a < place b || (place a == place b &&
    (String.ofList a.value < String.ofList b.value ||
      (a.value == b.value && (!a.encoded || b.encoded))))

/-- A section and one of the same parameter cannot be put in order if only one has a number. -/
def Section.clashes (a b : Section) : Bool :=
  a.name == b.name && a.digits.isEmpty != b.digits.isEmpty

def longFault (digits : Nat) : Text.Charset.Fault where
  label := "ValueError"
  text := "Exceeds the limit (" ++ toString Number.maxDigits ++
    " digits) for integer string conversion: value has " ++ toString digits ++
    " digits; use sys.set_int_max_str_digits() to increase the limit"

/-- The clash of a section that comes first of its parameter. -/
def clashFault (first : Section) : Text.Charset.Fault where
  label := "TypeError"
  text := if first.digits.isEmpty
    then "'<' not supported between instances of 'int' and 'NoneType'"
    else "'<' not supported between instances of 'NoneType' and 'int'"

/-- The sections among parameters. -/
def sections (ps : List Parameter) : Except Text.Charset.Fault (List Section) :=
  let found := ps.filterMap Parameter.section?
  match found.find? (Number.maxDigits < ·.digits.length) with
  | some long => .error (longFault long.digits.length)
  | none =>
    match found.find? (fun s => found.any s.clashes) with
    | some first => .error (clashFault first)
    | none => .ok found

def hexDigit? (c : Char) : Option Nat :=
  if c.isDigit then some (c.toNat - '0'.toNat)
  else if 'a' ≤ c.toLower ∧ c.toLower ≤ 'f' then some (c.toLower.toNat - 'a'.toNat + 10)
  else none

/-- The bytes, as characters, that a percent-encoded text stands for. -/
def unpercented : List Char → List Char
  | '%' :: a :: b :: cs =>
    match hexDigit? a, hexDigit? b with
    | some x, some y => Char.ofNat (x * 16 + y) :: unpercented cs
    | _, _ => '%' :: unpercented (a :: b :: cs)
  | c :: cs => c :: unpercented cs
  | [] => []

/-! ## Values -/

/-- The value of a parameter: a text, or one whose characters are bytes of a set. -/
inductive Value where
  | plain (text : List Char)
  | encoded (set text : List Char)
  deriving DecidableEq, Repr

/-- The value that sections give. The set and the language stand in front of one that is encoded,
and may be missing. -/
def joined (sections : List Section) : Value :=
  let text := (sections.mergeSort Section.before).flatMap
    (fun s => if s.encoded then unpercented s.value else s.value)
  if sections.any (·.encoded) then
    match Text.cut? '\'' text with
    | some (set, rest) =>
      match Text.cut? '\'' rest with
      | some (_, text) => .encoded set text
      | none => .encoded [] text
    | none => .encoded [] text
  else .plain text

/-- The value of a parameter. -/
def parameter? (name : List Char) (raw : List Char) :
    Except Text.Charset.Fault (Option Value) := do
  let ps := parameters raw
  let sections ← sections ps.tail
  match ps.find? (fun p => p.name.map Char.toLower = name) with
  | some p => .ok (some (.plain p.value))
  | none =>
    match sections.find? (fun s => s.name.map Char.toLower = name) with
    | some s => .ok (some (joined (sections.filter (·.name = s.name))))
    | none => .ok none

/-- The bytes of an encoded value. What is no byte is written by its code point. -/
def bytes (text : List Char) : List UInt8 :=
  (text.flatMap (fun c => if c.toNat < 0x100 then [c] else Text.Quoted.byCode c)).map
    (UInt8.ofNat ·.toNat)

variable [Text.Charsets]

/-- The text of a value. One that is not in its set, or in none, is taken as it is written. -/
def Value.text : Value → Except Text.Charset.Fault (List Char)
  | plain text => .ok text
  | encoded set text =>
    if set.contains '\x00' then .error Text.Charset.zeroFault
    else
      let set := if set = [] then "ascii".toList else set
      .ok ((((Text.Charset.own? set).getD (.other set)).decode? (bytes text)).getD text)

/-- The character set that a media type names; UTF-8 if it names none. Only an ASCII name is one. -/
def charset (raw : List Char) : Except Text.Charset.Fault Text.Charset := do
  match ← parameter? "charset".toList raw with
  | none => .ok .utf8
  | some value =>
    let name ← value.text
    if name.all (·.toNat < 0x80) then Text.Charset.ofName (name.map Char.toLower)
    else .ok .utf8

end Karaoke.Http.MediaType
