import Karaoke.Filter
import Karaoke.Json.Literal
import Karaoke.Number.Integer
import Karaoke.Text.Blank
import Karaoke.Text.LowerCase

/-!
# Settings

A setting is given directly or by a variable of the environment; what is given directly wins. Names
are told apart without regard to case. Every bad value is reported, in the order of the settings.
-/

set_option autoImplicit false

namespace Karaoke

structure Settings where
  baseUrl : String := "http://127.0.0.1:8080"
  sessionCookie : Option String := none
  logToken : Option String := none
  window : Int := 100
  threshold : Threshold := .full
  deriving DecidableEq, Repr, Inhabited

def Threshold.text : Threshold → String
  | full => "full"
  | half => "half"

def Threshold.ofText? (s : String) : Option Threshold :=
  [Threshold.full, .half].find? (fun t => t.text = s)

namespace Settings

open Json (Value)

inductive Field where
  | baseUrl | sessionCookie | logToken | window | threshold
  deriving DecidableEq, Repr

namespace Field

def all : List Field :=
  [baseUrl, sessionCookie, logToken, window, threshold]

def name : Field → String
  | baseUrl => "catalog_base_url"
  | sessionCookie => "catalog_session_cookie"
  | logToken => "logfire_token"
  | window => "initial_reveal_count"
  | threshold => "string_filter_threshold"

def ofName? (s : String) : Option Field :=
  all.find? (fun f => f.name = s)

end Field

inductive FaultKind where
  | notText
  | notANumber
  /-- A text that does not write an integer. -/
  | unreadable
  /-- A number with more digits, or of a greater size, than is read. -/
  | tooLong
  | notFinite
  | fractional
  | tooSmall
  | unknownChoice
  deriving DecidableEq, Repr

structure Fault where
  field : Field
  kind : FaultKind
  deriving DecidableEq, Repr

/-- Whether a text is a whole number without needless zeros. -/
def isWhole (ds : List Char) : Bool :=
  ds == ['0'] || (ds.all Char.isDigit && !ds.isEmpty && ds.head? != some '0')

/-- The sign and the digits of an integer in its plain form. -/
def plain? (cs : List Char) : Option (Bool × List Char) :=
  match cs with
  | '-' :: ds => if isWhole ds then some (true, ds) else none
  | ds => if isWhole ds then some (false, ds) else none

/-- Whether a number begins with a character once its leading zeros are gone. -/
def isLeading (c : Char) : Bool :=
  ('1' ≤ c && c ≤ '9') || c == '-'

/-- What is left of a number after zeros and underscores at its front, the last of which was
`last`. That one stays in front of a point and at the end. -/
def afterZeros? (last : Char) : List Char → Option (List Char)
  | [] => some [last]
  | c :: cs =>
    if c = '0' ∨ c = '_' then afterZeros? c cs
    else if isLeading c then some (c :: cs)
    else if c = '.' then some (last :: c :: cs)
    else none

/-- A number without its leading zeros. -/
def withoutZeros? : List Char → Option (List Char)
  | [] => none
  | c :: cs =>
    if c = '0' then afterZeros? c cs else if isLeading c then some (c :: cs) else none

/-- A number without a fraction of zeros. -/
def withoutFraction (cs : List Char) : List Char :=
  let zeros := (cs.dropWhile (· != '.')).drop 1
  if !zeros.isEmpty && zeros.all (· == '0') then cs.takeWhile (· != '.') else cs

/-- A number without its underscores, if each of them stands alone between two characters. -/
def withoutUnderscores (cs : List Char) : List Char :=
  if (cs.splitOn '_').any (·.isEmpty) then cs else cs.filter (· != '_')

/-- The plain form of a number that is written with white space around it, a plus sign, leading
zeros, a fraction of zeros or underscores. -/
def simplified? (cs : List Char) : Option (List Char) :=
  let cs := Text.strip Text.isWhite cs
  let unsigned := match cs with
    | '+' :: rest => if rest.head? = some '-' then none else some rest
    | cs => some cs
  (unsigned.bind withoutZeros?).map (fun cs => withoutUnderscores (withoutFraction cs))

/-- The integer that a text writes. -/
def readDigits (cs : List Char) : Except FaultKind Int :=
  match (plain? cs).or ((simplified? cs).bind plain?) with
  | none => .error .unreadable
  | some (negative, ds) =>
    if Number.maxDigits < ds.length then .error .tooLong
    else .ok (if negative then -Number.ofAscii ds else Number.ofAscii ds)

/-- The integer that a double is, if it is one of a size below `2 ^ 63`. -/
def readReal : Binary64 → Except FaultKind Int
  | .finite negative m e =>
    let (num, den) := Binary64.ratio m e
    if num % den ≠ 0 then .error .fractional
    else if Nat.pow 2 63 ≤ num / den then .error .tooLong
    else .ok (if negative then -(num / den : Nat) else (num / den : Nat))
  | _ => .error .notFinite

def readInt : Value → Except FaultKind Int
  | .int n => .ok n
  | .bool b => .ok (if b then 1 else 0)
  | .string s => readDigits s.toList
  | .real x => readReal x
  | _ => .error .notANumber

/-- How many songs are revealed: at least one. -/
def readWindow (v : Value) : Except FaultKind Int :=
  match readInt v with
  | .ok n => if 1 ≤ n then .ok n else .error .tooSmall
  | .error e => .error e

def readText : Value → Except FaultKind String
  | .string s => .ok s.toString
  | _ => .error .notText

def readOptional : Value → Except FaultKind (Option String)
  | .string s => .ok (some s.toString)
  | .null => .ok none
  | _ => .error .notText

def readThreshold : Value → Except FaultKind Threshold
  | .string s => match Threshold.ofText? s.toString with
    | some t => .ok t
    | none => .error .unknownChoice
  | _ => .error .unknownChoice

/-- Where settings come from: the variables of the environment and the values given directly. -/
structure Source where
  environment : List (String × String) := []
  given : List (String × Value) := []

/-- Whether a name is that of a setting, in any case. -/
def Field.isNamed (f : Field) (name : String) : Bool :=
  Text.lower name.toList == f.name.toList

/-- The value for a setting, if there is one. Of several that are given the first counts, and of
several variables the last. -/
def Source.value? (src : Source) (f : Field) : Option Value :=
  match src.given.find? (fun e => f.isNamed e.1) with
  | some e => some e.2
  | none => (src.environment.reverse.find? (fun e => f.isNamed e.1)).map (Value.ofString ·.2)

/-- A setting as it is read, or its default. -/
def Source.read {α : Type} (src : Source) (f : Field) (reader : Value → Except FaultKind α)
    (default : α) : Except FaultKind α :=
  match src.value? f with
  | some v => reader v
  | none => .ok default

def faultOf {α : Type} (f : Field) : Except FaultKind α → List Fault
  | .ok _ => []
  | .error kind => [⟨f, kind⟩]

def load (src : Source) : Except (List Fault) Settings :=
  let defaults : Settings := {}
  let baseUrl := src.read .baseUrl readText defaults.baseUrl
  let sessionCookie := src.read .sessionCookie readOptional defaults.sessionCookie
  let logToken := src.read .logToken readOptional defaults.logToken
  let window := src.read .window readWindow defaults.window
  let threshold := src.read .threshold readThreshold defaults.threshold
  match baseUrl, sessionCookie, logToken, window, threshold with
  | .ok baseUrl, .ok sessionCookie, .ok logToken, .ok window, .ok threshold =>
    .ok { baseUrl, sessionCookie, logToken, window, threshold }
  | _, _, _, _, _ =>
    .error (faultOf .baseUrl baseUrl ++ faultOf .sessionCookie sessionCookie ++
      faultOf .logToken logToken ++ faultOf .window window ++ faultOf .threshold threshold)

/-- The value of a setting. -/
def value (s : Settings) : Field → Value
  | .baseUrl => .ofString s.baseUrl
  | .sessionCookie => s.sessionCookie.elim .null .ofString
  | .logToken => s.logToken.elim .null .ofString
  | .window => .int s.window
  | .threshold => .ofString s.threshold.text

/-- Why a setting that is required is not to be had. -/
inductive Lack where
  /-- The setting has no value, or an empty one. -/
  | unset (f : Field) (service : String)
  | noSuchField (name : String)
  deriving DecidableEq, Repr

def Lack.message : Lack → String
  | unset f service =>
    service ++ " credential not configured. Set " ++ String.ofList (f.name.toList.map Char.toUpper)
      ++ " environment variable or add to .env file."
  | noSuchField name =>
    "'Settings' object has no attribute " ++ String.ofList (Text.Quoted.quoted name.toList)

/-- Whether a value is there at all: not missing, not empty and not zero. -/
def isSet : Value → Bool
  | .null => false
  | .string s => s.symbols != []
  | .int n => n != 0
  | _ => true

/-- The value of a setting that a service cannot do without. -/
def require (s : Settings) (field service : String) : Except Lack Value :=
  match Field.ofName? field with
  | none => .error (.noSuchField field)
  | some f => if isSet (s.value f) then .ok (s.value f) else .error (.unset f service)

end Settings

end Karaoke
