import Karaoke.Text.Utf8

/-!
# Character sets of a text body

A body is read in the character set that its content type names; a missing or unknown name means
UTF-8. What a set cannot read becomes the replacement character. UTF-8, Latin-1 and ASCII are
spelled out here. All other sets are those of the platform, which may also be unable to read a body.
-/

set_option autoImplicit false

namespace Karaoke.Text

inductive Charset where
  | utf8 | latin1 | ascii
  /-- A set of the platform, by one of its names. -/
  | other (name : List Char)
  deriving DecidableEq, Repr

namespace Charset

/-- An error that is raised where a text is read, with its name and words. -/
structure Fault where
  label : String
  text : String
  deriving DecidableEq, Repr

end Charset

/-- The character sets of a platform, by their names. They write half of a surrogate pair as the
replacement character. -/
class Charsets where
  /-- Whether a name is that of a set. -/
  knows : List Char → Bool
  /-- The text of a body, with the replacement character for what is not in the set. -/
  decode : List Char → List UInt8 → Except Charset.Fault (List Char)
  /-- The text of bytes that are all in the set, if there is a set of the name. -/
  decode? : List Char → List UInt8 → Option (List Char)

namespace Charset

/-! ## Names -/

/-- The words of a name, which anything but letters, digits and points separates. -/
def nameWords (name : List Char) : List (List Char) :=
  (name.splitOnP (fun c => !(c.isAlphanum || c == '.'))).filter (!·.isEmpty)

/-- The name in lower case with `_` between its words. -/
def normalName (name : List Char) : String :=
  String.ofList (['_'].intercalate (nameWords (name.map Char.toLower)))

/-- Whether a name stands for the set of a proper name. An alias may also have points for `_`. -/
def isNameOf (proper : String) (aliases : List String) (name : List Char) : Bool :=
  let name := normalName name
  name == proper || aliases.contains name ||
    aliases.contains (String.ofList (name.toList.map (fun c => if c = '.' then '_' else c)))

def utf8Aliases : List String :=
  ["utf8", "utf", "u8", "utf8_ucs2", "utf8_ucs4", "cp65001"]

def latin1Aliases : List String :=
  ["latin1", "latin", "l1", "iso_8859_1", "iso8859_1", "iso8859", "8859", "cp819", "csisolatin1",
   "ibm819", "iso_8859_1_1987", "iso_ir_100"]

def asciiAliases : List String :=
  ["us_ascii", "us", "646", "ansi_x3.4_1968", "ansi_x3_4_1968", "ansi_x3.4_1986", "cp367",
   "csascii", "ibm367", "iso646_us", "iso_646.irv_1991", "iso_ir_6"]

/-- The set that a name stands for, if it is not one of the platform. -/
def own? (name : List Char) : Option Charset :=
  if isNameOf "utf_8" utf8Aliases name then some utf8
  else if isNameOf "latin_1" latin1Aliases name then some latin1
  else if isNameOf "ascii" asciiAliases name then some ascii
  else none

/-- Names are not looked up beyond a zero. -/
def zeroFault : Fault where
  label := "ValueError"
  text := "embedded null character"

variable [Charsets]

/-- The set that a name stands for. -/
def ofName (name : List Char) : Except Fault Charset :=
  if name.contains '\x00' then .error zeroFault
  else match own? name with
    | some set => .ok set
    | none => .ok (if Charsets.knows name then other name else utf8)

/-! ## Texts -/

/-- The text of a body. -/
def decode : Charset → List UInt8 → Except Fault (List Char)
  | utf8, bs => .ok (Utf8.decodeLossy bs)
  | latin1, bs => .ok (bs.map (fun b => Char.ofNat b.toNat))
  | ascii, bs => .ok (bs.map (fun b => if b.toNat < 0x80 then Char.ofNat b.toNat else '\uFFFD'))
  | other name, bs => Charsets.decode name bs

/-- The text of bytes that are all in a set. -/
def decode? : Charset → List UInt8 → Option (List Char)
  | utf8, bs => (Utf8.pieces none bs).mapM id
  | latin1, bs => some (bs.map (fun b => Char.ofNat b.toNat))
  | ascii, bs => bs.mapM (fun b => if b.toNat < 0x80 then some (Char.ofNat b.toNat) else none)
  | other name, bs => Charsets.decode? name bs

end Charset

end Karaoke.Text
