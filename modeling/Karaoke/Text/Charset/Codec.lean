import Karaoke.Text.Charset.SingleByte
import Karaoke.Text.Charset
import Karaoke.Text.Utf16

/-!
# Codecs

A codec reads one character set and bears the names of the set. Some names are those of a coding
that is no character set, or of a set that is never read with replacement; they are known, and what
is in them cannot be read. The sets of more than one byte a character are those of Unicode.
-/

set_option autoImplicit false

namespace Karaoke.Text

structure Codec where
  proper : String
  aliases : List String := []
  /-- The text of a body, with the replacement character for what is not in the set. -/
  decode : List UInt8 → Except Charset.Fault (List Char)
  /-- The text of bytes that are all in the set. -/
  decode? : List UInt8 → Option (List Char)

namespace Codec

def bears (c : Codec) (name : List Char) : Bool :=
  Charset.isNameOf c.proper c.aliases name

def ofSingleByte (t : SingleByte) : Codec where
  proper := t.proper
  aliases := t.aliases
  decode bs := .ok (bs.map (fun b => (t.char? b).getD '\uFFFD'))
  decode? bs := bs.mapM t.char?

/-! ## Unicode -/

/-- A codec that reads pieces, of which those without a character are malformed. -/
def ofPieces (proper : String) (aliases : List String) (pieces : List UInt8 → List (Option Char)) :
    Codec where
  proper
  aliases
  decode bs := .ok ((pieces bs).map (·.getD '\uFFFD'))
  decode? bs := (pieces bs).mapM id

/-- A codec that goes by the mark in front of a text, which is read as `marked` says if there is
one. With replacement no text of a full unit is read without a mark, otherwise it is little
endian. -/
def ofMarked (proper : String) (aliases : List String) (width : Nat) (label : String)
    (marked : List UInt8 → Option (List (Option Char)))
    (pieces : List UInt8 → List (Option Char)) : Codec where
  proper
  aliases
  decode bs :=
    match marked bs with
    | some ps => .ok (ps.map (·.getD '\uFFFD'))
    | none =>
      if bs.length < width then .ok ((pieces bs).map (·.getD '\uFFFD'))
      else .error ⟨"UnicodeError", label ++ " stream does not start with BOM"⟩
  decode? bs := ((marked bs).getD (pieces bs)).mapM id

/-- The pieces of UTF-8 behind a mark that may be missing. -/
def markedUtf8 : List UInt8 → List (Option Char)
  | 0xef :: 0xbb :: 0xbf :: rest => Utf8.pieces none rest
  | bs => Utf8.pieces none bs

/-- UTF-8 with a mark. With replacement nothing is read of a mark that is incomplete. -/
def utf8WithMark : Codec :=
  let c := ofPieces "utf_8_sig" [] markedUtf8
  { c with decode := fun bs => if bs = [0xef] ∨ bs = [0xef, 0xbb] then .ok [] else c.decode bs }

def markedUtf16? : List UInt8 → Option (List (Option Char))
  | 0xff :: 0xfe :: rest => some (Utf16.pieces .little none rest)
  | 0xfe :: 0xff :: rest => some (Utf16.pieces .big none rest)
  | _ => none

def markedUtf32? : List UInt8 → Option (List (Option Char))
  | 0xff :: 0xfe :: 0x00 :: 0x00 :: rest => some (Utf32.pieces .little rest)
  | 0x00 :: 0x00 :: 0xfe :: 0xff :: rest => some (Utf32.pieces .big rest)
  | _ => none

def unicode : List Codec :=
  [utf8WithMark,
   ofPieces "utf_16_le" ["unicodelittleunmarked", "utf_16le"] (Utf16.pieces .little none),
   ofPieces "utf_16_be" ["unicodebigunmarked", "utf_16be"] (Utf16.pieces .big none),
   ofPieces "utf_32_le" ["utf_32le"] (Utf32.pieces .little),
   ofPieces "utf_32_be" ["utf_32be"] (Utf32.pieces .big),
   ofMarked "utf_16" ["u16", "utf16"] 2 "UTF-16" markedUtf16? (Utf16.pieces .little none),
   ofMarked "utf_32" ["u32", "utf32"] 4 "UTF-32" markedUtf32? (Utf32.pieces .little)]

/-! ## What cannot be read -/

/-- A codec that refuses to read with replacement. -/
def refusing (proper : String) (aliases : List String) (label text : String)
    (decode? : List UInt8 → Option (List Char) := fun _ => none) : Codec where
  proper
  aliases
  decode _ := .error ⟨label, text⟩
  decode?

/-- Codings of bytes as bytes; they keep to strictness by an assertion that has no words. -/
def transforms : List (String × List String) :=
  [("hex_codec", ["hex"]), ("base64_codec", ["base64", "base_64"]), ("uu_codec", ["uu"]),
   ("quopri_codec", ["quopri", "quoted_printable", "quotedprintable"]),
   ("zlib_codec", ["zip", "zlib"]), ("bz2_codec", ["bz2"])]

/-- The text of bytes in the set of domain names: ASCII without an encoded label. -/
def domainText? (bs : List UInt8) : Option (List Char) :=
  let mark := "xn--".toList.map (UInt8.ofNat ·.toNat)
  if (List.range bs.length).any (fun place => mark.isPrefixOf (bs.drop place)) then none
  else bs.mapM (fun b => if b.toNat < 0x80 then some (Char.ofNat b.toNat) else none)

def unread : List Codec :=
  transforms.map (fun t => refusing t.1 t.2 "AssertionError" "") ++
    [refusing "rot_13" ["rot13"] "TypeError"
      "descriptor 'translate' for 'str' objects doesn't apply to a 'bytes' object",
     refusing "undefined" [] "UnicodeError" "undefined encoding",
     refusing "idna" [] "UnicodeError" "Unsupported error handling replace" domainText?]

def all : List Codec :=
  unicode ++ unread ++
    (SingleByte.isoSets ++ SingleByte.koiSets ++ SingleByte.windowsSets).map ofSingleByte

end Codec

/-- The character sets of some codecs. -/
@[reducible]
def Charsets.ofCodecs (cs : List Codec) : Charsets where
  knows name := cs.any (·.bears name)
  decode name bs :=
    match cs.find? (·.bears name) with
    | some c => c.decode bs
    | none => .error ⟨"LookupError", "unknown encoding: " ++ String.ofList name⟩
  decode? name bs := (cs.find? (·.bears name)).bind (·.decode? bs)

/-- The character sets of a platform that has the codecs of this library. -/
@[reducible]
def Charsets.builtin : Charsets :=
  .ofCodecs Codec.all

end Karaoke.Text
