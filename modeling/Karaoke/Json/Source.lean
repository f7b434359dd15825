import Karaoke.Json.Reader
import Karaoke.Text.Utf8

/-!
# JSON documents

A document is bytes in UTF-8, UTF-16 or UTF-32. A byte order mark settles which; without one the
zero bytes at the front tell, since JSON text begins with an ASCII character.
-/

set_option autoImplicit false

namespace Karaoke.Json

open Text

/-- The encoding of a document without a byte order mark. -/
def bareText? (bs : List UInt8) : Option (List Symbol) :=
  match bs with
  | a :: b :: c :: d :: _ =>
    if a = 0 then if b = 0 then Utf32.decode? .big bs else Utf16.decode? .big bs
    else if b = 0 then
      if c = 0 ∧ d = 0 then Utf32.decode? .little bs else Utf16.decode? .little bs
    else Utf8.decode? bs
  | [a, b] =>
    if a = 0 then Utf16.decode? .big bs
    else if b = 0 then Utf16.decode? .little bs
    else Utf8.decode? bs
  | _ => Utf8.decode? bs

/-- The text of a document, without its byte order mark. -/
def text? (bs : List UInt8) : Option (List Symbol) :=
  match bs with
  | 0x00 :: 0x00 :: 0xfe :: 0xff :: rest => Utf32.decode? .big rest
  | 0xff :: 0xfe :: 0x00 :: 0x00 :: rest => Utf32.decode? .little rest
  | 0xfe :: 0xff :: rest => Utf16.decode? .big rest
  | 0xff :: 0xfe :: rest => Utf16.decode? .little rest
  | 0xef :: 0xbb :: 0xbf :: rest => Utf8.decode? rest
  | bs => bareText? bs

/-- The value that a document holds. -/
def ofBytes (bs : List UInt8) : Except Fault Value :=
  match text? bs with
  | some cs => parse cs
  | none => .error .malformed

end Karaoke.Json
