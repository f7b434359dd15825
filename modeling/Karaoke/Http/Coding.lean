import Karaoke.Compress.Stream
import Karaoke.Text.Blank

/-!
# Content codings

A body may be compressed, several times over; the headers name the codings in the order in which
they were applied. A coding that is not known is taken for none.
-/

set_option autoImplicit false

namespace Karaoke.Http

inductive Coding where
  | gzip
  /-- A stream with a header, or deflated data without one. -/
  | deflate
  deriving DecidableEq, Repr

namespace Coding

def ofName? (name : List Char) : Option Coding :=
  match String.ofList ((Text.trim name).map Char.toLower) with
  | "gzip" => some gzip
  | "deflate" => some deflate
  | _ => none

/-- The codings that the values of a header name. -/
def ofValues (values : List String) : List Coding :=
  values.flatMap (fun v => (v.toList.splitOn ',').filterMap ofName?)

/-- A body before a coding was applied to it. -/
def decode (c : Coding) (bs : List UInt8) : Except Compress.Fault (List UInt8) :=
  match c with
  | gzip => Compress.decompress .gzip bs
  | deflate =>
    match Compress.decompress .zlib bs with
    | .ok out => .ok out
    | .error _ => Compress.decompress .bare bs

/-- A body before some codings were applied to it, the last of them first. -/
def decodeAll (cs : List Coding) (bs : List UInt8) : Except Compress.Fault (List UInt8) :=
  cs.foldr (fun c r => r.bind c.decode) (.ok bs)

@[simp] theorem decodeAll_nil (bs : List UInt8) : decodeAll [] bs = .ok bs := rfl

end Coding

end Karaoke.Http
