import Karaoke.Text.Wide

/-!
# UTF-16 and UTF-32

Text in units of two or four bytes, in either byte order. A pair of surrogate units stands for
one character. There are two ways of reading. In the one a surrogate without its partner stands for
itself, and an incomplete unit or a number outside the code space makes the whole text unreadable.
In the other each of these gives one malformed piece, and what follows is read on.
-/

set_option autoImplicit false

namespace Karaoke.Text

inductive ByteOrder where
  | big | little
  deriving DecidableEq, Repr

/-- The number that a group of bytes stands for. -/
def ByteOrder.value (o : ByteOrder) (bs : List UInt8) : Nat :=
  let big := match o with | .big => bs | .little => bs.reverse
  big.foldl (fun n b => n * 0x100 + b.toNat) 0

def isHighSurrogate (n : Nat) : Bool := 0xd800 ≤ n && n < 0xdc00

def isLowSurrogate (n : Nat) : Bool := 0xdc00 ≤ n && n < 0xe000

/-- The code point that a pair of surrogates stands for. -/
def joinSurrogates (high low : Nat) : Nat :=
  0x10000 + (high - 0xd800) * 0x400 + (low - 0xdc00)

namespace Utf16

/-- The 16-bit units of a byte sequence of even length. -/
def units? (o : ByteOrder) : List UInt8 → Option (List Nat)
  | [] => some []
  | [_] => none
  | a :: b :: bs => (units? o bs).map (o.value [a, b] :: ·)

def ofUnits? : List Nat → Option (List Symbol)
  | [] => some []
  | [n] => (Symbol.ofCode? n).map ([·])
  | n :: m :: ns =>
    if isHighSurrogate n && isLowSurrogate m then
      (Symbol.ofCode? (joinSurrogates n m)).bind (fun c => (ofUnits? ns).map (c :: ·))
    else (Symbol.ofCode? n).bind (fun c => (ofUnits? (m :: ns)).map (c :: ·))

def decode? (o : ByteOrder) (bs : List UInt8) : Option (List Symbol) :=
  (units? o bs).bind ofUnits?

/-- The pieces of a byte sequence, after a high surrogate that may have been read. A piece without
a character is malformed; a high surrogate at the end takes an incomplete unit with it. -/
def pieces (o : ByteOrder) : Option Nat → List UInt8 → List (Option Char)
  | none, [] => []
  | _, [] | _, [_] => [none]
  | none, a :: b :: bs =>
    let n := o.value [a, b]
    if isHighSurrogate n then pieces o (some n) bs
    else if isLowSurrogate n then none :: pieces o none bs
    else some (Char.ofNat n) :: pieces o none bs
  | some high, a :: b :: bs =>
    let n := o.value [a, b]
    if isLowSurrogate n then some (Char.ofNat (joinSurrogates high n)) :: pieces o none bs
    else if isHighSurrogate n then none :: pieces o (some n) bs
    else none :: some (Char.ofNat n) :: pieces o none bs

end Utf16

namespace Utf32

def decode? (o : ByteOrder) : List UInt8 → Option (List Symbol)
  | [] => some []
  | a :: b :: c :: d :: bs =>
    (Symbol.ofCode? (o.value [a, b, c, d])).bind (fun x => (decode? o bs).map (x :: ·))
  | _ => none

/-- The character of a code point, if it is one. -/
def char? (n : Nat) : Option Char :=
  match Symbol.ofCode? n with
  | some (.char c) => some c
  | _ => none

/-- The pieces of a byte sequence. A piece without a character is malformed. -/
def pieces (o : ByteOrder) : List UInt8 → List (Option Char)
  | [] => []
  | a :: b :: c :: d :: bs => char? (o.value [a, b, c, d]) :: pieces o bs
  | _ => [none]

end Utf32

end Karaoke.Text
