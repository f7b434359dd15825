import Karaoke.Text.Wide

/-!
# UTF-8

Bytes are read one at a time. A sequence that breaks off, or a byte that cannot start one, gives
one malformed piece for the bytes that could still have been the beginning of a character; the
byte that broke it off is read again on its own.
-/

set_option autoImplicit false

namespace Karaoke.Text.Utf8

/-- A character that has begun: the bits read so far, how many bytes are owed, and the range of
the next one. -/
structure Partial where
  bits : Nat
  owed : Nat
  low : Nat
  high : Nat
  deriving DecidableEq, Repr

/-- What a byte that stands at the beginning of a character gives: a finished piece or a
character that has begun. A piece without a character is malformed. -/
def start (b : UInt8) : List (Option Char) × Option Partial :=
  let n := b.toNat
  if n < 0x80 then ([some (Char.ofNat n)], none)
  else if n < 0xc2 then ([none], none)
  else if n < 0xe0 then ([], some ⟨n % 0x20, 1, 0x80, 0xbf⟩)
  else if n = 0xe0 then ([], some ⟨0, 2, 0xa0, 0xbf⟩)
  else if n = 0xed then ([], some ⟨0xd, 2, 0x80, 0x9f⟩)
  else if n < 0xf0 then ([], some ⟨n % 0x10, 2, 0x80, 0xbf⟩)
  else if n = 0xf0 then ([], some ⟨0, 3, 0x90, 0xbf⟩)
  else if n < 0xf4 then ([], some ⟨n % 8, 3, 0x80, 0xbf⟩)
  else if n = 0xf4 then ([], some ⟨4, 3, 0x80, 0x8f⟩)
  else ([none], none)

/-- A character that has begun with one byte more, if the byte continues it. -/
def Partial.step? (p : Partial) (b : UInt8) : Option (List (Option Char) × Option Partial) :=
  if p.low ≤ b.toNat ∧ b.toNat ≤ p.high then
    let bits := p.bits * 0x40 + b.toNat % 0x40
    if p.owed ≤ 1 then some ([some (Char.ofNat bits)], none)
    else some ([], some ⟨bits, p.owed - 1, 0x80, 0xbf⟩)
  else none

/-- The pieces of a byte sequence, after a character that may have begun. -/
def pieces : Option Partial → List UInt8 → List (Option Char)
  | none, [] => []
  | some _, [] => [none]
  | none, b :: bs =>
    let (out, p) := start b
    out ++ pieces p bs
  | some p, b :: bs =>
    match p.step? b with
    | some (out, p) => out ++ pieces p bs
    | none =>
      let (out, p) := start b
      none :: (out ++ pieces p bs)

/-- The surrogate that two bytes after the byte `ED` stand for. -/
def half? (b c : UInt8) : Option Symbol :=
  if 0xa0 ≤ b.toNat ∧ b.toNat < 0xc0 ∧ 0x80 ≤ c.toNat ∧ c.toNat < 0xc0 then
    Symbol.ofCode? (0xd000 + b.toNat % 0x40 * 0x40 + c.toNat % 0x40)
  else none

/-- The symbols of a byte sequence, after a character that may have begun: characters, and
surrogates of three bytes each. None if anything else is in it. -/
def symbols? : Option Partial → List UInt8 → Option (List Symbol)
  | none, [] => some []
  | some _, [] => none
  | none, 0xed :: b :: c :: bs =>
    match half? b c with
    | some h => (symbols? none bs).map (h :: ·)
    | none => (symbols? (start 0xed).2 (b :: c :: bs))
  | none, b :: bs =>
    let (out, p) := start b
    (out.mapM id).bind (fun cs => (symbols? p bs).map (cs.map .char ++ ·))
  | some p, b :: bs =>
    match p.step? b with
    | some (out, p) => (out.mapM id).bind (fun cs => (symbols? p bs).map (cs.map .char ++ ·))
    | none => none

/-- The text of a byte sequence, or none if any of it is malformed. -/
def decode? (bs : List UInt8) : Option (List Symbol) :=
  symbols? none bs

/-- The text of a byte sequence with the replacement character for each malformed piece. -/
def decodeLossy (bs : List UInt8) : List Char :=
  (pieces none bs).map (·.getD '\uFFFD')

def encodeChar (c : Char) : List UInt8 :=
  let n := c.toNat
  let tail (k : Nat) : UInt8 := UInt8.ofNat (0x80 + n / Nat.pow 0x40 k % 0x40)
  if n < 0x80 then [UInt8.ofNat n]
  else if n < 0x800 then [UInt8.ofNat (0xc0 + n / 0x40), tail 0]
  else if n < 0x10000 then [UInt8.ofNat (0xe0 + n / 0x1000), tail 1, tail 0]
  else [UInt8.ofNat (0xf0 + n / 0x40000), tail 2, tail 1, tail 0]

def encode (cs : List Char) : List UInt8 :=
  cs.flatMap encodeChar

@[simp] theorem encode_nil : encode [] = [] := rfl

@[simp] theorem encode_cons (c : Char) (cs : List Char) :
    encode (c :: cs) = encodeChar c ++ encode cs := rfl

end Karaoke.Text.Utf8
