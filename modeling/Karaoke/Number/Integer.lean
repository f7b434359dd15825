import Karaoke.Text.Blank

/-!
# Reading integers

An integer as people write it: with white space around it, a sign, and digits of any script,
between which single underscores may stand.
-/

set_option autoImplicit false

namespace Karaoke.Number

/-- A number with more digits is not read. -/
def maxDigits : Nat := 4300

/-- The zeros of all scripts. The other nine digits follow each. -/
def zeros : List Nat :=
  [0x30, 0x660, 0x6f0, 0x7c0, 0x966, 0x9e6, 0xa66, 0xae6, 0xb66, 0xbe6, 0xc66, 0xce6, 0xd66, 0xde6,
   0xe50, 0xed0, 0xf20, 0x1040, 0x1090, 0x17e0, 0x1810, 0x1946, 0x19d0, 0x1a80, 0x1a90, 0x1b50,
   0x1bb0, 0x1c40, 0x1c50, 0xa620, 0xa8d0, 0xa900, 0xa9d0, 0xa9f0, 0xaa50, 0xabf0, 0xff10, 0x104a0,
   0x10d30, 0x11066, 0x110f0, 0x11136, 0x111d0, 0x112f0, 0x11450, 0x114d0, 0x11650, 0x116c0,
   0x11730, 0x118e0, 0x11950, 0x11c50, 0x11d50, 0x11da0, 0x16a60, 0x16ac0, 0x16b50, 0x1d7ce,
   0x1d7d8, 0x1d7e2, 0x1d7ec, 0x1d7f6, 0x1e140, 0x1e2f0, 0x1e950, 0x1fbf0]

/-- The value of a digit. -/
def digit? (c : Char) : Option Nat :=
  (zeros.find? (fun z => z ≤ c.toNat && c.toNat < z + 10)).map (c.toNat - ·)

/-- The values of digits between which single underscores may stand. -/
def digits? : List Char → Option (List Nat)
  | [] => none
  | [c] => (digit? c).map ([·])
  | c :: '_' :: cs => (digit? c).bind (fun d => (digits? cs).map (d :: ·))
  | c :: cs => (digit? c).bind (fun d => (digits? cs).map (d :: ·))

/-- The number that digits stand for. -/
def ofDigits (ds : List Nat) : Nat :=
  ds.foldl (fun n d => n * 10 + d) 0

/-- The number that ASCII digits stand for. -/
def ofAscii (ds : List Char) : Nat :=
  ofDigits (ds.map (fun d => d.toNat - '0'.toNat))

/-- The number that a text writes in digits. -/
def nat? (cs : List Char) : Option Nat :=
  match digits? cs with
  | some ds => if ds.length ≤ maxDigits then some (ofDigits ds) else none
  | none => none

/-- The integer that a text writes. -/
def int? (cs : List Char) : Option Int :=
  match Text.strip Text.isWhite cs with
  | '-' :: cs => (nat? cs).map (fun n => -(n : Int))
  | '+' :: cs => (nat? cs).map (fun n => (n : Int))
  | cs => (nat? cs).map (fun n => (n : Int))

end Karaoke.Number
