/-!
# Checksums

The two sums by which compressed data are checked: a cyclic one of 32 bits and a pair of running
totals modulo a prime.
-/

set_option autoImplicit false

namespace Karaoke.Compress

/-- One bit of the cyclic sum. -/
def crcBit (c : UInt32) : UInt32 :=
  if c &&& 1 = 1 then c >>> 1 ^^^ 0xedb88320 else c >>> 1

def crcByte (c : UInt32) (b : UInt8) : UInt32 :=
  Nat.repeat crcBit 8 (c ^^^ b.toUInt32)

/-- The cyclic sum of some bytes. -/
def crc32 (bs : List UInt8) : UInt32 :=
  bs.foldl crcByte 0xffffffff ^^^ 0xffffffff

/-- The largest prime below `2 ^ 16`. -/
def adlerModulus : Nat := 65521

/-- The two totals: of the bytes, from one, and of the first total after each byte. -/
def adlerTotals (bs : List UInt8) : Nat × Nat :=
  bs.foldl (fun t b =>
    let a := (t.1 + b.toNat) % adlerModulus
    (a, (t.2 + a) % adlerModulus)) (1, 0)

def adler32 (bs : List UInt8) : Nat :=
  let (a, b) := adlerTotals bs
  b * 0x10000 + a

end Karaoke.Compress
