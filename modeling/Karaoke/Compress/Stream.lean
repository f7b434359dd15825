import Karaoke.Compress.Checksum
import Karaoke.Compress.Inflate

/-!
# Compressed streams

Deflated data stand alone, or between a header and a checksum in one of two formats. What follows
a stream is ignored.
-/

set_option autoImplicit false

namespace Karaoke.Compress

open Reader

inductive Format where
  | bare
  /-- A header of two bytes, and the running totals of the data. -/
  | zlib
  /-- A header that may hold a name, and the cyclic sum and the length of the data. -/
  | gzip
  deriving DecidableEq, Repr

/-- The bytes that have been written. -/
def written : Reader (List UInt8) := do
  return (← get).out.toList

def zlibHeader : Reader Unit := do
  let head ← number 16
  let first := head % 0x100
  check ((first * 0x100 + head / 0x100) % 31 = 0) .header
  check (first % 16 = 8) .method
  check (first / 16 ≤ 7) .window
  if (head / 0x100).testBit 5 then
    let _ ← number 32
    fail .dictionary

def zlibTrailer : Reader Unit := do
  let bytes ← (List.range 4).mapM (fun _ => byte)
  check (bytes.foldl (fun n b => n * 0x100 + b.toNat) 0 = adler32 (← written)) .dataSum

def someBytes (n : Nat) : Reader (List UInt8) :=
  (List.range n).mapM (fun _ => byte)

/-- Reads a text and the zero that ends it. -/
def zeroEnded : Nat → Reader (List UInt8)
  | 0 => return []
  | fuel + 1 => do
    let b ← byte
    if b = 0 then return [b] else return b :: (← zeroEnded fuel)

/-- Reads a part of a header that is there only if a flag says so. -/
def optional (present : Bool) (r : Reader (List UInt8)) : Reader (List UInt8) :=
  if present then r else return []

def gzipHeader : Reader Unit := do
  let magic ← number 16
  check (magic = 0x8b1f) .header
  let flags ← number 16
  check (flags % 0x100 = 8) .method
  let flag (i : Nat) : Bool := flags.testBit (8 + i)
  check (!(flag 5 || flag 6 || flag 7)) .headerFlags
  let fixed ← someBytes 6
  let extra ← optional (flag 2) (do
    let size ← someBytes 2
    let size' := size.foldr (fun b n => n * 0x100 + b.toNat) 0
    return size ++ (← someBytes size'))
  let name ← optional (flag 3) (do zeroEnded (← get).bits.length)
  let comment ← optional (flag 4) (do zeroEnded (← get).bits.length)
  if flag 1 then
    let head : List UInt8 := [0x1f, 0x8b, 8, UInt8.ofNat (flags / 0x100)]
    let sum := crc32 (head ++ fixed ++ extra ++ name ++ comment)
    check ((← number 16) = sum.toNat % 0x10000) .headerSum

def gzipTrailer : Reader Unit := do
  let sum ← number 32
  check (sum = (crc32 (← written)).toNat) .dataSum
  let length ← number 32
  check (length = (← written).length % Nat.pow 2 32) .dataLength

def stream : Format → Reader Unit
  | .bare => inflated
  | .zlib => do
    zlibHeader
    inflated
    zlibTrailer
  | .gzip => do
    gzipHeader
    inflated
    gzipTrailer

/-- The data of a stream, as far as it goes. -/
def decompress (f : Format) (bs : List UInt8) : Except Fault (List UInt8) :=
  match (stream f).run.run { bits := bitsOfBytes bs } with
  | (.error (.faulty e), _) => .error e
  | (_, s) => .ok s.out.toList

end Karaoke.Compress
