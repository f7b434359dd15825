import Karaoke.Text.Utf8

/-!
# Digest of a text

BLAKE2b without a key, for digests of at most 64 bytes: words of 64 bits, little-endian, in blocks
of sixteen; twelve rounds of mixing for each block.
-/

set_option autoImplicit false

namespace Karaoke.Digest

def initial : Array UInt64 :=
  #[0x6a09e667f3bcc908, 0xbb67ae8584caa73b, 0x3c6ef372fe94f82b, 0xa54ff53a5f1d36f1,
    0x510e527fade682d1, 0x9b05688c2b3e6c1f, 0x1f83d9abfb41bd6b, 0x5be0cd19137e2179]

/-- The order in which a round takes the words of a block. -/
def schedule : List (List Nat) :=
  [[0, 1, 2, 3, 4, 5, 6, 7, 8, 9, 10, 11, 12, 13, 14, 15],
   [14, 10, 4, 8, 9, 15, 13, 6, 1, 12, 0, 2, 11, 7, 5, 3],
   [11, 8, 12, 0, 5, 2, 15, 13, 10, 14, 3, 6, 7, 1, 9, 4],
   [7, 9, 3, 1, 13, 12, 11, 14, 2, 6, 5, 10, 4, 0, 15, 8],
   [9, 0, 5, 7, 2, 4, 10, 15, 14, 1, 11, 12, 6, 8, 3, 13],
   [2, 12, 6, 10, 0, 11, 8, 3, 4, 13, 7, 5, 15, 14, 1, 9],
   [12, 5, 1, 15, 14, 13, 4, 10, 0, 7, 6, 3, 9, 2, 8, 11],
   [13, 11, 7, 14, 12, 1, 3, 9, 5, 0, 15, 4, 8, 6, 2, 10],
   [6, 15, 14, 9, 11, 3, 0, 8, 12, 2, 13, 7, 1, 4, 10, 5],
   [10, 2, 8, 4, 7, 6, 1, 5, 15, 11, 9, 14, 3, 12, 13, 0],
   [0, 1, 2, 3, 4, 5, 6, 7, 8, 9, 10, 11, 12, 13, 14, 15],
   [14, 10, 4, 8, 9, 15, 13, 6, 1, 12, 0, 2, 11, 7, 5, 3]]

/-- The four words of the state that each step of a round mixes: columns, then diagonals. -/
def quarters : List (Nat × Nat × Nat × Nat) :=
  [(0, 4, 8, 12), (1, 5, 9, 13), (2, 6, 10, 14), (3, 7, 11, 15),
   (0, 5, 10, 15), (1, 6, 11, 12), (2, 7, 8, 13), (3, 4, 9, 14)]

def rotateRight (x : UInt64) (n : UInt64) : UInt64 :=
  (x >>> n) ||| (x <<< (64 - n))

/-- Mixes two words of the block into four words of the state. -/
def mix (v : Array UInt64) (q : Nat × Nat × Nat × Nat) (x y : UInt64) : Array UInt64 :=
  let (i, j, k, l) := q
  let a := v[i]?.getD 0 + v[j]?.getD 0 + x
  let d := rotateRight (v[l]?.getD 0 ^^^ a) 32
  let c := v[k]?.getD 0 + d
  let b := rotateRight (v[j]?.getD 0 ^^^ c) 24
  let a := a + b + y
  let d := rotateRight (d ^^^ a) 16
  let c := c + d
  let b := rotateRight (b ^^^ c) 63
  (((v.setIfInBounds i a).setIfInBounds j b).setIfInBounds k c).setIfInBounds l d

def round (block : Array UInt64) (v : Array UInt64) (order : List Nat) : Array UInt64 :=
  let word (n : Nat) : UInt64 := block[order[n]?.getD 0]?.getD 0
  (quarters.zipIdx).foldl (fun v p => mix v p.1 (word (2 * p.2)) (word (2 * p.2 + 1))) v

/-- The state after a block that ends `count` bytes into the message. -/
def compress (h block : Array UInt64) (count : Nat) (last : Bool) : Array UInt64 :=
  let v := h ++ initial
  let v := v.modify 12 (· ^^^ UInt64.ofNat count)
  let v := if last then v.modify 14 (· ^^^ 0xffffffffffffffff) else v
  let v := schedule.foldl (round block) v
  h.mapIdx (fun i x => x ^^^ v[i]?.getD 0 ^^^ v[i + 8]?.getD 0)

/-- Eight bytes, the lowest first, as a word. -/
def wordOf (bs : List UInt8) : UInt64 :=
  bs.foldr (fun b w => w <<< 8 ||| b.toUInt64) 0

/-- The sixteen words of a block that is filled up with zeros. -/
def words (bs : List UInt8) : Array UInt64 :=
  ((List.range 16).map (fun n => wordOf ((bs.drop (8 * n)).take 8))).toArray

/-- Goes through the blocks of a message, of which `count` bytes have been read. -/
def absorb (h : Array UInt64) (count : Nat) (bs : List UInt8) : Array UInt64 :=
  if bs.length ≤ 128 then compress h (words bs) (count + bs.length) true
  else absorb (compress h (words (bs.take 128)) (count + 128) false) (count + 128) (bs.drop 128)
  termination_by bs.length
  decreasing_by simp only [List.length_drop]; omega

def bytesOf (w : UInt64) : List UInt8 :=
  (List.range 8).map (fun n => (w >>> UInt64.ofNat (8 * n)).toUInt8)

/-- The digest of a message, of `size` bytes. -/
def blake2b (size : Nat) (bs : List UInt8) : List UInt8 :=
  let h := initial.modify 0 (· ^^^ 0x01010000 ^^^ UInt64.ofNat size)
  ((absorb h 0 bs).toList.flatMap bytesOf).take size

/-- The number that a text's digest of eight bytes stands for, the first byte highest. -/
def number (s : String) : Nat :=
  (blake2b 8 (Text.Utf8.encode s.toList)).foldl (fun n b => n * 0x100 + b.toNat) 0

end Karaoke.Digest
