import Karaoke.Compress.Prefix

/-!
# Inflating

Deflated data are blocks of bits: bytes as they are, or words of two prefix codes for single bytes
and for repetitions of what came before. Data that break off give the bytes up to there.
-/

set_option autoImplicit false

namespace Karaoke.Compress

/-- What is wrong with compressed data. -/
inductive Fault where
  | header | method | window | dictionary | headerFlags | headerSum
  | blockType | storedLengths | tooManySymbols | codeLengths | lengthRepeat | noEnd
  | literalCode | distanceCode | literal | distance | tooFarBack
  | dataSum | dataLength
  deriving DecidableEq, Repr

namespace Fault

def text : Fault → String
  | header => "incorrect header check"
  | method => "unknown compression method"
  | window => "invalid window size"
  | dictionary => "need dictionary"
  | headerFlags => "unknown header flags set"
  | headerSum => "header crc mismatch"
  | blockType => "invalid block type"
  | storedLengths => "invalid stored block lengths"
  | tooManySymbols => "too many length or distance symbols"
  | codeLengths => "invalid code lengths set"
  | lengthRepeat => "invalid bit length repeat"
  | noEnd => "invalid code -- missing end-of-block"
  | literalCode => "invalid literal/lengths set"
  | distanceCode => "invalid distances set"
  | literal => "invalid literal/length code"
  | distance => "invalid distance code"
  | tooFarBack => "invalid distance too far back"
  | dataSum => "incorrect data check"
  | dataLength => "incorrect length check"

/-- Data that need a dictionary are not faulty in themselves, and are reported without a text. -/
def message : Fault → String
  | dictionary => "Error 2 while decompressing data"
  | f => "Error -3 while decompressing data: " ++ f.text

end Fault

/-- Why reading stops before the end of the data. -/
inductive Halt where
  | brokenOff
  | faulty (f : Fault)
  deriving DecidableEq, Repr

/-- The bits that are still to be read and the bytes they have given so far. -/
structure State where
  bits : List Bool
  out : Array UInt8 := #[]

abbrev Reader := ExceptT Halt (StateM State)

/-- The bits of some bytes, the least significant bit of each first. -/
def bitsOfBytes (bs : List UInt8) : List Bool :=
  bs.flatMap (fun b => (List.range 8).map b.toNat.testBit)

/-- The number that some bits stand for, the least significant first. -/
def numberOf (bits : List Bool) : Nat :=
  bits.foldr (fun b n => 2 * n + b.toNat) 0

namespace Reader

def fail {α : Type} (f : Fault) : Reader α :=
  throw (.faulty f)

def check (ok : Bool) (f : Fault) : Reader Unit :=
  if ok then pure () else fail f

/-- Reads a number of so many bits. -/
def number (n : Nat) : Reader Nat := do
  let s ← get
  let front := s.bits.take n
  if front.length < n then throw .brokenOff
  set { s with bits := s.bits.drop n }
  return numberOf front

def byte : Reader UInt8 := do
  return UInt8.ofNat (← number 8)

/-- Skips to the next whole byte. -/
def align : Reader Unit :=
  modify (fun s => { s with bits := s.bits.drop (s.bits.length % 8) })

def write (b : UInt8) : Reader Unit :=
  modify (fun s => { s with out := s.out.push b })

/-- Reads on until a word of a code is complete. -/
def word (f : Fault) : Tree → Reader Nat
  | .leaf symbol => return symbol
  | .empty => fail f
  | .node zero one => do
    match ← number 1 with
    | 0 => word f zero
    | _ => word f one

/-- Reads the symbol of a word. Even without a code one bit is looked at. -/
def symbol (f : Fault) (t : Tree) : Reader Nat := do
  match t with
  | .empty => do
    let _ ← number 1
    fail f
  | t => word f t

end Reader

open Reader

/-- A number whose symbol gives its least value and how many bits are added to it. -/
structure Extended where
  least : Nat
  extra : Nat
  deriving DecidableEq, Repr

def Extended.read (x : Extended) : Reader Nat := do
  return x.least + (← number x.extra)

/-- The lengths of repetitions, from symbol 257. -/
def lengthTable : List Extended :=
  [⟨3, 0⟩, ⟨4, 0⟩, ⟨5, 0⟩, ⟨6, 0⟩, ⟨7, 0⟩, ⟨8, 0⟩, ⟨9, 0⟩, ⟨10, 0⟩, ⟨11, 1⟩, ⟨13, 1⟩, ⟨15, 1⟩,
   ⟨17, 1⟩, ⟨19, 2⟩, ⟨23, 2⟩, ⟨27, 2⟩, ⟨31, 2⟩, ⟨35, 3⟩, ⟨43, 3⟩, ⟨51, 3⟩, ⟨59, 3⟩, ⟨67, 4⟩,
   ⟨83, 4⟩, ⟨99, 4⟩, ⟨115, 4⟩, ⟨131, 5⟩, ⟨163, 5⟩, ⟨195, 5⟩, ⟨227, 5⟩, ⟨258, 0⟩]

/-- How far back repetitions begin. -/
def distanceTable : List Extended :=
  [⟨1, 0⟩, ⟨2, 0⟩, ⟨3, 0⟩, ⟨4, 0⟩, ⟨5, 1⟩, ⟨7, 1⟩, ⟨9, 2⟩, ⟨13, 2⟩, ⟨17, 3⟩, ⟨25, 3⟩, ⟨33, 4⟩,
   ⟨49, 4⟩, ⟨65, 5⟩, ⟨97, 5⟩, ⟨129, 6⟩, ⟨193, 6⟩, ⟨257, 7⟩, ⟨385, 7⟩, ⟨513, 8⟩, ⟨769, 8⟩,
   ⟨1025, 9⟩, ⟨1537, 9⟩, ⟨2049, 10⟩, ⟨3073, 10⟩, ⟨4097, 11⟩, ⟨6145, 11⟩, ⟨8193, 12⟩, ⟨12289, 12⟩,
   ⟨16385, 13⟩, ⟨24577, 13⟩]

/-- Reads a number by its symbol. -/
def extended (f : Fault) (table : List Extended) (symbol : Nat) : Reader Nat :=
  match table[symbol]? with
  | some x => x.read
  | none => fail f

/-- The two codes of a block. -/
structure Codes where
  literals : Tree
  distances : Tree

/-- The codes of a block that brings none of its own. -/
def Codes.fixed : Codes where
  literals := .ofLengths (List.replicate 144 8 ++ List.replicate 112 9 ++ List.replicate 24 7
    ++ List.replicate 8 8)
  distances := .ofLengths (List.replicate 32 5)

/-- Repeats what was written some way back, byte by byte. -/
def repeatBack (distance : Nat) : Nat → Reader Unit
  | 0 => return
  | n + 1 => do
    let s ← get
    write (s.out[s.out.size - distance]?.getD 0)
    repeatBack distance n

/-- Reads the words of a block up to its end. Each word takes a bit at least, so there are no more
than `fuel`. -/
def words (c : Codes) : Nat → Reader Unit
  | 0 => return
  | fuel + 1 => do
    let n ← symbol .literal c.literals
    if n < 256 then
      write (UInt8.ofNat n)
      words c fuel
    else if n = 256 then return
    else
      let length ← extended .literal lengthTable (n - 257)
      let distance ← extended .distance distanceTable (← symbol .distance c.distances)
      check (distance ≤ (← get).out.size) .tooFarBack
      repeatBack distance length
      words c fuel

/-- Copies bytes as they are. -/
def copy : Nat → Reader Unit
  | 0 => return
  | n + 1 => do
    write (← byte)
    copy n

def storedBlock : Reader Unit := do
  align
  let sizes ← number 32
  check (sizes % 0x10000 + sizes / 0x10000 = 0xffff) .storedLengths
  copy (sizes % 0x10000)

/-- The order in which the lengths of the code for lengths are given. -/
def lengthOrder : List Nat :=
  [16, 17, 18, 0, 8, 7, 9, 6, 10, 5, 11, 4, 12, 3, 13, 2, 14, 1, 15]

/-- Reads the symbol of a code length. Without a code each bit stands for no length. -/
def lengthSymbol : Tree → Reader Nat
  | .empty => do
    let _ ← number 1
    return 0
  | t => word .codeLengths t

/-- Reads code lengths up to a count, after some that are there. -/
def lengths (t : Tree) (count : Nat) : Nat → List Nat → Reader (List Nat)
  | 0, read => return read
  | fuel + 1, read => do
    if count ≤ read.length then return read
    let n ← lengthSymbol t
    if n < 16 then lengths t count fuel (read ++ [n])
    else
      let again ← match n with
        | 16 => do
          let k ← number 2
          match read.getLast? with
          | none => fail .lengthRepeat
          | some last => pure (List.replicate (3 + k) last)
        | 17 => pure (List.replicate (3 + (← number 3)) 0)
        | _ => pure (List.replicate (11 + (← number 7)) 0)
      check (read.length + again.length ≤ count) .lengthRepeat
      lengths t count fuel (read ++ again)

/-- Reads the codes that a block brings. -/
def ownCodes : Reader Codes := do
  let sizes ← number 14
  let literals := sizes % 32 + 257
  let distances := sizes / 32 % 32 + 1
  check (literals ≤ 286 && distances ≤ 30) .tooManySymbols
  let given ← (lengthOrder.take (sizes / 1024 + 4)).mapM (fun i => return (i, ← number 3))
  let order := (List.range 19).map (fun i => (given.lookup i).getD 0)
  check (isComplete order || order.all (· = 0)) .codeLengths
  let all ← lengths (.ofLengths order) (literals + distances) (literals + distances) []
  check (all[256]? ≠ some 0) .noEnd
  check (isUsable (all.take literals)) .literalCode
  check (isUsable (all.drop literals)) .distanceCode
  return ⟨.ofLengths (all.take literals), .ofLengths (all.drop literals)⟩

/-- Reads blocks up to the last one. Each takes some bits, so there are no more than `fuel`. -/
def blocks : Nat → Reader Unit
  | 0 => return
  | fuel + 1 => do
    let head ← number 3
    match head / 2 with
    | 0 => storedBlock
    | 1 => words .fixed (← get).bits.length
    | 2 => words (← ownCodes) (← get).bits.length
    | _ => fail .blockType
    if head % 2 = 0 then blocks fuel

/-- Reads deflated data, and goes to the next whole byte. -/
def inflated : Reader Unit := do
  blocks (← get).bits.length
  align

end Karaoke.Compress
