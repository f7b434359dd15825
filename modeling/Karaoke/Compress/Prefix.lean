/-!
# Prefix codes

A code is given by the length of each symbol's code word. Shorter words come first, words of one
length stand in the order of their symbols, and each word is the number after the one before it.
-/

set_option autoImplicit false

namespace Karaoke.Compress

/-- A code as the choices that its bits make. -/
inductive Tree where
  /-- No word leads here. -/
  | empty
  | leaf (symbol : Nat)
  | node (zero one : Tree)
  deriving Repr, Inhabited

namespace Tree

/-- The two choices of a code. -/
def branches : Tree → Tree × Tree
  | node zero one => (zero, one)
  | _ => (empty, empty)

/-- The code with one word more. -/
def insert (symbol : Nat) : List Bool → Tree → Tree
  | [], _ => leaf symbol
  | false :: bits, t => node (insert symbol bits t.branches.1) t.branches.2
  | true :: bits, t => node t.branches.1 (insert symbol bits t.branches.2)

end Tree

/-- No word is longer. -/
def maxLength : Nat := 15

/-- A number in a given number of bits, the most significant first. -/
def bitsOf (length n : Nat) : List Bool :=
  (List.range length).map (fun i => n.testBit (length - 1 - i))

/-- The symbols whose words have a length, in order. -/
def symbolsOf (lengths : List Nat) (length : Nat) : List Nat :=
  (lengths.zipIdx.filter (·.1 = length)).map (·.2)

/-- The code in which each symbol has a word of its length; a symbol of length zero has none. -/
def Tree.ofLengths (lengths : List Nat) : Tree :=
  ((List.range maxLength).foldl (fun (r : Tree × Nat) k =>
    let (t, next) := (symbolsOf lengths (k + 1)).foldl (fun (r : Tree × Nat) symbol =>
      (r.1.insert symbol (bitsOf (k + 1) r.2), r.2 + 1)) r
    (t, next * 2)) (.empty, 0)).1

/-- How many words of the greatest length the words take up. -/
def volume (lengths : List Nat) : Nat :=
  (lengths.filter (· ≠ 0)).foldl (fun n l => n + Nat.pow 2 (maxLength - l)) 0

/-- Whether every sequence of bits begins with a word, and with no more than one. -/
def isComplete (lengths : List Nat) : Bool :=
  volume lengths == Nat.pow 2 maxLength

/-- Whether a code for symbols of the data can be used: it is complete, or has no word or the word
of one bit only. -/
def isUsable (lengths : List Nat) : Bool :=
  isComplete lengths || lengths.all (· ≤ 1) && volume lengths ≤ Nat.pow 2 maxLength

end Karaoke.Compress
