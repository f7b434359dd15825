import Karaoke.Text.Cut

/-!
# Punycode

A text in ASCII: its ASCII characters, and for the others, in the order of their code points, where
each belongs. A place is told by its distance from the one before, as a number in digits to the
base 36 whose thresholds adapt to the distances seen so far.
-/

set_option autoImplicit false

namespace Karaoke.Text.Punycode

def base : Nat := 36

def leastThreshold : Nat := 1

def greatestThreshold : Nat := 26

/-- The digit of a value: letters, then digits. -/
def digitChar (d : Nat) : Char :=
  if d < 26 then Char.ofNat (d + 0x61) else Char.ofNat (d - 26 + 0x30)

def digit? (c : Char) : Option Nat :=
  if c.isLower then some (c.toNat - 0x61)
  else if c.isUpper then some (c.toNat - 0x41)
  else if c.isDigit then some (c.toNat - 0x30 + 26)
  else none

/-- The threshold of the digit at a place: a digit below it is the last of its number. -/
def threshold (bias place : Nat) : Nat :=
  min greatestThreshold (max leastThreshold (base * (place + 1) - bias))

theorem threshold_pos (bias place : Nat) : 1 ≤ threshold bias place := by
  simp only [threshold, greatestThreshold, leastThreshold]
  omega

/-- How often a distance is scaled down, and what is left of it. -/
def scaled (delta : Nat) : Nat × Nat :=
  if 455 < delta then
    let (times, rest) := scaled (delta / 35)
    (times + 1, rest)
  else (0, delta)
termination_by delta
decreasing_by exact Nat.div_lt_self (by omega) (by omega)

/-- The bias after a distance, when so many characters are placed. -/
def adapt (delta count : Nat) (first : Bool) : Nat :=
  let delta := if first then delta / 700 else delta / 2
  let (times, rest) := scaled (delta + delta / count)
  base * times + 36 * rest / (rest + 38)

/-- A number in digits, from a place on. -/
def digits (bias place n : Nat) : List Char :=
  let t := threshold bias place
  if n < t then [digitChar n]
  else digitChar (t + (n - t) % (base - t)) :: digits bias (place + 1) ((n - t) / (base - t))
termination_by n
decreasing_by
  have := threshold_pos bias place
  have := Nat.div_le_self (n - threshold bias place) (base - threshold bias place)
  omega

/-- What is known while a text is written: the code point and the position that come next, counted
together, and how many characters are placed. -/
structure Progress where
  out : List Char := []
  delta : Nat := 0
  bias : Nat := 72
  count : Nat
  first : Bool := true

/-- Passes one character of the text while the characters of code point `n` are placed. -/
def pass (n : Nat) (p : Progress) (c : Char) : Progress :=
  if c.toNat < n then { p with delta := p.delta + 1 }
  else if c.toNat = n then
    { out := p.out ++ digits p.bias 0 p.delta
      delta := 0
      bias := adapt p.delta (p.count + 1) p.first
      count := p.count + 1
      first := false }
  else p

/-- Places the characters of ascending code points, of which the first that may occur is `least`. -/
def place (cs : List Char) (p : Progress) (least : Nat) : List Nat → Progress
  | [] => p
  | n :: ns =>
    let p := cs.foldl (pass n) { p with delta := p.delta + (n - least) * (p.count + 1) }
    place cs { p with delta := p.delta + 1 } (n + 1) ns

/-- The text in ASCII. -/
def encode (cs : List Char) : List Char :=
  let basic := cs.filter (·.toNat < 0x80)
  let others := ((cs.filter (0x80 ≤ ·.toNat)).map Char.toNat).mergeSort.eraseReps
  (if basic = [] then [] else basic ++ ['-'])
    ++ (place cs { count := basic.length } 0x80 others).out

/-- Reads a number from a place on: its value and the rest. -/
def number? (bias place weight : Nat) : List Char → Option (Nat × List Char)
  | [] => none
  | c :: cs =>
    (digit? c).bind (fun d =>
      let t := threshold bias place
      if d < t then some (d * weight, cs)
      else (number? bias (place + 1) (weight * (base - t)) cs).map
        (fun r => (d * weight + r.1, r.2)))

theorem length_lt_of_number? {bias place weight : Nat} {cs rest : List Char} {n : Nat}
    (h : number? bias place weight cs = some (n, rest)) : rest.length < cs.length := by
  induction cs generalizing place weight n with
  | nil => simp [number?] at h
  | cons c cs ih =>
    simp only [number?, Option.bind_eq_some_iff] at h
    obtain ⟨d, -, h⟩ := h
    split at h
    · simp only [Option.some.injEq, Prod.mk.injEq] at h
      simp [← h.2]
    · simp only [Option.map_eq_some_iff, Prod.mk.injEq] at h
      obtain ⟨⟨m, rest'⟩, h, -, rfl⟩ := h
      exact Nat.lt_trans (ih h) (Nat.lt_succ_self _)

/-- Places the characters that numbers tell of into a text. `first` says whether none is placed
yet. -/
def placeAll? (out : List Char) (code position bias : Nat) (first : Bool) (cs : List Char) :
    Option (List Char) :=
  if cs = [] then some out
  else
    match h : number? bias 0 1 cs with
    | none => none
    | some (delta, rest) =>
      let size := out.length + 1
      let code := code + (position + delta) / size
      let position := (position + delta) % size
      if code < 0x110000 then
        placeAll? (out.insertIdx position (Char.ofNat code)) code (position + 1)
          (adapt delta size first) false rest
      else none
termination_by cs.length
decreasing_by exact length_lt_of_number? h

/-- The text that a text in ASCII stands for. Its ASCII characters come before its last hyphen. -/
def decode? (cs : List Char) : Option (List Char) :=
  let (basic, rest) := (cutLast? '-' cs).getD ([], cs)
  placeAll? basic 0x80 0 72 true rest

end Karaoke.Text.Punycode
