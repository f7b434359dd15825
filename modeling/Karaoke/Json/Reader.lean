import Karaoke.Json.Value
import Karaoke.Number.Integer
import Karaoke.Text.Utf16

/-!
# Reading JSON text

The grammar of JSON with three additional words for numbers: `NaN`, `Infinity` and `-Infinity`.
Only space, tab, line feed and carriage return separate tokens, a string holds no control
character, and nothing may follow the value. Arrays and objects lie inside each other up to a
limit.
-/

set_option autoImplicit false

namespace Karaoke.Json

open Text (Symbol Wide)

/-- So many arrays and objects may lie inside each other. -/
def maxDepth : Nat := 979

/-- Why a text is not read. -/
inductive Fault where
  | malformed
  /-- An array or an object that lies too deep. -/
  | tooDeep (k : Kind)
  deriving DecidableEq, Repr

/-- What is read at the front of a text, and the rest. -/
abbrev Reading (α : Type) := Except Fault (α × List Symbol)

namespace Reading

variable {α β : Type}

/-- A reading that some texts do not have. -/
def ofOption : Option (α × List Symbol) → Reading α
  | some r => .ok r
  | none => .error .malformed

def map (f : α → β) (r : Reading α) : Reading β :=
  Except.map (fun p => (f p.1, p.2)) r

end Reading

def isSeparator (c : Char) : Bool :=
  c == ' ' || c == '\t' || c == '\n' || c == '\r'

/-- Whether a symbol is a character of a class. -/
def isChar (p : Char → Bool) : Symbol → Bool
  | .char c => p c
  | .half _ => false

def skip (cs : List Symbol) : List Symbol :=
  cs.dropWhile (isChar isSeparator)

/-- What follows a word at the front of a text. -/
def after? (word : String) (cs : List Symbol) : Option (List Symbol) :=
  let word := word.toList.map Symbol.char
  if word.isPrefixOf cs then some (cs.drop word.length) else none

def hexDigit? (c : Char) : Option Nat :=
  if c.isDigit then some (c.toNat - '0'.toNat)
  else if 'a' ≤ c ∧ c ≤ 'f' then some (c.toNat - 'a'.toNat + 10)
  else if 'A' ≤ c ∧ c ≤ 'F' then some (c.toNat - 'A'.toNat + 10)
  else none

/-- The number that four hexadecimal digits stand for. -/
def hex4? (a b c d : Char) : Option Nat := do
  let w ← hexDigit? a
  let x ← hexDigit? b
  let y ← hexDigit? c
  let z ← hexDigit? d
  some (((w * 16 + x) * 16 + y) * 16 + z)

/-- The character that a one-letter escape stands for. -/
def escape? (c : Char) : Option Char :=
  [('"', '"'), ('\\', '\\'), ('/', '/'), ('b', '\x08'), ('f', '\x0c'), ('n', '\n'), ('r', '\r'),
   ('t', '\t')].lookup c

/-- The symbol of a code point below `10000`. -/
def symbolOf (n : Nat) : List Symbol :=
  (Symbol.ofCode? n).toList

/-- A high surrogate that finds no partner stands alone. -/
def unpaired (high : Option Nat) : List Symbol :=
  (high.map symbolOf).getD []

/-- The symbols that an escaped unit completes, after a high surrogate that may be waiting for
its partner, and the high surrogate that waits afterwards. -/
def unit (high : Option Nat) (n : Nat) : List Symbol × Option Nat :=
  match high with
  | some h =>
    if Text.isLowSurrogate n then ((Symbol.ofCode? (Text.joinSurrogates h n)).toList, none)
    else if Text.isHighSurrogate n then (symbolOf h, some n)
    else (symbolOf h ++ symbolOf n, none)
  | none => if Text.isHighSurrogate n then ([], some n) else (symbolOf n, none)

/-- The rest of a string after its opening quote: its symbols and what follows the closing quote.
`high` is an escaped high surrogate that still waits for its partner; only an escape can be that
partner. -/
def string? (high : Option Nat) : List Symbol → Option (List Symbol × List Symbol)
  | [] => none
  | .char '"' :: rest => some (unpaired high, rest)
  | .char '\\' :: .char 'u' :: .char a :: .char b :: .char c :: .char d :: rest =>
    match hex4? a b c d with
    | none => none
    | some n =>
      let (out, high) := unit high n
      (string? high rest).map (fun p => (out ++ p.1, p.2))
  | .char '\\' :: .char e :: rest =>
    match escape? e with
    | some c => (string? none rest).map (fun p => (unpaired high ++ .char c :: p.1, p.2))
    | none => none
  | c :: rest =>
    if c.code < 0x20 ∨ c = .char '\\' then none
    else (string? none rest).map (fun p => (unpaired high ++ c :: p.1, p.2))

/-- The digits at the front of a text, and the rest. -/
def digits (cs : List Symbol) : List Char × List Symbol :=
  ((cs.takeWhile (isChar Char.isDigit)).map (·.toChar), cs.dropWhile (isChar Char.isDigit))

/-- The digits of a whole part: a zero alone or digits that start with another. -/
def whole? : List Symbol → Option (List Char × List Symbol)
  | .char '0' :: rest => some (['0'], rest)
  | cs => match digits cs with
    | ([], _) => none
    | ds => some ds

/-- The digits after a point, if a point with digits follows. -/
def fraction : List Symbol → List Char × List Symbol
  | .char '.' :: rest => match digits rest with
    | ([], _) => ([], .char '.' :: rest)
    | ds => ds
  | cs => ([], cs)

/-- The exponent, if an exponent mark with digits follows. -/
def exponent? (cs : List Symbol) : Option (Int × List Symbol) :=
  let signed (sign : Int) (rest : List Symbol) : Option (Int × List Symbol) :=
    match digits rest with
    | ([], _) => none
    | (ds, rest) => some (sign * Number.ofAscii ds, rest)
  match cs with
  | .char c :: rest =>
    if c = 'e' ∨ c = 'E' then
      match rest with
      | .char '+' :: rest => signed 1 rest
      | .char '-' :: rest => signed (-1) rest
      | rest => signed 1 rest
    else none
  | _ => none

/-- A number after its sign. It is an integer if neither a fraction nor an exponent follows. -/
def number? (negative : Bool) (cs : List Symbol) : Option (Value × List Symbol) := do
  let (ds, rest) ← whole? cs
  let (fs, rest) := fraction rest
  match exponent? rest with
  | some (e, rest) =>
    some (.real (.ofDecimal negative (Number.ofAscii (ds ++ fs)) (e - fs.length)), rest)
  | none =>
    if fs = [] then
      if Number.maxDigits < ds.length then none
      else some (.int (if negative then -Number.ofAscii ds else Number.ofAscii ds), rest)
    else some (.real (.ofDecimal negative (Number.ofAscii (ds ++ fs)) (-fs.length)), rest)

/-- The values that are one word, and a number after its minus sign. -/
def word? (cs : List Symbol) : Option (Value × List Symbol) :=
  let words : List (String × Value) :=
    [("null", .null), ("true", .bool true), ("false", .bool false), ("NaN", .real .nan),
     ("Infinity", .real (.infinite false)), ("-Infinity", .real (.infinite true))]
  match words.findSome? (fun w => (after? w.1 cs).map (fun rest => (w.2, rest))) with
  | some r => some r
  | none => match cs with
    | .char '-' :: rest => number? true rest
    | _ => number? false cs

mutual

/-- A value at the front of a text, inside which `depth` arrays and objects may still open. -/
def value (fuel depth : Nat) (cs : List Symbol) : Reading Value :=
  match fuel with
  | 0 => .error .malformed
  | fuel + 1 =>
    match cs with
    | .char '"' :: rest => (Reading.ofOption (string? none rest)).map (.string ⟨·⟩)
    | .char '[' :: rest =>
      match depth with
      | 0 => .error (.tooDeep .array)
      | depth + 1 =>
        match skip rest with
        | .char ']' :: rest => .ok (.array [], rest)
        | rest => (items fuel depth rest).map .array
    | .char '\x7b' :: rest =>
      match depth with
      | 0 => .error (.tooDeep .object)
      | depth + 1 =>
        match skip rest with
        | .char '\x7d' :: rest => .ok (.object [], rest)
        | rest => (members fuel depth rest).map (fun ms => .object (Members.ofList ms))
    | cs => .ofOption (word? cs)

/-- The items of an array up to its closing bracket, of which there is at least one. -/
def items (fuel depth : Nat) (cs : List Symbol) : Reading (List Value) :=
  match fuel with
  | 0 => .error .malformed
  | fuel + 1 =>
    match value fuel depth cs with
    | .error e => .error e
    | .ok (v, rest) =>
      match skip rest with
      | .char ']' :: rest => .ok ([v], rest)
      | .char ',' :: rest => (items fuel depth (skip rest)).map (v :: ·)
      | _ => .error .malformed

/-- The members of an object up to its closing brace, of which there is at least one. -/
def members (fuel depth : Nat) (cs : List Symbol) : Reading (List (Wide × Value)) :=
  match fuel with
  | 0 => .error .malformed
  | fuel + 1 =>
    match cs with
    | .char '"' :: rest =>
      match string? none rest with
      | none => .error .malformed
      | some (k, rest) =>
        match skip rest with
        | .char ':' :: rest =>
          match value fuel depth (skip rest) with
          | .error e => .error e
          | .ok (v, rest) =>
            match skip rest with
            | .char '\x7d' :: rest => .ok ([(⟨k⟩, v)], rest)
            | .char ',' :: rest => (members fuel depth (skip rest)).map ((⟨k⟩, v) :: ·)
            | _ => .error .malformed
        | _ => .error .malformed
    | _ => .error .malformed

end

/-- The value that a text holds, if it holds one and nothing else. -/
def parse (cs : List Symbol) : Except Fault Value :=
  match value (2 * cs.length + 2) maxDepth (skip cs) with
  | .ok (v, rest) => if skip rest = [] then .ok v else .error .malformed
  | .error e => .error e

end Karaoke.Json
