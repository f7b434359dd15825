import Karaoke.Http.Domain.Admitted
import Karaoke.Http.Domain.Neighbour
import Karaoke.Text.Composition
import Karaoke.Text.Quoted

/-!
# Labels

What a label of a domain name may look like. The rules are tried in a fixed order, and the first
that is broken is reported.
-/

set_option autoImplicit false

namespace Karaoke.Http.Domain

open Text

/-- What is wrong with a domain name. Places in a label are counted from one. -/
inductive Fault where
  | emptyDomain
  | domainTooLong
  | emptyLabel
  | labelTooLong
  | notComposed
  /-- Hyphens where an encoded label has them. -/
  | reservedHyphens
  | outerHyphen
  | leadingMark
  | notAdmitted (c : Char) (place : Nat) (label : List Char)
  | joiner (c : Char) (place : Nat) (label : List Char)
  | neighbour (c : Char) (place : Nat) (label : List Char)
  | firstDirection (label : List Char)
  | rightDirection (place : Nat)
  | leftDirection (place : Nat)
  | mixedDigits
  | lastDirection
  /-- Nothing follows the mark of an encoded label. -/
  | nothingEncoded
  | encodedHyphen
  | notEncoded
  deriving DecidableEq, Repr

namespace Fault

def codeText (c : Char) : String :=
  "U+" ++ String.ofList ((hexPadded 4 c.toNat).map Char.toUpper)

def placed (place : Nat) (joint : String) (label : List Char) : String :=
  "position " ++ String.ofList (Nat.toDigits 10 place) ++ joint
    ++ String.ofList (Quoted.quoted label)

def message : Fault → String
  | emptyDomain => "Empty domain"
  | domainTooLong => "Domain too long"
  | emptyLabel => "Empty Label"
  | labelTooLong => "Label too long"
  | notComposed => "Label must be in Normalization Form C"
  | reservedHyphens => "Label has disallowed hyphens in 3rd and 4th position"
  | outerHyphen => "Label must not start or end with a hyphen"
  | leadingMark => "Label begins with an illegal combining character"
  | notAdmitted c place label =>
    "Codepoint " ++ codeText c ++ " at " ++ placed place " of " label ++ " not allowed"
  | joiner c place label =>
    "Unknown codepoint adjacent to joiner " ++ codeText c ++ " at " ++ placed place " in " label
  | neighbour c place label =>
    "Codepoint " ++ codeText c ++ " not allowed at " ++ placed place " in " label
  | firstDirection label =>
    "First codepoint in label " ++ String.ofList (Quoted.quoted label)
      ++ " must be directionality L, R or AL"
  | rightDirection place =>
    "Invalid direction for codepoint at position " ++ String.ofList (Nat.toDigits 10 place)
      ++ " in a right-to-left label"
  | leftDirection place =>
    "Invalid direction for codepoint at position " ++ String.ofList (Nat.toDigits 10 place)
      ++ " in a left-to-right label"
  | mixedDigits => "Can not mix numeral types in a right-to-left label"
  | lastDirection => "Label ends with illegal codepoint directionality"
  | nothingEncoded => "Malformed A-label, no Punycode eligible content found"
  | encodedHyphen => "A-label must not end with a hyphen"
  | notEncoded => "Invalid A-label"

end Fault

/-- The fault of the first character of a label that may not stand where it does; `before` is what
precedes it, in reverse. -/
def misplaced? (label before : List Char) : List Char → Option Fault
  | [] => none
  | c :: cs =>
    let place := before.length + 1
    if !isAdmitted c then some (.notAdmitted c place label)
    else if fits before c cs then misplaced? label (c :: before) cs
    else if c = '\u200c' ∨ c = '\u200d' then some (.joiner c place label)
    else some (.neighbour c place label)

/-- Whether a direction may end a label that runs in one. -/
def Direction.ends (rightward : Bool) : Direction → Bool
  | left => rightward
  | digit => true
  | right | arabic | arabicDigit => !rightward
  | _ => false

/-- Whether a direction may occur in a label that runs in one. -/
def Direction.occurs (rightward : Bool) : Direction → Bool
  | left => rightward
  | right | arabic | arabicDigit => !rightward
  | _ => true

/-- The fault of the first direction that a label may not have at its place, after the digits seen
so far. -/
def misdirected? (rightward : Bool) (place : Nat) (digits : Option Direction) :
    List Direction → Option Fault
  | [] => none
  | d :: ds =>
    if !d.occurs rightward then
      some (if rightward then .leftDirection place else .rightDirection place)
    else if !rightward ∧ (d = .digit ∨ d = .arabicDigit) then
      if digits.any (· ≠ d) then some .mixedDigits
      else misdirected? rightward (place + 1) (some d) ds
    else misdirected? rightward (place + 1) digits ds

/-- What is wrong with the directions of a label. Only one in which something runs from right to
left has to keep to the rules. -/
def directionFault? (label : List Char) : Option Fault :=
  let ds := label.map direction
  if ds.any (fun d => d = .right || d = .arabic || d = .arabicDigit) then
    let run (rightward : Bool) : Option Fault :=
      (misdirected? rightward 1 none ds).or
        (if ((ds.reverse.find? (· ≠ .mark)).map (·.ends rightward)) = some true then none
          else some .lastDirection)
    match ds.head? with
    | some .left => run true
    | some .right | some .arabic => run false
    | _ => some (.firstDirection label)
  else none

/-- The first rule that a label breaks. -/
def fault? (label : List Char) : Option Fault :=
  if label = [] then some .emptyLabel
  else if 254 < label.length then some .labelTooLong
  else if composed label ≠ label then some .notComposed
  else if (label.drop 2).take 2 = ['-', '-'] then some .reservedHyphens
  else if label.head? = some '-' ∨ label.getLast? = some '-' then some .outerHyphen
  else if label.head?.any isMark then some .leadingMark
  else (misplaced? label [] label).or (directionFault? label)

end Karaoke.Http.Domain
