import Karaoke.Number.Binary64

/-!
# Shortest decimals

The fewest digits that read back as the same double. On each decimal grid only the two
neighbours of the value matter; the coarsest grid with a neighbour inside the interval of reals
that round to the value wins, and of two such neighbours the nearer.
-/

set_option autoImplicit false

namespace Karaoke

/-- The number `digits * 10 ^ power`. -/
structure Decimal where
  digits : Nat
  power : Int
  deriving DecidableEq, Repr, Inhabited

namespace Decimal

def digitCount (n : Nat) : Nat :=
  (Nat.toDigits 10 n).length

/-- Moves trailing zeros of the digits into the power. -/
def normalize (digits : Nat) (power : Int) : Decimal :=
  if h : digits = 0 ∨ digits % 10 ≠ 0 then ⟨digits, power⟩
  else normalize (digits / 10) (power + 1)
  termination_by digits
  decreasing_by omega

/-- The reals that round to a double, in units of `1 / den`: the value and the two ends, which
belong to the interval only if the mantissa is even. -/
structure Interval where
  low : Nat
  value : Nat
  high : Nat
  den : Nat
  closed : Bool

def Interval.of (mantissa : Nat) (exponent : Int) : Interval :=
  let (unit, den) := Binary64.ratio 1 (exponent - 2)
  let below := if mantissa = Nat.pow 2 52 ∧ Binary64.leastExponent < exponent then 1 else 2
  { low := (4 * mantissa - below) * unit
    value := 4 * mantissa * unit
    high := (4 * mantissa + 2) * unit
    den := den
    closed := mantissa % 2 = 0 }

def Interval.Holds (i : Interval) (x : Nat) : Prop :=
  if i.closed then i.low ≤ x ∧ x ≤ i.high else i.low < x ∧ x < i.high

instance (i : Interval) (x : Nat) : Decidable (i.Holds x) := by
  unfold Interval.Holds; infer_instance

/-- The interval with every bound multiplied by `k`. -/
def Interval.scale (i : Interval) (k : Nat) : Interval :=
  { i with low := i.low * k, value := i.value * k, high := i.high * k }

/-- The neighbour of the value on the grid of multiples of `10 ^ power`, if one reads back. -/
def onGrid? (i : Interval) (power : Int) : Option Nat :=
  let i := if power < 0 then i.scale (Nat.pow 10 (-power).toNat) else i
  let step := if 0 ≤ power then i.den * Nat.pow 10 power.toNat else i.den
  let down := i.value / step
  let up := down + 1
  match decide (i.Holds (down * step)), decide (i.Holds (up * step)) with
  | true, true =>
    let toDown := i.value - down * step
    let toUp := up * step - i.value
    some (if toDown < toUp ∨ (toDown = toUp ∧ down % 2 = 0) then down else up)
  | true, false => some down
  | false, true => some up
  | false, false => none

/-- The number of digits before the decimal point, negative or zero below one. -/
def pointOf (i : Interval) : Int :=
  (digitCount (i.value * Nat.pow 10 400 / i.den) : Int) - 400

/-- The shortest decimal that reads back as `mantissa * 2 ^ exponent`. -/
def shortest (mantissa : Nat) (exponent : Int) : Decimal :=
  let i := Interval.of mantissa exponent
  let point := pointOf i
  let powers := (List.range 17).map (fun n : Nat => point - 1 - n)
  match powers.findSome? (fun p => (onGrid? i p).map (fun d => normalize d p)) with
  | some d => d
  | none => normalize (i.value * Nat.pow 10 400 / i.den) (-400)

end Decimal

end Karaoke
