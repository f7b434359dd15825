import Karaoke.Number.Shortest

/-!
# Numbers as text

An integer is written in decimal. A double is written with its shortest digits, always showing a
point or an exponent.
-/

set_option autoImplicit false

namespace Karaoke.Number

def digits (n : Nat) : List Char :=
  Nat.toDigits 10 n

def ofInt (n : Int) : List Char :=
  if n < 0 then '-' :: digits n.natAbs else digits n.natAbs

/-- The least exponent and the first exponent too great to write a double without an exponent. -/
def positional : Int × Int := (-4, 16)

/-- An exponent has a sign and at least two digits. -/
def exponentText (e : Int) : List Char :=
  let ds := digits e.natAbs
  (if e < 0 then '-' else '+') :: (if ds.length < 2 then '0' :: ds else ds)

/-- The digits of a decimal with a point after `point` of them. -/
def withPoint (ds : List Char) (point : Int) : List Char :=
  if point ≤ 0 then '0' :: '.' :: (List.replicate (-point).toNat '0' ++ ds)
  else if (ds.length : Int) ≤ point then
    ds ++ List.replicate (point.toNat - ds.length) '0' ++ ['.', '0']
  else ds.take point.toNat ++ '.' :: ds.drop point.toNat

def withExponent (ds : List Char) (e : Int) : List Char :=
  match ds with
  | d :: rest => d :: ((if rest = [] then [] else '.' :: rest) ++ 'e' :: exponentText e)
  | [] => []

def ofDecimal (d : Decimal) : List Char :=
  let ds := digits d.digits
  let point := (ds.length : Int) + d.power
  if positional.1 ≤ point - 1 ∧ point - 1 < positional.2 then withPoint ds point
  else withExponent ds (point - 1)

def signed (negative : Bool) (cs : List Char) : List Char :=
  if negative then '-' :: cs else cs

def ofBinary64 : Binary64 → List Char
  | .nan => "nan".toList
  | .infinite negative => signed negative "inf".toList
  | .finite negative 0 _ => signed negative "0.0".toList
  | .finite negative m e => signed negative (ofDecimal (Decimal.shortest m e))

end Karaoke.Number
