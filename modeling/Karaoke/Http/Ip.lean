import Karaoke.Text.Cut

/-!
# Numeric addresses

The two forms of a host that is a number: four octets between points, and groups of hexadecimal
digits between colons, where a double colon stands for groups of zeros.
-/

set_option autoImplicit false

namespace Karaoke.Http.Ip

/-- Whether a text is a number below 256 without needless zeros. -/
def isOctet (cs : List Char) : Bool :=
  cs ≠ [] && cs.length ≤ 3 && cs.all Char.isDigit && (cs == ['0'] || cs.head? != some '0')
    && decide (cs.foldl (fun n d => n * 10 + (d.toNat - '0'.toNat)) 0 ≤ 255)

/-- Whether a text is four octets. -/
def isFour (cs : List Char) : Bool :=
  let octets := cs.splitOn '.'
  octets.length == 4 && octets.all isOctet

/-- Whether a text is meant as four numbers: it is long enough for four runs of digits with one
character, a digit or not, between each and the next. -/
def looksFour (cs : List Char) : Bool :=
  let runs := cs.splitOnP (!·.isDigit)
  runs.all (· ≠ []) && runs.length ≤ 4 &&
    4 ≤ runs.foldl (fun n r => n + (r.length + 1) / 2) 0

def isHexDigit (c : Char) : Bool :=
  c.isDigit || ('a' ≤ c && c ≤ 'f') || ('A' ≤ c && c ≤ 'F')

/-- Whether a text is a group of up to four hexadecimal digits. -/
def isGroup (cs : List Char) : Bool :=
  cs ≠ [] && cs.length ≤ 4 && cs.all isHexDigit

/-- The groups on one side of a double colon; there are none if it stands at an end. -/
def side (groups : List (List Char)) : List (List Char) :=
  if groups = [[]] then [] else groups

/-- Whether some pieces between colons are eight groups, or fewer with a double colon. -/
def areGroups (pieces : List (List Char)) : Bool :=
  match pieces.tail.dropLast.findIdx? (· = []) with
  | none => pieces.length == 8 && pieces.all isGroup
  | some n =>
    let (before, after) := (side (pieces.take (n + 1)), side (pieces.drop (n + 2)))
    before.all isGroup && after.all isGroup && before.length + after.length ≤ 7

/-- The pieces of a text between colons. Four octets at the end stand for two groups. -/
def pieces? (cs : List Char) : Option (List (List Char)) :=
  let pieces := cs.splitOn ':'
  if pieces.length < 3 then none
  else match pieces.getLast? with
    | some tail =>
      if tail.contains '.' then
        if isFour tail then some (pieces.dropLast ++ [['0'], ['0']]) else none
      else some pieces
    | none => none

/-- Whether a text is hexadecimal groups. A percent sign separates them from the zone. -/
def isEight (cs : List Char) : Bool :=
  let (address, zone) := Text.cut '%' cs
  zone.all (fun z => z ≠ [] && !z.contains '%') && !cs.contains '/'
    && (pieces? address).any (fun ps => ps.length ≤ 9 && areGroups ps)

end Karaoke.Http.Ip
