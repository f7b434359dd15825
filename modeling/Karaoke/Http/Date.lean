import Karaoke.Number.Integer
import Karaoke.Text.Blank

/-!
# Dates

A date in a header has a strict form, `Wed, 09 Feb 1994 22:23:32 GMT`, and many loose ones: a day,
a month and a year, then perhaps a clock, a zone and a note in parentheses. Times are seconds since
the beginning of 1970.
-/

set_option autoImplicit false

namespace Karaoke.Http.Date

open Text (isBlank)

/-- What a text gives as a date. -/
inductive Reading where
  | time (seconds : Int)
  | unknown
  /-- The text has the form of a date, but there is no such date. -/
  | broken
  deriving DecidableEq, Repr

structure Moment where
  day : Nat
  month : Nat
  year : Nat
  hour : Nat := 0
  minute : Nat := 0
  second : Nat := 0
  deriving DecidableEq, Repr

def monthNames : List String :=
  ["jan", "feb", "mar", "apr", "may", "jun", "jul", "aug", "sep", "oct", "nov", "dec"]

/-- The number of a month by its short name. -/
def monthNamed? (cs : List Char) : Option Nat :=
  (monthNames.findIdx? (fun m => m.toList == cs.map Char.toLower)).map (· + 1)

def isLeap (year : Nat) : Bool :=
  year % 4 == 0 && (year % 100 != 0 || year % 400 == 0)

def monthLengths (year : Nat) : List Nat :=
  [31, if isLeap year then 29 else 28, 31, 30, 31, 30, 31, 31, 30, 31, 30, 31]

/-- The days from the beginning of the year 1 to that of a month. -/
def daysBefore (year month : Nat) : Nat :=
  let y := year - 1
  ((monthLengths year).take (month - 1)).foldl (· + ·) (y * 365 + y / 4 - y / 100 + y / 400)

/-- The time of a moment from 1970 on. A day may lie beyond the end of a short month. -/
def Moment.seconds? (m : Moment) : Option Int :=
  if 1970 ≤ m.year ∧ 1 ≤ m.month ∧ m.month ≤ 12 ∧ 1 ≤ m.day ∧ m.day ≤ 31 ∧ m.hour ≤ 24 ∧
      m.minute ≤ 59 ∧ m.second ≤ 61 then
    let days := daysBefore m.year m.month - daysBefore 1970 1 + (m.day - 1)
    some (((days * 24 + m.hour) * 60 + m.minute) * 60 + m.second : Nat)
  else none

/-- The year of a time. -/
def yearOf (seconds : Int) : Nat :=
  let day := (seconds / 86400).toNat + daysBefore 1970 1
  let year := 1 + day * 400 / 146097
  if daysBefore (year + 1) 1 ≤ day then year + 1
  else if day < daysBefore year 1 then year - 1
  else year

/-! ## The strict form -/

/-- The strict form: `#` stands for a digit, `_` for a small letter, `^` for the first letter of
a day and `~` for that of a month. -/
def strictForm : String := "^__, ## ~__ #### ##:##:## GMT"

def fits (mark c : Char) : Bool :=
  match mark with
  | '#' => c.isDigit
  | '_' => c.isLower
  | '^' => "SMTWF".toList.contains c
  | '~' => "JFMASOND".toList.contains c
  | _ => c == mark

def isStrict (cs : List Char) : Bool :=
  cs.length == strictForm.length && (strictForm.toList.zip cs).all (fun p => fits p.1 p.2)

/-- The number in two or four digits from some place on. -/
def numberAt (place digits : Nat) (cs : List Char) : Nat :=
  Number.ofAscii ((cs.drop place).take digits)

/-- The time that a text in the strict form gives. -/
def readStrict (cs : List Char) : Reading :=
  match monthNamed? ((cs.drop 8).take 3) with
  | none => .broken
  | some month =>
    let m : Moment :=
      { day := numberAt 5 2 cs, month, year := numberAt 12 4 cs, hour := numberAt 17 2 cs
        minute := numberAt 20 2 cs, second := numberAt 23 2 cs }
    match m.seconds? with
    | some t => .time t
    | none => .unknown

/-! ## The loose forms -/

def isWordChar (c : Char) : Bool :=
  c.isAlphanum || c == '_'

/-- The characters of a class at the front of a text, at most so many, and the rest. -/
def front (most : Nat) (p : Char → Bool) (cs : List Char) : List Char × List Char :=
  let found := (cs.take most).takeWhile p
  (found, cs.drop found.length)

/-- What follows blanks, or one of some marks. -/
def afterGap? (marks : List Char) : List Char → Option (List Char)
  | [] => none
  | c :: cs =>
    if isBlank c then some (cs.dropWhile isBlank)
    else if marks.contains c then some cs
    else none

/-- A text without the name of a day in front. -/
def dropWeekday (cs : List Char) : List Char :=
  let word := (cs.takeWhile Char.isAlpha).map Char.toLower
  if ["sun", "mon", "tue", "wed", "thu", "fri", "sat"].contains (String.ofList (word.take 3)) then
    let rest := cs.drop word.length
    (if rest.head? = some ',' then rest.tail else rest).dropWhile isBlank
  else cs

/-- What is written of a date. -/
structure Written where
  day : List Char
  month : List Char
  year : List Char
  clock : List (List Char)
  zone : Option (List Char)
  deriving DecidableEq, Repr

/-- A clock at the front of a text, and the rest: hours, minutes and perhaps seconds. -/
def clock? (cs : List Char) : Option (List (List Char) × List Char) := do
  let (hour, rest) := front 2 Char.isDigit (← afterGap? [':'] cs)
  let (minute, after) := front 2 Char.isDigit rest.tail
  if hour = [] ∨ rest.head? ≠ some ':' ∨ minute.length ≠ 2 then none
  else
    let (second, last) := front 2 Char.isDigit after.tail
    if after.head? = some ':' ∧ second.length = 2 then some ([hour, minute, second], last)
    else some ([hour, minute], after)

/-- A zone at the front of a text, and the rest: up to four digits after a sign, or a name. The
halves of a day are no zones. -/
def zone? (cs : List Char) : Option (List Char × List Char) :=
  let sign := (cs.take 1).filter (fun c => c == '+' || c == '-')
  let (digits, rest) := front 4 Char.isDigit (cs.drop sign.length)
  let name := cs.takeWhile Char.isAlpha
  if 2 ≤ digits.length then some (sign ++ digits, rest)
  else if name = [] ∨ ["am", "pm"].contains (String.ofList (name.map Char.toLower)) then none
  else some (name, cs.drop name.length)

/-- A text without a note in parentheses in front. -/
def dropNote (cs : List Char) : List Char :=
  match cs with
  | '(' :: rest =>
    let note := rest.takeWhile isWordChar
    let after := rest.drop note.length
    if note ≠ [] ∧ after.head? = some ')' then after.tail.dropWhile isBlank else cs
  | _ => cs

def Written.ofText? (cs : List Char) : Option Written := do
  let (day, rest) := front 2 Char.isDigit cs
  let rest ← afterGap? ['-', '/'] rest
  let month := rest.takeWhile isWordChar
  let rest ← afterGap? ['-', '/'] (rest.drop month.length)
  let year := rest.takeWhile Char.isDigit
  let rest := rest.drop year.length
  let (clock, rest) := (clock? rest).getD ([], rest)
  let rest := rest.dropWhile isBlank
  let (zone, rest) := match zone? rest with
    | some (zone, rest) => (some zone, rest)
    | none => (none, rest)
  if day = [] ∨ month = [] ∨ year = [] ∨ dropNote (rest.dropWhile isBlank) ≠ [] then none
  else some { day, month, year, clock, zone }

/-- How many seconds a zone is ahead. -/
def offset? (zone : List Char) : Option Int :=
  if ["GMT", "UTC", "UT", "Z"].contains (String.ofList (zone.map Char.toUpper)) then some 0
  else
    let digits := zone.filter Char.isDigit
    let hours := if 3 ≤ digits.length then digits.take (digits.length - 2) else digits
    let ahead : Int := Number.ofAscii hours * 3600
      + Number.ofAscii (digits.drop hours.length) * 60
    if digits = [] then none else some (if zone.head? = some '-' then -ahead else ahead)

/-- The full year that a short one stands for: the one nearest to the year of a time. -/
def fullYear (now : Int) (year : Nat) : Nat :=
  if 1000 ≤ year then year
  else
    let current := yearOf now
    let full := year + (current - current % 100)
    let ahead : Int := (current % 100 : Nat) - (year : Int)
    if 50 < ahead then full + 100 else if ahead < -50 then full - 100 else full

/-- The month that a text names or numbers. -/
def month? (cs : List Char) : Option Nat :=
  match monthNamed? cs with
  | some m => some m
  | none => (Number.int? cs).bind (fun n => if 1 ≤ n ∧ n ≤ 12 then some n.toNat else none)

/-- The time that is written. -/
def Written.read (now : Int) (w : Written) : Reading :=
  if Number.maxDigits < w.year.length then .broken
  else if 9999 < Number.ofAscii w.year then .unknown
  else
    let clock := w.clock.map Number.ofAscii
    let seconds? := (month? w.month).bind (fun month => Moment.seconds?
      { day := Number.ofAscii w.day, month, year := fullYear now (Number.ofAscii w.year)
        hour := clock[0]?.getD 0, minute := clock[1]?.getD 0, second := clock[2]?.getD 0 })
    match seconds?, offset? (w.zone.getD ['Z']) with
    | some t, some ahead => .time (t - ahead)
    | _, _ => .unknown

/-- The time that a text gives. -/
def read (now : Int) (cs : List Char) : Reading :=
  if isStrict cs then readStrict cs
  else match Written.ofText? (dropWeekday (cs.dropWhile Text.isSpace)) with
    | some w => w.read now
    | none => .unknown

end Karaoke.Http.Date
