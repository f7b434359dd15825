/-!
# Comma-separated records

A record is a line of cells with commas between them. A cell that begins with a quote goes on to
the closing quote, across commas and line ends; a quote inside it is written twice, and text after
the closing quote still belongs to the cell. A line ends at a line feed, before which carriage
returns may stand; a carriage return elsewhere outside quotes is an error.
-/

set_option autoImplicit false

namespace Karaoke.Csv

/-- A longer cell is an error. -/
def maxCell : Nat := 131072

abbrev Cell := List Char

abbrev Record := List Cell

/-- Where a reader stands in a record. -/
inductive Place where
  /-- Before the first character of a line. -/
  | line
  /-- Before the first character of a cell. -/
  | cell
  /-- In a cell without an open quote. -/
  | plain
  | quoted
  /-- After a quote inside a quoted cell, which closes it or is the first of two. -/
  | quote
  /-- After a carriage return that ends the line. -/
  | lineEnd
  deriving DecidableEq, Repr

/-- A reader: where it stands, the cell it reads and the cells before it, both last first. -/
structure Reader where
  place : Place := .line
  current : Cell := []
  cells : Record := []
  deriving DecidableEq, Repr

namespace Reader

/-- The reader with the current cell completed, unless the cell is too long. -/
def close? (r : Reader) (place : Place) : Option Reader :=
  if r.current.length ≤ maxCell then some ⟨place, [], r.current.reverse :: r.cells⟩ else none

def push (r : Reader) (place : Place) (c : Char) : Reader :=
  { r with place := place, current := c :: r.current }

/-- The record that has been read. -/
def record (r : Reader) : Record :=
  r.cells.reverse

/-- What a character outside quotes does: it ends the cell, or belongs to it. -/
def plain? (r : Reader) (c : Char) : Option (Reader × Option Record) :=
  if c = ',' then (r.close? .cell).map (·, none)
  else if c = '\n' then (r.close? .line).map (fun r => ({}, some r.record))
  else if c = '\r' then (r.close? .lineEnd).map (·, none)
  else some (r.push .plain c, none)

/-- One character: the reader after it and the record that it completes, if any. -/
def step? (r : Reader) (c : Char) : Option (Reader × Option Record) :=
  match r.place with
  | .line =>
    if c = '\n' then some ({}, some [])
    else if c = '\r' then some ({ r with place := .lineEnd }, none)
    else if c = '"' then some ({ r with place := .quoted }, none)
    else r.plain? c
  | .cell => if c = '"' then some ({ r with place := .quoted }, none) else r.plain? c
  | .plain => r.plain? c
  | .quoted =>
    if c = '"' then some ({ r with place := .quote }, none) else some (r.push .quoted c, none)
  | .quote => if c = '"' then some (r.push .quoted c, none) else r.plain? c
  | .lineEnd =>
    if c = '\n' then some ({}, some r.record)
    else if c = '\r' then some (r, none)
    else none

/-- The record that the end of the text completes, if one has begun. -/
def finish? (r : Reader) : Option (List Record) :=
  match r.place with
  | .line => some []
  | .lineEnd => some [r.record]
  | _ => (r.close? .line).map (fun r => [r.record])

/-- The records of the rest of a text. -/
def records? (r : Reader) : List Char → Option (List Record)
  | [] => r.finish?
  | c :: cs =>
    match r.step? c with
    | none => none
    | some (r, none) => r.records? cs
    | some (r, some record) => (r.records? cs).map (record :: ·)

end Reader

/-- The records of a text, blank lines among them as records without cells. -/
def records? (cs : List Char) : Option (List Record) :=
  Reader.records? {} cs

end Karaoke.Csv
