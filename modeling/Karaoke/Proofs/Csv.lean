import Karaoke.Csv.Table
import Mathlib.Data.List.Forall2

/-!
# Written tables

The records of a text that was written cell by cell. A cell stands between quotes, with its own
quotes doubled, or as it is if nothing in it could be taken for the end of a cell; a line ends with
a carriage return and a line feed. Behind a cell a reader stands where the next delimiter ends the
cell, whichever way the cell was written, and holds the cell and those before it.
-/

set_option autoImplicit false

namespace Karaoke.Csv

/-- A character that means nothing outside quotes. -/
def Ordinary (c : Char) : Prop :=
  c ≠ ',' ∧ c ≠ '"' ∧ c ≠ '\n' ∧ c ≠ '\r'

def doubled (cell : Cell) : List Char :=
  cell.flatMap fun c => if c = '"' then ['"', '"'] else [c]

/-- The ways to write a cell. -/
inductive CellText : Cell → List Char → Prop where
  | plain {cell} : (∀ c ∈ cell, Ordinary c) → CellText cell cell
  | quoted {cell} : CellText cell ('"' :: (doubled cell ++ ['"']))

/-- A line: cells with commas between them, up to the line end. -/
inductive LineText : Record → List Char → Prop where
  | last {cell t} : CellText cell t → LineText [cell] (t ++ ['\r', '\n'])
  | more {cell t cells u} : CellText cell t → LineText cells u →
      LineText (cell :: cells) (t ++ ',' :: u)

def Short (record : Record) : Prop :=
  ∀ cell ∈ record, cell.length ≤ maxCell

namespace Reader

variable {place : Place} {current : Cell} {done : Record} {rest : List Char}

/-- Where a cell may be over: outside quotes, or behind a quote that may close it. -/
def Closable (place : Place) : Prop :=
  place = .cell ∨ place = .plain ∨ place = .quote

theorem step?_of_closable {r : Reader} {c : Char} (closable : Closable r.place)
    (unquote : c ≠ '"') : r.step? c = r.plain? c := by
  obtain ⟨place, current, done⟩ := r
  rcases closable with rfl | rfl | rfl <;> simp [step?, unquote]

/-! ## Inside a cell -/

theorem records?_plain {cell : Cell} (ordinary : ∀ c ∈ cell, Ordinary c) :
    records? ⟨.plain, current, done⟩ (cell ++ rest) =
      records? ⟨.plain, cell.reverse ++ current, done⟩ rest := by
  induction cell generalizing current with
  | nil => rfl
  | cons c cell ih =>
    obtain ⟨comma, -, feed, ret⟩ := ordinary c List.mem_cons_self
    rw [List.forall_mem_cons] at ordinary
    have step : step? ⟨.plain, current, done⟩ c = some (⟨.plain, c :: current, done⟩, none) := by
      simp [step?, plain?, push, comma, feed, ret]
    rw [List.cons_append, records?, step]
    simpa using ih ordinary.2

theorem records?_quoted {cell : Cell} :
    records? ⟨.quoted, current, done⟩ (doubled cell ++ rest) =
      records? ⟨.quoted, cell.reverse ++ current, done⟩ rest := by
  induction cell generalizing current with
  | nil => rfl
  | cons c cell ih =>
    rw [List.reverse_cons, List.append_assoc, List.singleton_append, ← ih]
    by_cases quote : c = '"'
    · simp [doubled, quote, records?, step?, push]
    · simp [doubled, quote, records?, step?, push]

theorem records?_cellText {cell : Cell} {t : List Char} (text : CellText cell t) (done : Record) :
    ∃ place, Closable place ∧ ∀ rest, records? ⟨.cell, [], done⟩ (t ++ rest) =
      records? ⟨place, cell.reverse, done⟩ rest := by
  cases text with
  | plain ordinary =>
    cases cell with
    | nil => exact ⟨.cell, .inl rfl, fun rest => rfl⟩
    | cons c cell =>
      obtain ⟨comma, quote, feed, ret⟩ := ordinary c List.mem_cons_self
      rw [List.forall_mem_cons] at ordinary
      have step : step? ⟨.cell, [], done⟩ c = some (⟨.plain, [c], done⟩, none) := by
        simp [step?, plain?, push, comma, quote, feed, ret]
      refine ⟨.plain, .inr (.inl rfl), fun rest => ?_⟩
      rw [List.cons_append, records?, step]
      simpa using records?_plain ordinary.2
  | quoted =>
    refine ⟨.quote, .inr (.inr rfl), fun rest => ?_⟩
    have opened : step? ⟨.cell, [], done⟩ '"' = some (⟨.quoted, [], done⟩, none) := rfl
    rw [List.cons_append, records?, opened, List.append_assoc]
    dsimp only
    rw [records?_quoted, List.append_nil]
    rfl

/-! ## Behind a cell -/

theorem records?_comma {cell : Cell} (closable : Closable place) (short : cell.length ≤ maxCell) :
    records? ⟨place, cell.reverse, done⟩ (',' :: rest) =
      records? ⟨.cell, [], cell :: done⟩ rest := by
  rw [records?, step?_of_closable closable (by decide)]
  simp [plain?, close?, short]

theorem records?_lineEnd {cell : Cell} (closable : Closable place) (short : cell.length ≤ maxCell) :
    records? ⟨place, cell.reverse, done⟩ ('\r' :: '\n' :: rest) =
      (records? {} rest).map ((done.reverse ++ [cell]) :: ·) := by
  rw [records?, step?_of_closable closable (by decide)]
  simp [plain?, close?, short, records?, step?, record]

/-! ## Lines -/

theorem records?_lineText {cells : Record} {t : List Char} (text : LineText cells t)
    (short : Short cells) :
    records? ⟨.cell, [], done⟩ (t ++ rest) =
      (records? {} rest).map ((done.reverse ++ cells) :: ·) := by
  induction text generalizing done with
  | last text =>
    obtain ⟨place, closable, read⟩ := records?_cellText text done
    rw [List.append_assoc, read]
    exact records?_lineEnd closable (short _ List.mem_cons_self)
  | more text _ ih =>
    obtain ⟨place, closable, read⟩ := records?_cellText text done
    obtain ⟨fits, short⟩ := List.forall_mem_cons.mp short
    rw [List.append_assoc, read, List.cons_append, records?_comma closable fits, ih short,
      List.reverse_cons, List.append_assoc, List.singleton_append]

/-- At the beginning of a line only a line end does not begin a cell. -/
theorem records?_line {c : Char} {t : List Char} (feed : c ≠ '\n') (ret : c ≠ '\r') :
    records? {} (c :: t) = records? ⟨.cell, [], []⟩ (c :: t) := by
  simp [records?, step?, feed, ret, plain?, push, close?]

end Reader

/-- A line of several cells is not blank. -/
theorem LineText.begins {a b : Cell} {cells : Record} {t : List Char}
    (text : LineText (a :: b :: cells) t) : ∃ c u, t = c :: u ∧ c ≠ '\n' ∧ c ≠ '\r' := by
  cases text with
  | more text _ =>
    cases text with
    | plain ordinary =>
      cases a with
      | nil => exact ⟨',', _, rfl, by decide, by decide⟩
      | cons c a =>
        obtain ⟨-, -, feed, ret⟩ := ordinary c List.mem_cons_self
        exact ⟨c, _, rfl, feed, ret⟩
    | quoted => exact ⟨'"', _, rfl, by decide, by decide⟩

theorem records?_lines {records : List Record} {lines : List (List Char)}
    (text : List.Forall₂ LineText records lines) (short : ∀ r ∈ records, Short r)
    (several : ∀ r ∈ records, 2 ≤ r.length) : records? lines.flatten = some records := by
  induction text with
  | nil => rfl
  | @cons record line records lines first _ ih =>
    rw [List.forall_mem_cons] at short several
    match record, several.1 with
    | a :: b :: cells, _ =>
      obtain ⟨c, u, begins, feed, ret⟩ := first.begins
      have later : Reader.records? {} lines.flatten = some records := ih short.2 several.2
      rw [records?, List.flatten_cons, begins, List.cons_append, Reader.records?_line feed ret,
        ← List.cons_append, ← begins, Reader.records?_lineText first short.1, later]
      rfl

/-- The rows of a written table. -/
theorem rows?_lines {header : Record} {records : List Record} {lines : List (List Char)}
    (text : List.Forall₂ LineText (header :: records) lines)
    (short : ∀ r ∈ header :: records, Short r) (several : ∀ r ∈ header :: records, 2 ≤ r.length) :
    rows? lines.flatten = some (records.map (row header)) := by
  have filled : records.filter (!·.isEmpty) = records := by
    apply List.filter_eq_self.mpr
    intro r mem
    have length := several r (List.mem_cons_of_mem _ mem)
    cases r with
    | nil => cases length
    | cons _ _ => rfl
  rw [rows?, records?_lines text short several, Option.map_some]
  dsimp only
  rw [filled]

/-! ## Quoted lines -/

def quotedCell (cell : Cell) : List Char :=
  '"' :: (doubled cell ++ ['"'])

/-- The line in which every cell is quoted. -/
def quotedLine (record : Record) : List Char :=
  [','].intercalate (record.map quotedCell) ++ ['\r', '\n']

theorem lineText_quotedLine {record : Record} (filled : record ≠ []) :
    LineText record (quotedLine record) := by
  induction record with
  | nil => exact absurd rfl filled
  | cons cell record ih =>
    have text : CellText cell (quotedCell cell) := .quoted
    cases record with
    | nil => simpa [quotedLine] using LineText.last text
    | cons next record =>
      have more := LineText.more text (ih (List.cons_ne_nil _ _))
      simpa [quotedLine, List.intercalate_cons_cons] using more

end Karaoke.Csv
