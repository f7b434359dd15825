import Karaoke.Proofs.Catalog.Fetches
import Mathlib.Data.Finset.Max
import Mathlib.Data.List.Basic

/-!
# Names from tables

A list of names may come as a table of one column. Its first record, blank or not, names the
columns. If it is blank there are none, and a name is a whole row as it is written in brackets.
Such a name is longer than the cell in it, so the name from the longest cell is no cell of the table.
-/

set_option autoImplicit false

namespace Karaoke

namespace Text.Quoted

theorem escape_ne_nil (quote c : Char) : escape quote c ≠ [] := by
  unfold escape byCode
  split_ifs <;> exact List.cons_ne_nil _ _

theorem length_le_length_flatMap {f : Char → List Char} (some : ∀ c, f c ≠ []) (cs : List Char) :
    cs.length ≤ (cs.flatMap f).length := by
  induction cs with
  | nil => exact le_rfl
  | cons c cs ih =>
    have here := List.length_pos_iff.mpr (some c)
    rw [List.flatMap_cons, List.length_append, List.length_cons]
    omega

theorem length_le_length_quoted (cs : List Char) : cs.length ≤ (quoted cs).length := by
  have escaped := length_le_length_flatMap (escape_ne_nil (quoteFor cs)) cs
  simp only [quoted, List.length_cons, List.length_append]
  omega

end Text.Quoted

namespace Catalog

open Csv (Cell Record)
open Json (Value)

variable {header : Record} {records : List Record} {r : Http.Response}

/-- The cells of the records behind the first that is not blank. -/
def laterCells (records : List Record) : List Cell :=
  ((records.filter (!·.isEmpty)).drop 1).flatten

/-- A row of one cell as it is written. -/
def bracketed (c : Cell) : List Char :=
  '[' :: (Text.Quoted.quoted c ++ [']'])

theorem length_lt_length_bracketed (c : Cell) : c.length < (bracketed c).length := by
  have quoted := Text.Quoted.length_le_length_quoted c
  simp only [bracketed, List.length_cons, List.length_append]
  omega

theorem name_row_singleton (h c : Cell) : name (Csv.row [h] [c]) = .ok (String.ofList c) := by
  simp [Csv.row, Csv.cellValue, Json.Members.ofList, Json.Members.insert, name, Value.text]

theorem name_row_nil (c : Cell) : name (Csv.row [] [c]) = .ok (String.ofList (bracketed c)) := by
  simp [Csv.row, Csv.cellValue, name, Value.text, Value.literal, Value.literals, Json.separated,
    Json.quoted_ofList, bracketed]

theorem filter_eq_map_singleton (narrow : ∀ record ∈ records, record.length ≤ 1) :
    records.filter (!·.isEmpty) = records.flatten.map ([·]) := by
  induction records with
  | nil => rfl
  | cons record records ih =>
    rw [List.forall_mem_cons] at narrow
    obtain ⟨short, narrow⟩ := narrow
    match record with
    | [] => simpa using ih narrow
    | [c] => simpa using ih narrow
    | c :: d :: rest => simp at short

theorem laterCells_eq_drop (narrow : ∀ record ∈ records, record.length ≤ 1) :
    laterCells records = records.flatten.drop 1 := by
  rw [laterCells, filter_eq_map_singleton narrow, ← List.map_drop, ← List.flatMap_def,
    List.flatMap_singleton']

/-! ## Names in order -/

theorem names_rows {shown : Cell → List Char}
    (each : ∀ c, name (Csv.row header [c]) = .ok (String.ofList (shown c)))
    (narrow : ∀ record ∈ records, record.length ≤ 1) :
    names ((records.filter (!·.isEmpty)).map (Csv.row header)) =
      .ok (records.flatten.map fun c => String.ofList (shown c)) := by
  rw [filter_eq_map_singleton narrow, List.map_map, names, mapM_eq_ok_iff,
    List.forall₂_map_left_iff, List.forall₂_map_right_iff, List.forall₂_same]
  exact fun c _ => each c

theorem names_of_header {h : Cell} (narrow : ∀ record ∈ records, record.length ≤ 1) :
    names ((records.filter (!·.isEmpty)).map (Csv.row [h])) =
      .ok ((laterCells ([h] :: records)).map String.ofList) := by
  have all : ∀ record ∈ [h] :: records, record.length ≤ 1 :=
    List.forall_mem_cons.mpr ⟨le_rfl, narrow⟩
  rw [laterCells_eq_drop all]
  exact names_rows (name_row_singleton h) narrow

theorem mem_map_ofList_iff {cells : List Cell} {n : String} :
    n ∈ cells.map String.ofList ↔ n.toList ∈ cells := by
  constructor
  · intro mem
    obtain ⟨c, mem, rfl⟩ := List.mem_map.mp mem
    rwa [String.toList_ofList]
  · intro mem
    exact List.mem_map.mpr ⟨_, mem, String.ofList_toList⟩

/-! ## Names in brackets -/

theorem exists_longest {cells : List Cell} (some : cells ≠ []) :
    ∃ longest ∈ cells, ∀ c ∈ cells, c.length ≤ longest.length := by
  obtain ⟨longest, mem, most⟩ := cells.toFinset.exists_max_image List.length
    (List.toFinset_nonempty_iff cells |>.mpr some)
  exact ⟨longest, List.mem_toFinset.mp mem, fun c mem => most c (List.mem_toFinset.mpr mem)⟩

theorem exists_bracketed_notMem {cells : List Cell} (some : cells ≠ []) :
    ∃ c ∈ cells, bracketed c ∉ cells := by
  obtain ⟨longest, mem, most⟩ := exists_longest some
  refine ⟨longest, mem, fun among => ?_⟩
  exact absurd (length_lt_length_bracketed longest) (Nat.not_lt.mpr (most _ among))

theorem names_are_cells_of_blank_iff (narrow : ∀ record ∈ records, record.length ≤ 1) :
    (∀ n, n ∈ records.flatten.map (fun c => String.ofList (bracketed c)) ↔
        n.toList ∈ laterCells ([] :: records)) ↔
      ∀ record ∈ records, record = [] := by
  have all : ∀ record ∈ [] :: records, record.length ≤ 1 :=
    List.forall_mem_cons.mpr ⟨Nat.zero_le _, narrow⟩
  rw [laterCells_eq_drop all, List.flatten_cons, List.nil_append, ← List.flatten_eq_nil_iff]
  constructor
  · intro same
    by_contra some
    obtain ⟨c, mem, new⟩ := exists_bracketed_notMem some
    have later := (same _).mp (List.mem_map_of_mem mem)
    rw [String.toList_ofList] at later
    exact new (List.mem_of_mem_drop later)
  · intro blank n
    simp [blank]

/-! ## Fetches of names -/

theorem fetches_eq_ok [Text.Charsets] {o : Http.Outcome} {vs : List Value} {ns : List String}
    (held : Holds o vs) (read : names vs = .ok ns) (list : String) :
    fetchIndex o = .ok ns ∧ fetchList list o = .ok (.ofList ns) := by
  have index : ∀ path, fetched path names o = .ok ns := fun path =>
    fetched_eq_ok_iff.mpr ⟨vs, held, read⟩
  refine ⟨index _, ?_⟩
  rw [fetchList, index]
  rfl

/-- The names from a table of at most one cell in each record are its cells behind the header
exactly if its first record is not blank, or all are. -/
theorem names_are_cells_iff [Text.Charsets] {text : List Char} (list : String)
    (status : r.status = 200) (type : r.HasType "text/csv") (decoded : r.text = .ok text)
    (read : Csv.records? text = some records)
    (narrow : ∀ record ∈ records, record.length ≤ 1) :
    ∃ names, fetchIndex (.response r) = .ok names ∧
      fetchList list (.response r) = .ok (.ofList names) ∧
      ((∀ n, n ∈ names ↔ n.toList ∈ laterCells records) ↔
        (records.head? = some [] → ∀ record ∈ records, record = [])) := by
  have held : ∀ vs, Csv.rows? text = some vs → Holds (.response r) vs := fun vs rows =>
    .table (by simp [status]) (by simp [status]) type decoded rows
  cases records with
  | nil =>
    obtain ⟨index, members⟩ := fetches_eq_ok (held [] (by simp [Csv.rows?, read])) rfl list
    exact ⟨[], index, members, by simp [laterCells]⟩
  | cons header rest =>
    have rows : Csv.rows? text = some ((rest.filter (!·.isEmpty)).map (Csv.row header)) := by
      simp [Csv.rows?, read]
    obtain ⟨short, behind⟩ := List.forall_mem_cons.mp narrow
    rcases header with _ | ⟨h, _ | ⟨d, more⟩⟩
    · obtain ⟨index, members⟩ :=
        fetches_eq_ok (held _ rows) (names_rows name_row_nil behind) list
      refine ⟨_, index, members, ?_⟩
      rw [names_are_cells_of_blank_iff behind]
      simp
    · obtain ⟨index, members⟩ := fetches_eq_ok (held _ rows) (names_of_header behind) list
      refine ⟨_, index, members, ?_⟩
      simp [mem_map_ofList_iff]
    · simp at short

def spacedText : List Char :=
  "name\n\nFans\n\"Oldies\"\n\n".toList

def spacedNames : Http.Response where
  headers := [("content-type", "text/csv")]
  body := Text.Utf8.encode spacedText

theorem names_are_cells_spaced :
    let _ : Text.Charsets := .builtin
    let records : List Record :=
      [["name".toList], [], ["Fans".toList], ["Oldies".toList], []]
    spacedNames.status = 200 ∧ spacedNames.HasType "text/csv" ∧
      spacedNames.text = .ok spacedText ∧ Csv.records? spacedText = some records ∧
      (∀ record ∈ records, record.length ≤ 1) ∧
      ∃ names, fetchIndex (.response spacedNames) = .ok names ∧
        ∀ n, n ∈ names ↔ n.toList ∈ ["Fans".toList, "Oldies".toList] := by
  intro _ records
  have type : spacedNames.HasType "text/csv" :=
    (Http.Response.mediaType?_eq_some_iff solid_csv).mp (by decide +kernel)
  have decoded : spacedNames.text = .ok spacedText := by decide +kernel
  have read : Csv.records? spacedText = some records := by decide +kernel
  have narrow : ∀ record ∈ records, record.length ≤ 1 := by decide
  obtain ⟨names, index, -, cells⟩ := names_are_cells_iff "Fans" rfl type decoded read narrow
  have header : records.head? = some [] → ∀ record ∈ records, record = [] := by decide
  exact ⟨rfl, type, decoded, read, narrow, names, index, cells.mpr header⟩

/-- Below a blank line even the name of the column is given, and each name comes in brackets. -/
theorem names_not_cells_of_blank :
    let _ : Text.Charsets := .builtin
    let body : List Char := "\nname\nFans\n".toList
    let r : Http.Response :=
      { headers := [("content-type", "text/csv")], body := Text.Utf8.encode body }
    let records : List Record := [[], ["name".toList], ["Fans".toList]]
    r.text = .ok body ∧ Csv.records? body = some records ∧
      fetchIndex (.response r) = .ok ["['name']", "['Fans']"] ∧
      fetchList "Fans" (.response r) = .ok (.ofList ["['name']", "['Fans']"]) ∧
      laterCells records = ["Fans".toList] := by
  decide +kernel

end Catalog

end Karaoke
