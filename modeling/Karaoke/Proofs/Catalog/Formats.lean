import Karaoke.Proofs.Catalog.Fetches
import Karaoke.Proofs.Csv
import Karaoke.Proofs.Json.Documents
import Karaoke.Proofs.Song.Record
import Mathlib.Data.List.Nodup
import Mathlib.Data.List.Perm.Basic

/-!
# Two formats of one catalog

A catalog comes as a table or as an array of objects, and gives the same songs either way. A table
has no null: what is null in an object is an empty cell there. That makes no difference, since a
settled field does not tell the two apart.
-/

set_option autoImplicit false

namespace Karaoke.Catalog

open Json (Value ArrayText ObjectText ScalarText Blank)
open Song (Field)
open Text (Wide)

/-- What a server tells of a song: for each field a text or null. -/
abbrev WireRecord := Field → Option String

namespace WireRecord

def song (w : WireRecord) : Song :=
  Song.ofTexts fun f => f.settle (w f)

/-- The record as a table row, null as the empty cell. -/
def cells (columns : List Field) (w : WireRecord) : Csv.Record :=
  columns.map fun f => ((w f).getD "").toList

/-- The record as an object with its members in some order. -/
def IsObject (w : WireRecord) (v : Value) : Prop :=
  ∃ order : List Field, order.Perm Field.all ∧
    v = .object (Song.members order Field.wireName w)

end WireRecord

def header (columns : List Field) : Csv.Record :=
  columns.map (·.wireName.toList)

/-- A response with a table of the records: a header line and then a line for each. -/
structure Tabulates [Text.Charsets] (records : List WireRecord) (r : Http.Response) : Prop where
  status : r.status = 200
  mediaType : r.mediaType? = some "text/csv"
  charset : r.charset = .ok .utf8
  body : ∃ columns : List Field, columns.Perm Field.all ∧ ∃ lines,
    List.Forall₂ Csv.LineText (header columns :: records.map (·.cells columns)) lines ∧
    r.body = Text.Utf8.encode lines.flatten

/-- A response with an array of the records as objects. -/
structure Arrays (records : List WireRecord) (r : Http.Response) : Prop where
  status : r.status = 200
  mediaType : r.mediaType? = some "application/json"
  body : ∃ objects, List.Forall₂ WireRecord.IsObject records objects ∧ ∃ w t w',
    Blank w ∧ ArrayText (ObjectText ScalarText) (.array objects) t ∧ Blank w' ∧
    r.body = Text.Utf8.encode (w ++ (t ++ w'))

/-! ## Records -/

/-- Between an empty text and none a settled field makes no difference. -/
theorem settle_getD (f : Field) (t : Option String) : f.settle (some (t.getD "")) = f.settle t := by
  cases t with
  | some t => rfl
  | none => cases isText : f.isText <;> simp [Field.settle, isText]

theorem isNameOf_wireName (f : Field) : f.IsNameOf f.wireName :=
  .inr rfl

theorem mem_of_perm {columns : List Field} (perm : columns.Perm Field.all) (f : Field) :
    f ∈ columns :=
  perm.mem_iff.mpr (Field.mem_all f)

theorem ofValue_of_isObject {w : WireRecord} {v : Value} (object : w.IsObject v) :
    Song.ofValue v = .ok w.song := by
  obtain ⟨order, perm, rfl⟩ := object
  exact Song.ofValue_members (mem_of_perm perm) isNameOf_wireName

theorem nodup_keys {columns : List Field} (perm : columns.Perm Field.all) (t : WireRecord) :
    ((Song.members columns Field.wireName t).map Prod.fst).Nodup := by
  have distinct : columns.Nodup := perm.nodup_iff.mpr (by decide)
  have keys : (Song.members columns Field.wireName t).map Prod.fst =
      columns.map fun f => Wide.ofString f.wireName := by
    simp [Song.members, Function.comp_def]
  rw [keys]
  refine distinct.map fun f g same => ?_
  have names := Wide.ofString_inj.mp same
  exact (isNameOf_wireName f).unique (names ▸ isNameOf_wireName g)

theorem row_cells {columns : List Field} (perm : columns.Perm Field.all) (w : WireRecord) :
    Csv.row (header columns) (w.cells columns) =
      .object (Song.members columns Field.wireName fun f => some ((w f).getD "")) := by
  have filled : header columns ≠ [] := by
    intro empty
    have none : columns = [] := List.map_eq_nil_iff.mp empty
    simpa [none] using mem_of_perm perm .title
  have named : ((header columns).map Wide.ofList).zip ((w.cells columns).map Csv.cellValue) ++
      (((header columns).map Wide.ofList).drop (w.cells columns).length).map (·, Value.null) =
      Song.members columns Field.wireName fun f => some ((w f).getD "") := by
    have all : ((header columns).map Wide.ofList).drop (w.cells columns).length = [] := by
      simp [header, WireRecord.cells]
    rw [all, header, WireRecord.cells, List.map_map, List.map_map, List.zip_map', List.map_nil,
      List.append_nil]
    rfl
  rw [Csv.row, if_neg filled]
  dsimp only
  rw [named, Json.Members.ofList_of_nodup (nodup_keys perm _)]

theorem ofValue_row {columns : List Field} (perm : columns.Perm Field.all) (w : WireRecord) :
    Song.ofValue (Csv.row (header columns) (w.cells columns)) = .ok w.song := by
  rw [row_cells perm, Song.ofValue_members (mem_of_perm perm) isNameOf_wireName]
  simp only [settle_getD]
  rfl

/-! ## Responses -/

theorem ofValues_eq_ok {records : List WireRecord} {vs : List Value}
    (each : List.Forall₂ (fun w v => Song.ofValue v = .ok w.song) records vs) :
    Song.ofValues vs = .ok (records.map (·.song)) := by
  rw [Song.ofValues, mapM_eq_ok_iff, List.forall₂_map_right_iff]
  exact each.flip

theorem text_eq_ok_of_utf8 [Text.Charsets] {r : Http.Response} {cs : List Char}
    (charset : r.charset = .ok .utf8) (body : r.body = Text.Utf8.encode cs) : r.text = .ok cs := by
  have decoded := Text.Utf8.decodeLossy_encode cs
  rw [← body] at decoded
  unfold Http.Response.text
  split
  · next empty =>
    rw [empty] at decoded
    rw [← decoded]
    rfl
  · rw [charset, ← decoded]
    rfl

theorem fetchSongs_eq_ok [Text.Charsets] {records : List WireRecord} {r : Http.Response}
    {vs : List Value} (status : r.status = 200) (read : rows r = .ok vs)
    (each : List.Forall₂ (fun w v => Song.ofValue v = .ok w.song) records vs) :
    fetchSongs (.response r) = .ok (records.map (·.song)) := by
  have succeeded : Http.isSuccess r.status = true := by
    rw [status]
    rfl
  have decoded : songs vs = .ok (records.map (·.song)) := by
    rw [songs, ofValues_eq_ok each]
  rw [fetchSongs, fetched, success_bind_rows succeeded, read]
  dsimp only
  rw [decoded]
  rfl

theorem short_cells {columns : List Field} {w : WireRecord}
    (short : ∀ f t, w f = some t → t.length ≤ Csv.maxCell) : Csv.Short (w.cells columns) := by
  intro cell mem
  obtain ⟨f, -, rfl⟩ := List.mem_map.mp mem
  cases text : w f with
  | none => exact Nat.zero_le _
  | some t => simpa [String.length_toList] using short f t text

theorem short_header (columns : List Field) : Csv.Short (header columns) := by
  intro cell mem
  obtain ⟨f, -, rfl⟩ := List.mem_map.mp mem
  cases f <;> decide +kernel

theorem rows_of_tabulates [Text.Charsets] {records : List WireRecord} {r : Http.Response}
    (table : Tabulates records r)
    (short : ∀ w ∈ records, ∀ f t, w f = some t → t.length ≤ Csv.maxCell) :
    ∃ vs, rows r = .ok vs ∧
      List.Forall₂ (fun w v => Song.ofValue v = .ok w.song) records vs := by
  obtain ⟨columns, perm, lines, text, body⟩ := table.body
  have several : 2 ≤ columns.length := by
    rw [perm.length_eq]
    decide
  have read : Csv.rows? lines.flatten =
      some ((records.map (·.cells columns)).map (Csv.row (header columns))) := by
    refine Csv.rows?_lines text ?_ ?_
    · rw [List.forall_mem_cons, List.forall_mem_map]
      exact ⟨short_header columns, fun w mem => short_cells (short w mem)⟩
    · rw [List.forall_mem_cons, List.forall_mem_map]
      exact ⟨by simpa [header] using several, fun w _ => by simpa [WireRecord.cells] using several⟩
  refine ⟨(records.map (·.cells columns)).map (Csv.row (header columns)), ?_, ?_⟩
  · rw [rows, if_pos table.mediaType, csvRows, text_eq_ok_of_utf8 table.charset body]
    dsimp only
    rw [read]
  · rw [List.map_map, List.forall₂_map_right_iff, List.forall₂_same]
    exact fun w _ => ofValue_row perm w

theorem rows_of_arrays [Text.Charsets] {records : List WireRecord} {r : Http.Response}
    (array : Arrays records r) :
    ∃ vs, rows r = .ok vs ∧
      List.Forall₂ (fun w v => Song.ofValue v = .ok w.song) records vs := by
  obtain ⟨objects, each, w, t, w', blank, text, blank', body⟩ := array.body
  have read : Json.ofBytes r.body = .ok (.array objects) := by
    rw [body]
    refine Json.ofBytes_encode text ?_ blank blank'
    intro v t object
    exact object.reads Json.reads_scalarText
  refine ⟨objects, ?_, each.imp fun w v object => ofValue_of_isObject object⟩
  have other : r.mediaType? ≠ some "text/csv" := by
    rw [array.mediaType]
    decide
  rw [rows, if_neg other, if_pos array.mediaType, jsonRows, read]

/-! ## Written responses -/

theorem rawContentType?_single {r : Http.Response} {value : String}
    (single : r.headers = [("content-type", value)]) : r.rawContentType? = some value := by
  have named : r.headerValues "content-type" = [value] := by
    rw [Http.Response.headerValues, single]
    simp [Http.Response.sameName]
  rw [Http.Response.rawContentType?, Http.Response.header?, named]
  simp

def table (records : List WireRecord) : Http.Response where
  headers := [("content-type", "text/csv; charset=utf-8")]
  body := Text.Utf8.encode
    ((header Field.all :: records.map (·.cells Field.all)).map Csv.quotedLine).flatten

theorem tabulates_table [Text.Charsets] (records : List WireRecord) :
    Tabulates records (table records) where
  status := rfl
  mediaType := by
    rw [Http.Response.mediaType?, rawContentType?_single rfl]
    decide +kernel
  charset := by
    have named : Http.MediaType.parameter? "charset".toList "text/csv; charset=utf-8".toList =
        .ok (some (.plain "utf-8".toList)) := by decide +kernel
    have own : Text.Charset.own? ("utf-8".toList.map Char.toLower) = some .utf8 := by
      decide +kernel
    rw [Http.Response.charset, rawContentType?_single rfl]
    dsimp only
    rw [Http.MediaType.charset_of_plain named (by decide), Text.Charset.ofName, own]
    rfl
  body := by
    refine ⟨Field.all, .refl _, _, ?_, rfl⟩
    rw [List.forall₂_map_right_iff, List.forall₂_same, List.forall_mem_cons, List.forall_mem_map]
    have filled : ∀ w : WireRecord, w.cells Field.all ≠ [] := fun w => List.cons_ne_nil _ _
    exact ⟨Csv.lineText_quotedLine (List.cons_ne_nil _ _),
      fun w _ => Csv.lineText_quotedLine (filled w)⟩

def scalar : Option String → List Char
  | some t => Json.written t.toList
  | none => ['n', 'u', 'l', 'l']

def member (w : WireRecord) (f : Field) : List Char :=
  Json.written f.wireName.toList ++ ':' :: scalar (w f)

def object (w : WireRecord) : List Char :=
  '\x7b' :: (Json.joined (Field.all.map (member w)) ++ ['\x7d'])

def array (records : List WireRecord) : Http.Response where
  headers := [("content-type", "application/json")]
  body := Text.Utf8.encode ('[' :: (Json.joined (records.map object) ++ [']']))

theorem scalarText_scalar (t : Option String) : ScalarText (Song.ofText? t) (scalar t) := by
  cases t with
  | none => exact .null
  | some t => exact .string (Json.stringText_written t.toList)

theorem objectText_object (w : WireRecord) :
    ObjectText ScalarText (.object (Song.members Field.all Field.wireName w)) (object w) := by
  have none : Blank [] := List.forall_mem_nil _
  rw [← Json.Members.ofList_of_nodup (nodup_keys (.refl _) w)]
  apply ObjectText.filled
  apply Json.listed_joined
  · rw [Song.members, List.forall₂_map_left_iff, List.forall₂_map_right_iff, List.forall₂_same]
    intro f _
    exact .mk (Json.stringText_written _) none none (scalarText_scalar (w f))
  · exact List.cons_ne_nil _ _

theorem arrays_array (records : List WireRecord) : Arrays records (array records) where
  status := rfl
  mediaType := by
    rw [Http.Response.mediaType?, rawContentType?_single rfl]
    decide +kernel
  body := by
    have none : Blank [] := List.forall_mem_nil _
    refine ⟨records.map fun w => .object (Song.members Field.all Field.wireName w), ?_, [],
      '[' :: (Json.joined (records.map object) ++ [']']), [], none, ?_, none, ?_⟩
    · rw [List.forall₂_map_right_iff, List.forall₂_same]
      exact fun w _ => ⟨Field.all, .refl _, rfl⟩
    · cases records with
      | nil => exact .empty none
      | cons w records =>
        apply ArrayText.filled
        apply Json.listed_joined
        · rw [List.forall₂_map_left_iff, List.forall₂_map_right_iff, List.forall₂_same]
          exact fun w _ => objectText_object w
        · exact List.cons_ne_nil _ _
    · rw [List.nil_append, List.append_nil]
      rfl

/-! ## The same songs -/

/-- A table and an array of the same records give the same songs. -/
theorem fetchSongs_eq_of_formats [Text.Charsets] {records : List WireRecord}
    {table array : Http.Response}
    (short : ∀ w ∈ records, ∀ f t, w f = some t → t.length ≤ 131072)
    (tabulates : Tabulates records table) (arrays : Arrays records array) :
    fetchSongs (.response table) = .ok (records.map (·.song)) ∧
      fetchSongs (.response array) = .ok (records.map (·.song)) := by
  constructor
  · obtain ⟨vs, read, each⟩ := rows_of_tabulates tabulates short
    exact fetchSongs_eq_ok tabulates.status read each
  · obtain ⟨vs, read, each⟩ := rows_of_arrays arrays
    exact fetchSongs_eq_ok arrays.status read each

/-- Quotes and a comma in the title, an artist on two lines, an empty cover and much that is null. -/
def greeting : WireRecord
  | .title => some "Say \"Hi\", Bob"
  | .artist => some "One\r\nTwo"
  | .hash => some "h1"
  | .cover => some ""
  | .year => some "1974"
  | _ => none

theorem fetchSongs_eq_of_formats_greeting :
    let _ : Text.Charsets := .builtin
    let song : Song :=
      { title := "Say \"Hi\", Bob", artist := "One\r\nTwo", hash := "h1", year := some "1974" }
    fetchSongs (.response (table [greeting])) = .ok [song] ∧
      fetchSongs (.response (array [greeting])) = .ok [song] := by
  intro _ song
  have same : greeting.song = song := by decide +kernel
  rw [← same]
  refine fetchSongs_eq_of_formats ?_ (tabulates_table [greeting]) (arrays_array [greeting])
  rw [List.forall_mem_singleton]
  intro f t text
  cases f <;> cases text <;> decide +kernel

end Karaoke.Catalog
