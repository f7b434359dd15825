import Karaoke.Csv.Records
import Karaoke.Json.Value

/-!
# Tables

The first record of a table names its columns. Each later record that is not blank is a row,
which gives every column a cell or nothing. Cells beyond the columns have no name; they are kept,
all together under the empty name, only where there is no column at all.
-/

set_option autoImplicit false

namespace Karaoke.Csv

open Json (Value Members)

def cellValue (c : Cell) : Value :=
  .string (.ofList c)

/-- The cells of a row with their columns. A column that is named twice keeps its first place and
takes what its last place gives. -/
def row (header : Record) (cells : Record) : Value :=
  if header = [] then .object [(.ofList [], .array (cells.map cellValue))]
  else
    let names := header.map Text.Wide.ofList
    .object (Members.ofList
      (names.zip (cells.map cellValue) ++ (names.drop cells.length).map (·, .null)))

/-- The rows of a text. -/
def rows? (cs : List Char) : Option (List Value) :=
  (records? cs).map (fun
    | [] => []
    | header :: rest => (rest.filter (!·.isEmpty)).map (row header))

end Karaoke.Csv
