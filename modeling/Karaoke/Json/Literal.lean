import Karaoke.Json.Value
import Karaoke.Number.Text
import Karaoke.Text.Quoted

/-!
# Values as text

A value stands in a list of names by its text. A string is its own text; inside an array or an
object it is quoted.
-/

set_option autoImplicit false

namespace Karaoke.Json

def boolText (b : Bool) : List Char :=
  if b then "True".toList else "False".toList

/-- A string between quotes on one line. A lone surrogate is written by its code point. -/
def quoted (s : Text.Wide) : List Char :=
  let quote := Text.Quoted.quoteFor s.toList
  quote :: (s.symbols.flatMap (fun
    | .char c => Text.Quoted.escape quote c
    | .half n => '\\' :: 'u' :: Text.hexPadded 4 (0xd800 + n)) ++ [quote])

theorem quoted_ofList (cs : List Char) : quoted (.ofList cs) = Text.Quoted.quoted cs := by
  simp [quoted, Text.Quoted.quoted, Text.Wide.ofList, Text.Wide.toList, List.flatMap_map,
    Function.comp_def]

def separated : List (List Char) → List Char :=
  [',', ' '].intercalate

mutual

/-- A value as it is written inside another. -/
def Value.literal : Value → List Char
  | .null => "None".toList
  | .bool b => boolText b
  | .int n => Number.ofInt n
  | .real x => Number.ofBinary64 x
  | .string s => quoted s
  | .array vs => '[' :: (separated (Value.literals vs) ++ [']'])
  | .object ms => '\x7b' :: (separated (Value.memberLiterals ms) ++ ['\x7d'])

def Value.literals : List Value → List (List Char)
  | [] => []
  | v :: vs => v.literal :: Value.literals vs

def Value.memberLiterals : List (Text.Wide × Value) → List (List Char)
  | [] => []
  | (k, v) :: ms =>
    (quoted k ++ ':' :: ' ' :: v.literal) :: Value.memberLiterals ms

end

/-- A value as a text of its own. -/
def Value.text : Value → List Char
  | .string s => s.toList
  | v => v.literal

end Karaoke.Json
