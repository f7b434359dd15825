import Karaoke.Number.Binary64
import Karaoke.Text.Wide

/-!
# JSON values

A number is an integer unless it was written with a point or an exponent. A string may hold a
surrogate without its partner. An object keeps the order of its members and has each key once.
-/

set_option autoImplicit false

namespace Karaoke.Json

open Text (Wide)

inductive Value where
  | null
  | bool (b : Bool)
  | int (n : Int)
  | real (x : Binary64)
  | string (s : Wide)
  | array (items : List Value)
  | object (members : List (Wide × Value))
  deriving Repr, Inhabited

/-- A string without lone surrogates. -/
def Value.ofString (s : String) : Value :=
  .string (.ofString s)

abbrev Members := List (Wide × Value)

/-- The value under a name. -/
def Members.get? (ms : Members) (name : String) : Option Value :=
  ms.lookup (.ofString name)

/-- Sets a key: a key that is there keeps its place and takes the new value. -/
def Members.insert (k : Wide) (v : Value) : Members → Members
  | [] => [(k, v)]
  | (l, w) :: ms => if l = k then (l, v) :: ms else (l, w) :: Members.insert k v ms

/-- The members that a sequence of settings leaves. -/
def Members.ofList (l : List (Wide × Value)) : Members :=
  l.foldl (fun ms m => Members.insert m.1 m.2 ms) []

/-- The kinds of value, numbers with and without a fraction apart. -/
inductive Kind where
  | null | bool | int | real | string | array | object
  deriving DecidableEq, Repr

def Value.kind : Value → Kind
  | .null => .null
  | .bool _ => .bool
  | .int _ => .int
  | .real _ => .real
  | .string _ => .string
  | .array _ => .array
  | .object _ => .object

/-- The word for a kind in messages. -/
def Kind.text : Kind → String
  | .null => "NoneType"
  | .bool => "bool"
  | .int => "int"
  | .real => "float"
  | .string => "str"
  | .array => "list"
  | .object => "dict"

end Karaoke.Json
