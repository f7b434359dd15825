/-!
# Wide text

Text in which half of a surrogate pair may stand without its partner. Escapes and some encodings
can write such a half, though it is no character; everything else is ordinary text.
-/

set_option autoImplicit false

namespace Karaoke.Text

/-- A character, or a surrogate without its partner, counted from the first surrogate. -/
inductive Symbol where
  | char (c : Char)
  | half (n : Fin 0x800)
  deriving DecidableEq, Repr

namespace Symbol

/-- The code point of a symbol. -/
def code : Symbol → Nat
  | char c => c.toNat
  | half n => 0xd800 + n

/-- The symbol of a code point, if it lies in the code space. -/
def ofCode? (n : Nat) : Option Symbol :=
  if h : 0xd800 ≤ n ∧ n < 0xe000 then some (half ⟨n - 0xd800, by omega⟩)
  else if n < 0x110000 then some (char (Char.ofNat n))
  else none

/-- The nearest character: a half becomes the replacement character. -/
def toChar : Symbol → Char
  | char c => c
  | half _ => '\uFFFD'

@[simp] theorem toChar_char (c : Char) : (char c).toChar = c := rfl

end Symbol

structure Wide where
  symbols : List Symbol
  deriving DecidableEq, Repr, Inhabited

namespace Wide

def ofList (cs : List Char) : Wide := ⟨cs.map .char⟩

def toList (w : Wide) : List Char := w.symbols.map (·.toChar)

@[simp] theorem toList_ofList (cs : List Char) : (ofList cs).toList = cs := by
  simp [ofList, toList, Function.comp_def]

theorem ofList_inj {cs ds : List Char} : ofList cs = ofList ds ↔ cs = ds :=
  ⟨fun h => by simpa using congrArg toList h, fun h => h ▸ rfl⟩

def ofString (s : String) : Wide := ofList s.toList

def toString (w : Wide) : String := String.ofList w.toList

@[simp] theorem toString_ofString (s : String) : (ofString s).toString = s := by
  simp [ofString, toString]

theorem ofString_inj {s t : String} : ofString s = ofString t ↔ s = t :=
  ⟨fun h => by simpa using congrArg toString h, fun h => h ▸ rfl⟩

end Wide

end Karaoke.Text
