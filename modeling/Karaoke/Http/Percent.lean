import Karaoke.Text.Utf8

/-!
# Percent encoding

Characters of a class stand for themselves and every byte of any other character is written as a
percent sign and two hexadecimal digits. A name becomes one segment of a path with only the
unreserved characters left as they are.
-/

set_option autoImplicit false

namespace Karaoke.Http.Percent

open Text

/-- ASCII letters and digits, and `_`, `.`, `-`, `~`. -/
def isUnreserved (c : Char) : Bool :=
  c.isAlphanum || c == '_' || c == '.' || c == '-' || c == '~'

def hexDigit (n : Nat) : Char :=
  if n < 10 then Char.ofNat ('0'.toNat + n) else Char.ofNat ('A'.toNat + (n - 10))

def encodeByte (b : UInt8) : List Char :=
  ['%', hexDigit (b.toNat / 16), hexDigit (b.toNat % 16)]

/-- A text of which the characters of a class stay. -/
def keeping (isKept : Char → Bool) (cs : List Char) : List Char :=
  cs.flatMap (fun c => if isKept c then [c] else (Utf8.encodeChar c).flatMap encodeByte)

@[simp] theorem keeping_nil (isKept : Char → Bool) : keeping isKept [] = [] := rfl

@[simp] theorem keeping_append (isKept : Char → Bool) (cs ds : List Char) :
    keeping isKept (cs ++ ds) = keeping isKept cs ++ keeping isKept ds := by
  simp [keeping]

/-- A text of which every character is kept stays as it is. -/
theorem keeping_of_all {isKept : Char → Bool} {cs : List Char} (h : ∀ c ∈ cs, isKept c = true) :
    keeping isKept cs = cs := by
  induction cs with
  | nil => rfl
  | cons c cs ih =>
    simp only [List.mem_cons, forall_eq_or_imp] at h
    have := ih h.2
    simp only [keeping, List.flatMap_cons, h.1, if_true] at this ⊢
    rw [this, List.singleton_append]

def encode (cs : List Char) : List Char :=
  keeping isUnreserved cs

@[simp] theorem encode_nil : encode [] = [] := rfl

@[simp] theorem encode_append (cs ds : List Char) : encode (cs ++ ds) = encode cs ++ encode ds := by
  simp [encode]

end Karaoke.Http.Percent
