import Karaoke.Json.Reader
import Mathlib.Data.List.Forall2

/-!
# Written strings

The ways to write a string and that a reader gets it back from each of them. A character stands for
itself, or is escaped by a letter, by its code point or, beyond the sixteen bits of one escape, by
a pair of surrogates. No reading of a character depends on what was read before it, since a high
surrogate always has its partner right behind it.
-/

set_option autoImplicit false

namespace Karaoke.Json

open Text (Symbol)

/-- The ways to write a character of a string. -/
inductive CharText (c : Char) : List Char → Prop where
  | plain : 0x20 ≤ c.toNat → c ≠ '"' → c ≠ '\\' → CharText c [c]
  | letter {e} : escape? e = some c → CharText c ['\\', e]
  | unit {x y z w} : hex4? x y z w = some c.toNat → CharText c ['\\', 'u', x, y, z, w]
  | pair {x y z w high x' y' z' w' low} :
      hex4? x y z w = some high → hex4? x' y' z' w' = some low →
      Text.isHighSurrogate high = true → Text.isLowSurrogate low = true →
      Text.joinSurrogates high low = c.toNat →
      CharText c ['\\', 'u', x, y, z, w, '\\', 'u', x', y', z', w']

inductive StringText (cs : List Char) : List Char → Prop where
  | quoted {ts} : List.Forall₂ CharText cs ts → StringText cs ('"' :: (ts.flatten ++ ['"']))

/-! ## Characters -/

theorem ofCode?_toNat (c : Char) : Symbol.ofCode? c.toNat = some (.char c) := by
  have valid : c.toNat < 0xd800 ∨ 0xdfff < c.toNat ∧ c.toNat < 0x110000 := c.valid
  have whole : ¬ (0xd800 ≤ c.toNat ∧ c.toNat < 0xe000) := by omega
  have inside : c.toNat < 0x110000 := by omega
  rw [Symbol.ofCode?, dif_neg whole, if_pos inside, Char.ofNat_toNat]

theorem isHighSurrogate_toNat (c : Char) : Text.isHighSurrogate c.toNat = false := by
  have valid : c.toNat < 0xd800 ∨ 0xdfff < c.toNat ∧ c.toNat < 0x110000 := c.valid
  rw [Text.isHighSurrogate, Bool.and_eq_false_iff, decide_eq_false_iff_not, decide_eq_false_iff_not]
  omega

theorem unit_toNat (c : Char) : unit none c.toNat = ([.char c], none) := by
  simp [unit, isHighSurrogate_toNat, symbolOf, ofCode?_toNat]

theorem string?_charText {c : Char} {t : List Char} (text : CharText c t) (rest : List Symbol) :
    string? none (t.map .char ++ rest) =
      (string? none rest).map fun p => (.char c :: p.1, p.2) := by
  cases text with
  | plain visible quote backslash =>
    have code : ¬ (Symbol.char c).code < 0x20 := Nat.not_lt.mpr visible
    simp [string?, quote, backslash, code, unpaired]
  | letter escaped =>
    rename_i e
    have word : e ≠ 'u' := by
      rintro rfl
      cases escaped
    simp [string?, word, escaped, unpaired]
  | unit code => simp [string?, code, unit_toNat]
  | pair high low isHigh isLow code =>
    simp [string?, high, low, unit, isHigh, isLow, code, ofCode?_toNat, Function.comp_def]

theorem string?_charTexts {cs : List Char} {ts : List (List Char)}
    (texts : List.Forall₂ CharText cs ts) (rest : List Symbol) :
    string? none (ts.flatten.map .char ++ .char '"' :: rest) = some (cs.map .char, rest) := by
  induction texts with
  | nil => rfl
  | cons text _ ih =>
    rw [List.flatten_cons, List.map_append, List.append_assoc, string?_charText text, ih]
    rfl

/-- A string is read up to its closing quote, whatever follows. -/
theorem string?_stringText {cs t : List Char} (text : StringText cs t) :
    ∃ u, t = '"' :: u ∧ ∀ rest, string? none (u.map .char ++ rest) = some (cs.map .char, rest) := by
  obtain ⟨texts⟩ := text
  refine ⟨_, rfl, fun rest => ?_⟩
  rw [List.map_append, List.append_assoc]
  exact string?_charTexts texts rest

/-! ## The shortest way -/

/-- A character as it is, or escaped where that is not allowed. -/
def escaped (c : Char) : List Char :=
  if c = '"' ∨ c = '\\' then ['\\', c]
  else if c.toNat < 0x20 then
    ['\\', 'u', '0', '0', Nat.digitChar (c.toNat / 0x10), Nat.digitChar (c.toNat % 0x10)]
  else [c]

def written (cs : List Char) : List Char :=
  '"' :: ((cs.map escaped).flatten ++ ['"'])

theorem hex4?_digitChar : ∀ n < 0x20,
    hex4? '0' '0' (Nat.digitChar (n / 0x10)) (Nat.digitChar (n % 0x10)) = some n := by
  decide

theorem charText_escaped (c : Char) : CharText c (escaped c) := by
  unfold escaped
  split
  next special =>
    rcases special with rfl | rfl
    · exact .letter rfl
    · exact .letter rfl
  split
  next control => exact .unit (hex4?_digitChar _ control)
  next ordinary visible =>
    rw [not_or] at ordinary
    exact .plain (Nat.le_of_not_lt visible) ordinary.1 ordinary.2

theorem stringText_written (cs : List Char) : StringText cs (written cs) := by
  have texts : List.Forall₂ CharText cs (cs.map escaped) := by
    rw [List.forall₂_map_right_iff, List.forall₂_same]
    exact fun c _ => charText_escaped c
  exact .quoted texts

end Karaoke.Json
