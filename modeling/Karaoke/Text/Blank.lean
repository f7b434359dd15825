/-!
# Blanks and spaces

Three classes of blank characters. A query is cut into words at the six ASCII blanks. Around a
number stands white space, which follows the Unicode property. Filters and header values ignore
the widest class of spaces, to which the four ASCII separators belong too.
-/

set_option autoImplicit false

namespace Karaoke.Text

/-- Space, tab, line feed, carriage return, form feed and vertical tab. -/
def isBlank (c : Char) : Bool :=
  c == ' ' || c == '\t' || c == '\n' || c == '\r' || c == '\x0c' || c == '\x0b'

/-- The code points of the separators and controls that count as spaces. -/
def spaceSpans : List (Nat × Nat) :=
  [(0x09, 0x0d), (0x1c, 0x20), (0x85, 0x85), (0xa0, 0xa0), (0x1680, 0x1680), (0x2000, 0x200a),
   (0x2028, 0x2029), (0x202f, 0x202f), (0x205f, 0x205f), (0x3000, 0x3000)]

def isSpace (c : Char) : Bool :=
  spaceSpans.any (fun s => s.1 ≤ c.toNat && c.toNat ≤ s.2)

/-- Every ASCII blank is a space. -/
theorem isSpace_of_isBlank {c : Char} (h : isBlank c = true) : isSpace c = true := by
  simp only [isBlank, Bool.or_eq_true, beq_iff_eq] at h
  obtain ((((rfl | rfl) | rfl) | rfl) | rfl) | rfl := h <;> decide

/-- White space: every space but the four ASCII separators. -/
def isWhite (c : Char) : Bool :=
  isSpace c && !(0x1c ≤ c.toNat && c.toNat ≤ 0x1f)

/-- The words of a text: what stands between blanks, without the empty pieces. -/
def words (cs : List Char) : List (List Char) :=
  (cs.splitOnP isBlank).filter (!·.isEmpty)

@[simp] theorem words_nil : words [] = [] := rfl

/-- The text without any space. -/
def squeeze (cs : List Char) : List Char :=
  cs.filter (!isSpace ·)

@[simp] theorem mem_squeeze {c : Char} {cs : List Char} :
    c ∈ squeeze cs ↔ c ∈ cs ∧ isSpace c = false := by
  simp [squeeze]

@[simp] theorem squeeze_squeeze (cs : List Char) : squeeze (squeeze cs) = squeeze cs := by
  simp [squeeze]

/-- The text without the characters of a class at its two ends. -/
def strip (p : Char → Bool) (cs : List Char) : List Char :=
  ((cs.dropWhile p).reverse.dropWhile p).reverse

/-- The text without the spaces at its two ends. -/
def trim (cs : List Char) : List Char :=
  strip isSpace cs

/-- Whether a text has anything but blanks. -/
def hasWord (cs : List Char) : Bool :=
  cs.any (!isBlank ·)

end Karaoke.Text
