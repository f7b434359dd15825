import Karaoke.Text.Marks
import Karaoke.Http.Domain.Direction

/-!
# Neighbours

A few characters may stand in a domain name only beside others: the joiners after a sign that takes
a vowel or between letters that join, the middle dot between two `l`, and signs that belong to one
script.
-/

set_option autoImplicit false

namespace Karaoke.Http.Domain

open Text

/-- On which sides a letter joins its neighbours, in the order in which they are written. -/
inductive Joining where
  | left | right | both
  deriving DecidableEq, Repr

def joiningSpansFrom620 : List (Span × Joining) :=
  [(⟨0x620, 0x620, 1⟩, .both), (⟨0x622, 0x625, 1⟩, .right), (⟨0x626, 0x626, 1⟩, .both),
   (⟨0x627, 0x627, 1⟩, .right), (⟨0x628, 0x628, 1⟩, .both), (⟨0x629, 0x629, 1⟩, .right),
   (⟨0x62a, 0x62e, 1⟩, .both), (⟨0x62f, 0x632, 1⟩, .right), (⟨0x633, 0x63f, 1⟩, .both),
   (⟨0x641, 0x647, 1⟩, .both), (⟨0x648, 0x648, 1⟩, .right), (⟨0x649, 0x64a, 1⟩, .both),
   (⟨0x66e, 0x66f, 1⟩, .both), (⟨0x671, 0x673, 1⟩, .right), (⟨0x679, 0x687, 1⟩, .both),
   (⟨0x688, 0x699, 1⟩, .right), (⟨0x69a, 0x6bf, 1⟩, .both), (⟨0x6c0, 0x6c0, 1⟩, .right),
   (⟨0x6c1, 0x6c2, 1⟩, .both), (⟨0x6c3, 0x6cb, 1⟩, .right), (⟨0x6cc, 0x6cc, 1⟩, .both),
   (⟨0x6cd, 0x6cd, 1⟩, .right), (⟨0x6ce, 0x6ce, 1⟩, .both), (⟨0x6cf, 0x6cf, 1⟩, .right),
   (⟨0x6d0, 0x6d1, 1⟩, .both), (⟨0x6d2, 0x6d3, 1⟩, .right), (⟨0x6d5, 0x6d5, 1⟩, .right),
   (⟨0x6ee, 0x6ef, 1⟩, .right), (⟨0x6fa, 0x6fc, 1⟩, .both), (⟨0x6ff, 0x6ff, 1⟩, .both),
   (⟨0x710, 0x710, 1⟩, .right), (⟨0x712, 0x714, 1⟩, .both), (⟨0x715, 0x719, 1⟩, .right),
   (⟨0x71a, 0x71d, 1⟩, .both), (⟨0x71e, 0x71e, 1⟩, .right), (⟨0x71f, 0x727, 1⟩, .both),
   (⟨0x728, 0x728, 1⟩, .right), (⟨0x729, 0x729, 1⟩, .both), (⟨0x72a, 0x72a, 1⟩, .right),
   (⟨0x72b, 0x72b, 1⟩, .both), (⟨0x72c, 0x72c, 1⟩, .right), (⟨0x72d, 0x72e, 1⟩, .both),
   (⟨0x72f, 0x72f, 1⟩, .right), (⟨0x74d, 0x74d, 1⟩, .right), (⟨0x74e, 0x758, 1⟩, .both),
   (⟨0x759, 0x75b, 1⟩, .right), (⟨0x75c, 0x76a, 1⟩, .both), (⟨0x76b, 0x76c, 1⟩, .right),
   (⟨0x76d, 0x770, 1⟩, .both), (⟨0x771, 0x771, 1⟩, .right), (⟨0x772, 0x772, 1⟩, .both),
   (⟨0x773, 0x774, 1⟩, .right), (⟨0x775, 0x777, 1⟩, .both), (⟨0x778, 0x779, 1⟩, .right),
   (⟨0x77a, 0x77f, 1⟩, .both), (⟨0x7ca, 0x7ea, 1⟩, .both), (⟨0x840, 0x840, 1⟩, .right),
   (⟨0x841, 0x845, 1⟩, .both), (⟨0x846, 0x847, 1⟩, .right), (⟨0x848, 0x848, 1⟩, .both),
   (⟨0x849, 0x849, 1⟩, .right), (⟨0x84a, 0x853, 1⟩, .both), (⟨0x854, 0x854, 1⟩, .right),
   (⟨0x855, 0x855, 1⟩, .both), (⟨0x856, 0x858, 1⟩, .right), (⟨0x860, 0x862, 2⟩, .both),
   (⟨0x863, 0x865, 1⟩, .both), (⟨0x867, 0x867, 1⟩, .right), (⟨0x868, 0x868, 1⟩, .both),
   (⟨0x869, 0x86a, 1⟩, .right), (⟨0x870, 0x882, 1⟩, .right), (⟨0x886, 0x886, 1⟩, .both),
   (⟨0x889, 0x88d, 1⟩, .both), (⟨0x88e, 0x88e, 1⟩, .right), (⟨0x8a0, 0x8a9, 1⟩, .both),
   (⟨0x8aa, 0x8ac, 1⟩, .right), (⟨0x8ae, 0x8ae, 1⟩, .right), (⟨0x8af, 0x8b0, 1⟩, .both),
   (⟨0x8b1, 0x8b2, 1⟩, .right), (⟨0x8b3, 0x8b8, 1⟩, .both), (⟨0x8b9, 0x8b9, 1⟩, .right),
   (⟨0x8ba, 0x8c8, 1⟩, .both), (⟨0x1820, 0x1878, 1⟩, .both), (⟨0x1887, 0x18a8, 1⟩, .both),
   (⟨0x18aa, 0x18aa, 1⟩, .both), (⟨0xa840, 0xa871, 1⟩, .both), (⟨0xa872, 0xa872, 1⟩, .left),
   (⟨0x10ac0, 0x10ac4, 1⟩, .both), (⟨0x10ac5, 0x10ac9, 2⟩, .right), (⟨0x10aca, 0x10aca, 1⟩, .right)]

def joiningSpansFrom10ACD : List (Span × Joining) :=
  [(⟨0x10acd, 0x10acd, 1⟩, .left), (⟨0x10ace, 0x10ad2, 1⟩, .right), (⟨0x10ad3, 0x10ad6, 1⟩, .both),
   (⟨0x10ad7, 0x10ad7, 1⟩, .left), (⟨0x10ad8, 0x10adc, 1⟩, .both), (⟨0x10add, 0x10add, 1⟩, .right),
   (⟨0x10ade, 0x10ae0, 1⟩, .both), (⟨0x10ae1, 0x10ae1, 1⟩, .right), (⟨0x10ae4, 0x10ae4, 1⟩, .right),
   (⟨0x10b80, 0x10b80, 1⟩, .both), (⟨0x10b81, 0x10b81, 1⟩, .right), (⟨0x10b82, 0x10b82, 1⟩, .both),
   (⟨0x10b83, 0x10b85, 1⟩, .right), (⟨0x10b86, 0x10b88, 1⟩, .both), (⟨0x10b89, 0x10b89, 1⟩, .right),
   (⟨0x10b8a, 0x10b8b, 1⟩, .both), (⟨0x10b8c, 0x10b8c, 1⟩, .right), (⟨0x10b8d, 0x10b8d, 1⟩, .both),
   (⟨0x10b8e, 0x10b8f, 1⟩, .right), (⟨0x10b90, 0x10b90, 1⟩, .both), (⟨0x10b91, 0x10b91, 1⟩, .right),
   (⟨0x10d00, 0x10d00, 1⟩, .left), (⟨0x10d01, 0x10d21, 1⟩, .both), (⟨0x10d22, 0x10d22, 1⟩, .right),
   (⟨0x10d23, 0x10d23, 1⟩, .both), (⟨0x10f30, 0x10f32, 1⟩, .both), (⟨0x10f33, 0x10f33, 1⟩, .right),
   (⟨0x10f34, 0x10f44, 1⟩, .both), (⟨0x10f70, 0x10f73, 1⟩, .both), (⟨0x10f74, 0x10f75, 1⟩, .right),
   (⟨0x10f76, 0x10f81, 1⟩, .both), (⟨0x10fb0, 0x10fb2, 2⟩, .both), (⟨0x10fb3, 0x10fb3, 1⟩, .both),
   (⟨0x10fb4, 0x10fb6, 1⟩, .right), (⟨0x10fb8, 0x10fb8, 1⟩, .both), (⟨0x10fb9, 0x10fba, 1⟩, .right),
   (⟨0x10fbb, 0x10fbc, 1⟩, .both), (⟨0x10fbd, 0x10fbd, 1⟩, .right), (⟨0x10fbe, 0x10fbf, 1⟩, .both),
   (⟨0x10fc1, 0x10fc1, 1⟩, .both), (⟨0x10fc2, 0x10fc3, 1⟩, .right), (⟨0x10fc4, 0x10fc4, 1⟩, .both),
   (⟨0x1e922, 0x1e943, 1⟩, .both)]

/-- The letters that join their neighbours. -/
def joiningSpans : List (Span × Joining) :=
  joiningSpansFrom620 ++ joiningSpansFrom10ACD

/-- Whether letters join across a character. -/
def isTransparent (c : Char) : Bool :=
  (direction c = .mark && c.toNat != 0x1171e)
    || [0xcbf, 0xcc6, 0x11a07, 0x11a08, 0x11c3f, 0x1e94b].contains c.toNat

def greekSpans : List Span :=
  [⟨0x371, 0x371, 1⟩, ⟨0x373, 0x373, 1⟩, ⟨0x375, 0x375, 1⟩, ⟨0x377, 0x377, 1⟩, ⟨0x37b, 0x37d, 1⟩,
   ⟨0x390, 0x390, 1⟩, ⟨0x3ac, 0x3ce, 1⟩, ⟨0x3d7, 0x3d7, 1⟩, ⟨0x3d9, 0x3d9, 1⟩, ⟨0x3db, 0x3db, 1⟩,
   ⟨0x3dd, 0x3dd, 1⟩, ⟨0x3df, 0x3df, 1⟩, ⟨0x3e1, 0x3e1, 1⟩, ⟨0x3f3, 0x3f3, 1⟩, ⟨0x3f8, 0x3f8, 1⟩,
   ⟨0x3fb, 0x3fc, 1⟩, ⟨0x1d26, 0x1d2a, 1⟩, ⟨0x1f00, 0x1f07, 1⟩, ⟨0x1f10, 0x1f15, 1⟩,
   ⟨0x1f20, 0x1f27, 1⟩, ⟨0x1f30, 0x1f37, 1⟩, ⟨0x1f40, 0x1f45, 1⟩, ⟨0x1f50, 0x1f57, 1⟩,
   ⟨0x1f60, 0x1f67, 1⟩, ⟨0x1f70, 0x1f70, 1⟩, ⟨0x1f72, 0x1f72, 1⟩, ⟨0x1f74, 0x1f74, 1⟩,
   ⟨0x1f76, 0x1f76, 1⟩, ⟨0x1f78, 0x1f78, 1⟩, ⟨0x1f7a, 0x1f7a, 1⟩, ⟨0x1f7c, 0x1f7c, 1⟩,
   ⟨0x1fb0, 0x1fb1, 1⟩, ⟨0x1fb6, 0x1fb6, 1⟩, ⟨0x1fc6, 0x1fc6, 1⟩, ⟨0x1fd0, 0x1fd2, 1⟩,
   ⟨0x1fd6, 0x1fd7, 1⟩, ⟨0x1fe0, 0x1fe2, 1⟩, ⟨0x1fe4, 0x1fe7, 1⟩, ⟨0x1ff6, 0x1ff6, 1⟩,
   ⟨0xab65, 0xab65, 1⟩]

def hebrewSpans : List Span :=
  [⟨0x591, 0x5bd, 1⟩, ⟨0x5bf, 0x5bf, 1⟩, ⟨0x5c1, 0x5c2, 1⟩, ⟨0x5c4, 0x5c5, 1⟩, ⟨0x5c7, 0x5c7, 1⟩,
   ⟨0x5d0, 0x5ea, 1⟩, ⟨0x5ef, 0x5f4, 1⟩, ⟨0xfb1e, 0xfb1e, 1⟩]

/-- The scripts in which Japanese is written. -/
def japaneseSpans : List Span :=
  [⟨0x3005, 0x3005, 1⟩, ⟨0x3007, 0x3007, 1⟩, ⟨0x3041, 0x3096, 1⟩, ⟨0x309d, 0x309e, 1⟩,
   ⟨0x30a1, 0x30fa, 1⟩, ⟨0x30fd, 0x30fe, 1⟩, ⟨0x31f0, 0x31ff, 1⟩, ⟨0x3400, 0x4dbf, 1⟩,
   ⟨0x4e00, 0x9fff, 1⟩, ⟨0xfa0e, 0xfa0f, 1⟩, ⟨0xfa11, 0xfa11, 1⟩, ⟨0xfa13, 0xfa14, 1⟩,
   ⟨0xfa1f, 0xfa1f, 1⟩, ⟨0xfa21, 0xfa21, 1⟩, ⟨0xfa23, 0xfa24, 1⟩, ⟨0xfa27, 0xfa29, 1⟩,
   ⟨0x16fe3, 0x16fe3, 1⟩, ⟨0x16ff0, 0x16ff1, 1⟩, ⟨0x1aff0, 0x1aff3, 1⟩, ⟨0x1aff5, 0x1affb, 1⟩,
   ⟨0x1affd, 0x1affe, 1⟩, ⟨0x1b000, 0x1b122, 1⟩, ⟨0x1b150, 0x1b152, 1⟩, ⟨0x1b164, 0x1b167, 1⟩,
   ⟨0x20000, 0x2a6df, 1⟩, ⟨0x2a700, 0x2b738, 1⟩, ⟨0x2b740, 0x2b81d, 1⟩, ⟨0x2b820, 0x2cea1, 1⟩,
   ⟨0x2ceb0, 0x2ebe0, 1⟩, ⟨0x30000, 0x3134a, 1⟩]

/-- Whether the next letter that is not transparent joins on a side. -/
def joins (side : Joining) (cs : List Char) : Bool :=
  match (cs.dropWhile isTransparent).head? with
  | none => false
  | some c => spanValue? joiningSpans c = some side || spanValue? joiningSpans c = some .both

def followsVirama (before : List Char) : Bool :=
  (before.head?.map combiningClass) = some viramaClass

def isArabicDigit (c : Char) : Bool := 0x660 ≤ c.toNat && c.toNat ≤ 0x669

def isPersianDigit (c : Char) : Bool := 0x6f0 ≤ c.toNat && c.toNat ≤ 0x6f9

/-- Whether a character may stand between what comes before it, in reverse, and what follows. -/
def fits (before : List Char) (c : Char) (rest : List Char) : Bool :=
  match c with
  | '\u200c' => followsVirama before || (joins .left before && joins .right rest)
  | '\u200d' => followsVirama before
  | '\u00b7' => before.head? = some 'l' && rest.head? = some 'l'
  | '\u0375' => (rest.head?.map (inSpans greekSpans)).getD false
  | '\u05f3' | '\u05f4' => (before.head?.map (inSpans hebrewSpans)).getD false
  | '\u30fb' => (before ++ rest).any (fun d => d ≠ '\u30fb' && inSpans japaneseSpans d)
  | c =>
    if isArabicDigit c then !(before ++ rest).any isPersianDigit
    else if isPersianDigit c then !(before ++ rest).any isArabicDigit
    else true

end Karaoke.Http.Domain
