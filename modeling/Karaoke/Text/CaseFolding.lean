import Karaoke.Text.Span

/-!
# Case folding

Full case folding of the characters that do not stand for a Latin letter. Most fold to a
character at a fixed distance; a few ligatures fold to a sequence.
-/

set_option autoImplicit false

namespace Karaoke.Text

/-- The characters that fold to the one at a fixed distance, with the distance. -/
def caseSpansLow : List (Span × Int) :=
  [(⟨0xc6, 0xc6, 1⟩, 32), (⟨0xde, 0xde, 1⟩, 32), (⟨0x132, 0x132, 1⟩, 1), (⟨0x14a, 0x14a, 1⟩, 1),
   (⟨0x152, 0x152, 1⟩, 1), (⟨0x184, 0x184, 1⟩, 1), (⟨0x18e, 0x18e, 1⟩, 79),
   (⟨0x18f, 0x18f, 1⟩, 202), (⟨0x1a2, 0x1a2, 1⟩, 1), (⟨0x1a6, 0x1a6, 1⟩, 218),
   (⟨0x1a7, 0x1a7, 1⟩, 1), (⟨0x1a9, 0x1a9, 1⟩, 218), (⟨0x1b7, 0x1b7, 1⟩, 219),
   (⟨0x1b8, 0x1b8, 1⟩, 1), (⟨0x1bc, 0x1bc, 1⟩, 1), (⟨0x1c4, 0x1c4, 1⟩, 2), (⟨0x1c5, 0x1c5, 1⟩, 1),
   (⟨0x1c7, 0x1c7, 1⟩, 2), (⟨0x1c8, 0x1c8, 1⟩, 1), (⟨0x1ca, 0x1ca, 1⟩, 2), (⟨0x1cb, 0x1cb, 1⟩, 1),
   (⟨0x1e2, 0x1e2, 1⟩, 1), (⟨0x1ee, 0x1ee, 1⟩, 1), (⟨0x1f1, 0x1f1, 1⟩, 2), (⟨0x1f2, 0x1f2, 1⟩, 1),
   (⟨0x1f6, 0x1f6, 1⟩, -97), (⟨0x1fc, 0x1fc, 1⟩, 1), (⟨0x222, 0x222, 1⟩, 1), (⟨0x241, 0x241, 1⟩, 1),
   (⟨0x245, 0x245, 1⟩, 71), (⟨0x345, 0x345, 1⟩, 116), (⟨0x370, 0x372, 2⟩, 1),
   (⟨0x376, 0x376, 1⟩, 1), (⟨0x37f, 0x37f, 1⟩, 116), (⟨0x398, 0x398, 1⟩, 32),
   (⟨0x39e, 0x39e, 1⟩, 32), (⟨0x3a6, 0x3a8, 1⟩, 32), (⟨0x3cf, 0x3cf, 1⟩, 8),
   (⟨0x3d1, 0x3d1, 1⟩, -25), (⟨0x3d5, 0x3d5, 1⟩, -15), (⟨0x3d8, 0x3da, 2⟩, 1),
   (⟨0x3e0, 0x3e2, 2⟩, 1), (⟨0x3e6, 0x3e6, 1⟩, 1), (⟨0x3ec, 0x3ee, 2⟩, 1), (⟨0x3f4, 0x3f4, 1⟩, -60),
   (⟨0x3f5, 0x3f5, 1⟩, -64), (⟨0x3f7, 0x3f7, 1⟩, 1), (⟨0x3f9, 0x3f9, 1⟩, -7),
   (⟨0x3fa, 0x3fa, 1⟩, 1), (⟨0x3fd, 0x3ff, 1⟩, -130), (⟨0x400, 0x405, 1⟩, 80),
   (⟨0x407, 0x409, 2⟩, 80), (⟨0x40a, 0x40c, 1⟩, 80), (⟨0x40f, 0x40f, 1⟩, 80),
   (⟨0x416, 0x416, 1⟩, 32), (⟨0x425, 0x42a, 1⟩, 32), (⟨0x42c, 0x42e, 2⟩, 32),
   (⟨0x42f, 0x42f, 1⟩, 32), (⟨0x464, 0x464, 1⟩, 1), (⟨0x468, 0x468, 1⟩, 1), (⟨0x46c, 0x470, 2⟩, 1),
   (⟨0x47e, 0x47e, 1⟩, 1), (⟨0x48a, 0x4ac, 2⟩, 1), (⟨0x4b0, 0x4b8, 2⟩, 1), (⟨0x4bc, 0x4be, 2⟩, 1),
   (⟨0x4c0, 0x4c0, 1⟩, 15), (⟨0x4c1, 0x4cd, 2⟩, 1), (⟨0x4d4, 0x4dc, 2⟩, 1), (⟨0x4e0, 0x4e0, 1⟩, 1),
   (⟨0x4f4, 0x4f6, 2⟩, 1), (⟨0x4fa, 0x52e, 2⟩, 1), (⟨0x539, 0x53a, 1⟩, 48), (⟨0x53d, 0x53e, 1⟩, 48),
   (⟨0x541, 0x543, 1⟩, 48), (⟨0x547, 0x549, 2⟩, 48)]

def caseSpansHigh : List (Span × Int) :=
  [(⟨0x54c, 0x54c, 1⟩, 48), (⟨0x551, 0x553, 2⟩, 48), (⟨0x554, 0x554, 1⟩, 48),
   (⟨0x10a7, 0x10a7, 1⟩, 7264), (⟨0x10af, 0x10af, 1⟩, 7264), (⟨0x10b4, 0x10b6, 1⟩, 7264),
   (⟨0x10b8, 0x10bb, 1⟩, 7264), (⟨0x10bd, 0x10bd, 1⟩, 7264), (⟨0x10c4, 0x10c5, 1⟩, 7264),
   (⟨0x10c7, 0x10c7, 1⟩, 7264), (⟨0x10cd, 0x10cd, 1⟩, 7264), (⟨0x13f8, 0x13fd, 1⟩, -8),
   (⟨0x1c80, 0x1c80, 1⟩, -6222), (⟨0x1c81, 0x1c81, 1⟩, -6221), (⟨0x1c82, 0x1c82, 1⟩, -6212),
   (⟨0x1c83, 0x1c84, 1⟩, -6210), (⟨0x1c85, 0x1c85, 1⟩, -6211), (⟨0x1c86, 0x1c86, 1⟩, -6204),
   (⟨0x1c87, 0x1c87, 1⟩, -6180), (⟨0x1c88, 0x1c88, 1⟩, 35267), (⟨0x1c90, 0x1cba, 1⟩, -3008),
   (⟨0x1cbd, 0x1cbf, 1⟩, -3008), (⟨0x1efa, 0x1efe, 2⟩, 1), (⟨0x2126, 0x2126, 1⟩, -7517),
   (⟨0x2161, 0x2163, 1⟩, 16), (⟨0x2165, 0x2168, 1⟩, 16), (⟨0x216a, 0x216b, 1⟩, 16),
   (⟨0x2183, 0x2183, 1⟩, 1), (⟨0x2c00, 0x2c2f, 1⟩, 48), (⟨0x2c6d, 0x2c6d, 1⟩, -10780),
   (⟨0x2c70, 0x2c70, 1⟩, -10782), (⟨0x2c72, 0x2c72, 1⟩, 1), (⟨0x2c75, 0x2c75, 1⟩, 1),
   (⟨0x2c7e, 0x2c7f, 1⟩, -10815), (⟨0x2c80, 0x2ce2, 2⟩, 1), (⟨0x2ceb, 0x2ced, 2⟩, 1),
   (⟨0x2cf2, 0x2cf2, 1⟩, 1), (⟨0xa640, 0xa66c, 2⟩, 1), (⟨0xa680, 0xa69a, 2⟩, 1),
   (⟨0xa722, 0xa72e, 2⟩, 1), (⟨0xa732, 0xa76e, 2⟩, 1), (⟨0xa779, 0xa77b, 2⟩, 1),
   (⟨0xa77d, 0xa77d, 1⟩, -35332), (⟨0xa77e, 0xa786, 2⟩, 1), (⟨0xa78b, 0xa78b, 1⟩, 1),
   (⟨0xa78d, 0xa78d, 1⟩, -42280), (⟨0xa790, 0xa792, 2⟩, 1), (⟨0xa796, 0xa7a8, 2⟩, 1),
   (⟨0xa7aa, 0xa7aa, 1⟩, -42308), (⟨0xa7ab, 0xa7ab, 1⟩, -42319), (⟨0xa7ac, 0xa7ac, 1⟩, -42315),
   (⟨0xa7ad, 0xa7ad, 1⟩, -42305), (⟨0xa7ae, 0xa7ae, 1⟩, -42308), (⟨0xa7b0, 0xa7b0, 1⟩, -42258),
   (⟨0xa7b1, 0xa7b1, 1⟩, -42282), (⟨0xa7b2, 0xa7b2, 1⟩, -42261), (⟨0xa7b3, 0xa7b3, 1⟩, 928),
   (⟨0xa7b4, 0xa7c2, 2⟩, 1), (⟨0xa7c4, 0xa7c4, 1⟩, -48), (⟨0xa7c5, 0xa7c5, 1⟩, -42307),
   (⟨0xa7c6, 0xa7c6, 1⟩, -35384), (⟨0xa7c7, 0xa7c9, 2⟩, 1), (⟨0xa7d0, 0xa7d0, 1⟩, 1),
   (⟨0xa7d6, 0xa7d8, 2⟩, 1), (⟨0xa7f5, 0xa7f5, 1⟩, 1), (⟨0xab70, 0xabbf, 1⟩, -38864),
   (⟨0x10400, 0x10427, 1⟩, 40), (⟨0x104b0, 0x104d3, 1⟩, 40), (⟨0x10570, 0x1057a, 1⟩, 39),
   (⟨0x1057c, 0x1058a, 1⟩, 39), (⟨0x1058c, 0x10592, 1⟩, 39), (⟨0x10594, 0x10595, 1⟩, 39),
   (⟨0x10c80, 0x10cb2, 1⟩, 64), (⟨0x118a0, 0x118bf, 1⟩, 32), (⟨0x16e40, 0x16e5f, 1⟩, 32),
   (⟨0x1e900, 0x1e921, 1⟩, 34)]

/-- The characters that fold to more than one. -/
def caseSequences : List (Nat × List Nat) :=
  [(0xdf, [0x73, 0x73]), (0x149, [0x2bc, 0x6e]), (0x587, [0x565, 0x582]), (0x1e9e, [0x73, 0x73]),
   (0xfb00, [0x66, 0x66]), (0xfb01, [0x66, 0x69]), (0xfb02, [0x66, 0x6c]),
   (0xfb03, [0x66, 0x66, 0x69]), (0xfb04, [0x66, 0x66, 0x6c]), (0xfb05, [0x73, 0x74]),
   (0xfb06, [0x73, 0x74]), (0xfb13, [0x574, 0x576]), (0xfb14, [0x574, 0x565]),
   (0xfb15, [0x574, 0x56b]), (0xfb16, [0x57e, 0x576]), (0xfb17, [0x574, 0x56d])]

/-- The full case folding of a character that does not stand for a Latin letter. -/
def caseFold (c : Char) : List Char :=
  match spanValue? (caseSpansLow ++ caseSpansHigh) c with
  | some offset => [Char.ofNat (c.toNat + offset).toNat]
  | none => match caseSequences.lookup c.toNat with
    | some ns => ns.map Char.ofNat
    | none => [c]

end Karaoke.Text
