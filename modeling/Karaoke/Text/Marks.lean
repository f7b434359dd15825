import Karaoke.Text.Span

/-!
# Marks

The characters that combine with the one before them, and the combining classes that fix in which
order several of them stand. Capitals, compatibility forms and symbols aside, which have other
characters in their place, the classes are those of all assigned characters.
-/

set_option autoImplicit false

namespace Karaoke.Text

def markSpansFrom300 : List Span :=
  [⟨0x300, 0x33f, 1⟩, ⟨0x342, 0x342, 1⟩, ⟨0x346, 0x34e, 1⟩, ⟨0x350, 0x36f, 1⟩, ⟨0x483, 0x487, 1⟩,
   ⟨0x591, 0x5bd, 1⟩, ⟨0x5bf, 0x5bf, 1⟩, ⟨0x5c1, 0x5c2, 1⟩, ⟨0x5c4, 0x5c5, 1⟩, ⟨0x5c7, 0x5c7, 1⟩,
   ⟨0x610, 0x61a, 1⟩, ⟨0x64b, 0x65f, 1⟩, ⟨0x670, 0x670, 1⟩, ⟨0x6d6, 0x6dc, 1⟩, ⟨0x6df, 0x6e4, 1⟩,
   ⟨0x6e7, 0x6e8, 1⟩, ⟨0x6ea, 0x6ed, 1⟩, ⟨0x711, 0x711, 1⟩, ⟨0x730, 0x74a, 1⟩, ⟨0x7a6, 0x7b0, 1⟩,
   ⟨0x7eb, 0x7f3, 1⟩, ⟨0x7fd, 0x7fd, 1⟩, ⟨0x816, 0x819, 1⟩, ⟨0x81b, 0x823, 1⟩, ⟨0x825, 0x827, 1⟩,
   ⟨0x829, 0x82d, 1⟩, ⟨0x859, 0x85b, 1⟩, ⟨0x898, 0x89f, 1⟩, ⟨0x8ca, 0x8e1, 1⟩, ⟨0x8e3, 0x903, 1⟩,
   ⟨0x93a, 0x93c, 1⟩, ⟨0x93e, 0x94f, 1⟩, ⟨0x951, 0x957, 1⟩, ⟨0x962, 0x963, 1⟩, ⟨0x981, 0x983, 1⟩,
   ⟨0x9bc, 0x9bc, 1⟩, ⟨0x9be, 0x9c4, 1⟩, ⟨0x9c7, 0x9c8, 1⟩, ⟨0x9cb, 0x9cd, 1⟩, ⟨0x9d7, 0x9d7, 1⟩,
   ⟨0x9e2, 0x9e3, 1⟩, ⟨0x9fe, 0x9fe, 1⟩, ⟨0xa01, 0xa03, 1⟩, ⟨0xa3c, 0xa3c, 1⟩, ⟨0xa3e, 0xa42, 1⟩,
   ⟨0xa47, 0xa48, 1⟩, ⟨0xa4b, 0xa4d, 1⟩, ⟨0xa51, 0xa51, 1⟩, ⟨0xa70, 0xa71, 1⟩, ⟨0xa75, 0xa75, 1⟩,
   ⟨0xa81, 0xa83, 1⟩, ⟨0xabc, 0xabc, 1⟩, ⟨0xabe, 0xac5, 1⟩, ⟨0xac7, 0xac9, 1⟩, ⟨0xacb, 0xacd, 1⟩,
   ⟨0xae2, 0xae3, 1⟩, ⟨0xafa, 0xaff, 1⟩, ⟨0xb01, 0xb03, 1⟩, ⟨0xb3c, 0xb3c, 1⟩, ⟨0xb3e, 0xb44, 1⟩,
   ⟨0xb47, 0xb48, 1⟩, ⟨0xb4b, 0xb4d, 1⟩, ⟨0xb55, 0xb57, 1⟩, ⟨0xb62, 0xb63, 1⟩, ⟨0xb82, 0xb82, 1⟩,
   ⟨0xbbe, 0xbc2, 1⟩, ⟨0xbc6, 0xbc8, 1⟩, ⟨0xbca, 0xbcd, 1⟩, ⟨0xbd7, 0xbd7, 1⟩, ⟨0xc00, 0xc04, 1⟩,
   ⟨0xc3c, 0xc3c, 1⟩, ⟨0xc3e, 0xc44, 1⟩, ⟨0xc46, 0xc48, 1⟩, ⟨0xc4a, 0xc4d, 1⟩, ⟨0xc55, 0xc56, 1⟩,
   ⟨0xc62, 0xc63, 1⟩, ⟨0xc81, 0xc83, 1⟩, ⟨0xcbc, 0xcbc, 1⟩, ⟨0xcbe, 0xcc4, 1⟩, ⟨0xcc6, 0xcc8, 1⟩,
   ⟨0xcca, 0xccd, 1⟩, ⟨0xcd5, 0xcd6, 1⟩, ⟨0xce2, 0xce3, 1⟩, ⟨0xd00, 0xd03, 1⟩, ⟨0xd3b, 0xd3c, 1⟩,
   ⟨0xd3e, 0xd44, 1⟩, ⟨0xd46, 0xd48, 1⟩, ⟨0xd4a, 0xd4d, 1⟩, ⟨0xd57, 0xd57, 1⟩, ⟨0xd62, 0xd63, 1⟩,
   ⟨0xd81, 0xd83, 1⟩, ⟨0xdca, 0xdca, 1⟩, ⟨0xdcf, 0xdd4, 1⟩, ⟨0xdd6, 0xdd6, 1⟩, ⟨0xdd8, 0xddf, 1⟩,
   ⟨0xdf2, 0xdf3, 1⟩, ⟨0xe31, 0xe31, 1⟩, ⟨0xe34, 0xe3a, 1⟩, ⟨0xe47, 0xe4e, 1⟩, ⟨0xeb1, 0xeb1, 1⟩,
   ⟨0xeb4, 0xebc, 1⟩, ⟨0xec8, 0xecd, 1⟩, ⟨0xf18, 0xf19, 1⟩, ⟨0xf35, 0xf35, 1⟩, ⟨0xf37, 0xf37, 1⟩,
   ⟨0xf39, 0xf39, 1⟩, ⟨0xf3e, 0xf3f, 1⟩, ⟨0xf71, 0xf72, 1⟩, ⟨0xf74, 0xf74, 1⟩, ⟨0xf7a, 0xf80, 1⟩]

def markSpansFromF82 : List Span :=
  [⟨0xf82, 0xf84, 1⟩, ⟨0xf86, 0xf87, 1⟩, ⟨0xf8d, 0xf92, 1⟩, ⟨0xf94, 0xf97, 1⟩, ⟨0xf99, 0xf9c, 1⟩,
   ⟨0xf9e, 0xfa1, 1⟩, ⟨0xfa3, 0xfa6, 1⟩, ⟨0xfa8, 0xfab, 1⟩, ⟨0xfad, 0xfb8, 1⟩, ⟨0xfba, 0xfbc, 1⟩,
   ⟨0xfc6, 0xfc6, 1⟩, ⟨0x102b, 0x103e, 1⟩, ⟨0x1056, 0x1059, 1⟩, ⟨0x105e, 0x1060, 1⟩,
   ⟨0x1062, 0x1064, 1⟩, ⟨0x1067, 0x106d, 1⟩, ⟨0x1071, 0x1074, 1⟩, ⟨0x1082, 0x108d, 1⟩,
   ⟨0x108f, 0x108f, 1⟩, ⟨0x109a, 0x109d, 1⟩, ⟨0x135d, 0x135f, 1⟩, ⟨0x1712, 0x1715, 1⟩,
   ⟨0x1732, 0x1734, 1⟩, ⟨0x1752, 0x1753, 1⟩, ⟨0x1772, 0x1773, 1⟩, ⟨0x17b6, 0x17d3, 1⟩,
   ⟨0x17dd, 0x17dd, 1⟩, ⟨0x1885, 0x1886, 1⟩, ⟨0x18a9, 0x18a9, 1⟩, ⟨0x1920, 0x192b, 1⟩,
   ⟨0x1930, 0x193b, 1⟩, ⟨0x1a17, 0x1a1b, 1⟩, ⟨0x1a55, 0x1a5e, 1⟩, ⟨0x1a60, 0x1a7c, 1⟩,
   ⟨0x1a7f, 0x1a7f, 1⟩, ⟨0x1ab0, 0x1abd, 1⟩, ⟨0x1abf, 0x1ace, 1⟩, ⟨0x1b00, 0x1b04, 1⟩,
   ⟨0x1b34, 0x1b44, 1⟩, ⟨0x1b6b, 0x1b73, 1⟩, ⟨0x1b80, 0x1b82, 1⟩, ⟨0x1ba1, 0x1bad, 1⟩,
   ⟨0x1be6, 0x1bf3, 1⟩, ⟨0x1c24, 0x1c37, 1⟩, ⟨0x1cd0, 0x1cd2, 1⟩, ⟨0x1cd4, 0x1ce8, 1⟩,
   ⟨0x1ced, 0x1ced, 1⟩, ⟨0x1cf4, 0x1cf4, 1⟩, ⟨0x1cf7, 0x1cf9, 1⟩, ⟨0x1dc0, 0x1dff, 1⟩,
   ⟨0x2cef, 0x2cf1, 1⟩, ⟨0x2d7f, 0x2d7f, 1⟩, ⟨0x2de0, 0x2dff, 1⟩, ⟨0x302a, 0x302d, 1⟩,
   ⟨0x3099, 0x309a, 1⟩, ⟨0xa66f, 0xa66f, 1⟩, ⟨0xa674, 0xa67d, 1⟩, ⟨0xa69e, 0xa69f, 1⟩,
   ⟨0xa6f0, 0xa6f1, 1⟩, ⟨0xa802, 0xa802, 1⟩, ⟨0xa806, 0xa806, 1⟩, ⟨0xa80b, 0xa80b, 1⟩,
   ⟨0xa823, 0xa827, 1⟩, ⟨0xa82c, 0xa82c, 1⟩, ⟨0xa880, 0xa881, 1⟩, ⟨0xa8b4, 0xa8c5, 1⟩,
   ⟨0xa8e0, 0xa8f1, 1⟩, ⟨0xa8ff, 0xa8ff, 1⟩, ⟨0xa926, 0xa92d, 1⟩, ⟨0xa947, 0xa953, 1⟩,
   ⟨0xa980, 0xa983, 1⟩, ⟨0xa9b3, 0xa9c0, 1⟩, ⟨0xa9e5, 0xa9e5, 1⟩, ⟨0xaa29, 0xaa36, 1⟩,
   ⟨0xaa43, 0xaa43, 1⟩, ⟨0xaa4c, 0xaa4d, 1⟩, ⟨0xaa7b, 0xaa7d, 1⟩, ⟨0xaab0, 0xaab0, 1⟩,
   ⟨0xaab2, 0xaab4, 1⟩, ⟨0xaab7, 0xaab8, 1⟩, ⟨0xaabe, 0xaabf, 1⟩, ⟨0xaac1, 0xaac1, 1⟩,
   ⟨0xaaeb, 0xaaef, 1⟩, ⟨0xaaf5, 0xaaf6, 1⟩, ⟨0xabe3, 0xabea, 1⟩, ⟨0xabec, 0xabed, 1⟩,
   ⟨0xfb1e, 0xfb1e, 1⟩, ⟨0xfe20, 0xfe2f, 1⟩, ⟨0x101fd, 0x101fd, 1⟩, ⟨0x102e0, 0x102e0, 1⟩,
   ⟨0x10376, 0x1037a, 1⟩, ⟨0x10a01, 0x10a03, 1⟩, ⟨0x10a05, 0x10a06, 1⟩, ⟨0x10a0c, 0x10a0f, 1⟩,
   ⟨0x10a38, 0x10a3a, 1⟩, ⟨0x10a3f, 0x10a3f, 1⟩, ⟨0x10ae5, 0x10ae6, 1⟩, ⟨0x10d24, 0x10d27, 1⟩,
   ⟨0x10eab, 0x10eac, 1⟩, ⟨0x10f46, 0x10f50, 1⟩, ⟨0x10f82, 0x10f85, 1⟩, ⟨0x11000, 0x11002, 1⟩,
   ⟨0x11038, 0x11046, 1⟩, ⟨0x11070, 0x11070, 1⟩, ⟨0x11073, 0x11074, 1⟩, ⟨0x1107f, 0x11082, 1⟩,
   ⟨0x110b0, 0x110ba, 1⟩, ⟨0x110c2, 0x110c2, 1⟩, ⟨0x11100, 0x11102, 1⟩, ⟨0x11127, 0x11134, 1⟩]

def markSpansFrom11145 : List Span :=
  [⟨0x11145, 0x11146, 1⟩, ⟨0x11173, 0x11173, 1⟩, ⟨0x11180, 0x11182, 1⟩, ⟨0x111b3, 0x111c0, 1⟩,
   ⟨0x111c9, 0x111cc, 1⟩, ⟨0x111ce, 0x111cf, 1⟩, ⟨0x1122c, 0x11237, 1⟩, ⟨0x1123e, 0x1123e, 1⟩,
   ⟨0x112df, 0x112ea, 1⟩, ⟨0x11300, 0x11303, 1⟩, ⟨0x1133b, 0x1133c, 1⟩, ⟨0x1133e, 0x11344, 1⟩,
   ⟨0x11347, 0x11348, 1⟩, ⟨0x1134b, 0x1134d, 1⟩, ⟨0x11357, 0x11357, 1⟩, ⟨0x11362, 0x11363, 1⟩,
   ⟨0x11366, 0x1136c, 1⟩, ⟨0x11370, 0x11374, 1⟩, ⟨0x11435, 0x11446, 1⟩, ⟨0x1145e, 0x1145e, 1⟩,
   ⟨0x114b0, 0x114c3, 1⟩, ⟨0x115af, 0x115b5, 1⟩, ⟨0x115b8, 0x115c0, 1⟩, ⟨0x115dc, 0x115dd, 1⟩,
   ⟨0x11630, 0x11640, 1⟩, ⟨0x116ab, 0x116b7, 1⟩, ⟨0x1171d, 0x1172b, 1⟩, ⟨0x1182c, 0x1183a, 1⟩,
   ⟨0x11930, 0x11935, 1⟩, ⟨0x11937, 0x11938, 1⟩, ⟨0x1193b, 0x1193e, 1⟩, ⟨0x11940, 0x11940, 1⟩,
   ⟨0x11942, 0x11943, 1⟩, ⟨0x119d1, 0x119d7, 1⟩, ⟨0x119da, 0x119e0, 1⟩, ⟨0x119e4, 0x119e4, 1⟩,
   ⟨0x11a01, 0x11a0a, 1⟩, ⟨0x11a33, 0x11a39, 1⟩, ⟨0x11a3b, 0x11a3e, 1⟩, ⟨0x11a47, 0x11a47, 1⟩,
   ⟨0x11a51, 0x11a5b, 1⟩, ⟨0x11a8a, 0x11a99, 1⟩, ⟨0x11c2f, 0x11c36, 1⟩, ⟨0x11c38, 0x11c3f, 1⟩,
   ⟨0x11c92, 0x11ca7, 1⟩, ⟨0x11ca9, 0x11cb6, 1⟩, ⟨0x11d31, 0x11d36, 1⟩, ⟨0x11d3a, 0x11d3a, 1⟩,
   ⟨0x11d3c, 0x11d3d, 1⟩, ⟨0x11d3f, 0x11d45, 1⟩, ⟨0x11d47, 0x11d47, 1⟩, ⟨0x11d8a, 0x11d8e, 1⟩,
   ⟨0x11d90, 0x11d91, 1⟩, ⟨0x11d93, 0x11d97, 1⟩, ⟨0x11ef3, 0x11ef6, 1⟩, ⟨0x16af0, 0x16af4, 1⟩,
   ⟨0x16b30, 0x16b36, 1⟩, ⟨0x16f4f, 0x16f4f, 1⟩, ⟨0x16f51, 0x16f87, 1⟩, ⟨0x16f8f, 0x16f92, 1⟩,
   ⟨0x16fe4, 0x16fe4, 1⟩, ⟨0x16ff0, 0x16ff1, 1⟩, ⟨0x1bc9d, 0x1bc9e, 1⟩, ⟨0x1cf00, 0x1cf2d, 1⟩,
   ⟨0x1cf30, 0x1cf46, 1⟩, ⟨0x1da00, 0x1da36, 1⟩, ⟨0x1da3b, 0x1da6c, 1⟩, ⟨0x1da75, 0x1da75, 1⟩,
   ⟨0x1da84, 0x1da84, 1⟩, ⟨0x1da9b, 0x1da9f, 1⟩, ⟨0x1daa1, 0x1daaf, 1⟩, ⟨0x1e000, 0x1e006, 1⟩,
   ⟨0x1e008, 0x1e018, 1⟩, ⟨0x1e01b, 0x1e021, 1⟩, ⟨0x1e023, 0x1e024, 1⟩, ⟨0x1e026, 0x1e02a, 1⟩,
   ⟨0x1e130, 0x1e136, 1⟩, ⟨0x1e2ae, 0x1e2ae, 1⟩, ⟨0x1e2ec, 0x1e2ef, 1⟩, ⟨0x1e8d0, 0x1e8d6, 1⟩,
   ⟨0x1e944, 0x1e94a, 1⟩]

/-- The marks, spacing ones included. -/
def markSpans : List Span :=
  markSpansFrom300 ++ markSpansFromF82 ++ markSpansFrom11145

def isMark (c : Char) : Bool :=
  inSpans markSpans c

def combiningSpansFrom300 : List (Span × Nat) :=
  [(⟨0x300, 0x314, 1⟩, 230), (⟨0x315, 0x315, 1⟩, 232), (⟨0x316, 0x319, 1⟩, 220),
   (⟨0x31a, 0x31a, 1⟩, 232), (⟨0x31b, 0x31b, 1⟩, 216), (⟨0x31c, 0x320, 1⟩, 220),
   (⟨0x321, 0x322, 1⟩, 202), (⟨0x323, 0x326, 1⟩, 220), (⟨0x327, 0x328, 1⟩, 202),
   (⟨0x329, 0x333, 1⟩, 220), (⟨0x334, 0x338, 1⟩, 1), (⟨0x339, 0x33c, 1⟩, 220),
   (⟨0x33d, 0x33f, 1⟩, 230), (⟨0x342, 0x342, 1⟩, 230), (⟨0x346, 0x346, 1⟩, 230),
   (⟨0x347, 0x349, 1⟩, 220), (⟨0x34a, 0x34c, 1⟩, 230), (⟨0x34d, 0x34e, 1⟩, 220),
   (⟨0x350, 0x352, 1⟩, 230), (⟨0x353, 0x356, 1⟩, 220), (⟨0x357, 0x357, 1⟩, 230),
   (⟨0x358, 0x358, 1⟩, 232), (⟨0x359, 0x35a, 1⟩, 220), (⟨0x35b, 0x35b, 1⟩, 230),
   (⟨0x35c, 0x35c, 1⟩, 233), (⟨0x35d, 0x35e, 1⟩, 234), (⟨0x35f, 0x35f, 1⟩, 233),
   (⟨0x360, 0x361, 1⟩, 234), (⟨0x362, 0x362, 1⟩, 233), (⟨0x363, 0x36f, 1⟩, 230),
   (⟨0x483, 0x487, 1⟩, 230), (⟨0x591, 0x591, 1⟩, 220), (⟨0x592, 0x595, 1⟩, 230),
   (⟨0x596, 0x596, 1⟩, 220), (⟨0x597, 0x599, 1⟩, 230), (⟨0x59a, 0x59a, 1⟩, 222),
   (⟨0x59b, 0x59b, 1⟩, 220), (⟨0x59c, 0x5a1, 1⟩, 230), (⟨0x5a2, 0x5a7, 1⟩, 220),
   (⟨0x5a8, 0x5a9, 1⟩, 230), (⟨0x5aa, 0x5aa, 1⟩, 220), (⟨0x5ab, 0x5ac, 1⟩, 230),
   (⟨0x5ad, 0x5ad, 1⟩, 222), (⟨0x5ae, 0x5ae, 1⟩, 228), (⟨0x5af, 0x5af, 1⟩, 230),
   (⟨0x5b0, 0x5b0, 1⟩, 10), (⟨0x5b1, 0x5b1, 1⟩, 11), (⟨0x5b2, 0x5b2, 1⟩, 12),
   (⟨0x5b3, 0x5b3, 1⟩, 13), (⟨0x5b4, 0x5b4, 1⟩, 14), (⟨0x5b5, 0x5b5, 1⟩, 15),
   (⟨0x5b6, 0x5b6, 1⟩, 16), (⟨0x5b7, 0x5b7, 1⟩, 17), (⟨0x5b8, 0x5b8, 1⟩, 18),
   (⟨0x5b9, 0x5ba, 1⟩, 19), (⟨0x5bb, 0x5bb, 1⟩, 20), (⟨0x5bc, 0x5bc, 1⟩, 21),
   (⟨0x5bd, 0x5bd, 1⟩, 22), (⟨0x5bf, 0x5bf, 1⟩, 23), (⟨0x5c1, 0x5c1, 1⟩, 24),
   (⟨0x5c2, 0x5c2, 1⟩, 25), (⟨0x5c4, 0x5c4, 1⟩, 230), (⟨0x5c5, 0x5c5, 1⟩, 220),
   (⟨0x5c7, 0x5c7, 1⟩, 18), (⟨0x610, 0x617, 1⟩, 230), (⟨0x618, 0x618, 1⟩, 30),
   (⟨0x619, 0x619, 1⟩, 31), (⟨0x61a, 0x61a, 1⟩, 32), (⟨0x64b, 0x64b, 1⟩, 27),
   (⟨0x64c, 0x64c, 1⟩, 28), (⟨0x64d, 0x64d, 1⟩, 29), (⟨0x64e, 0x64e, 1⟩, 30),
   (⟨0x64f, 0x64f, 1⟩, 31), (⟨0x650, 0x650, 1⟩, 32), (⟨0x651, 0x651, 1⟩, 33),
   (⟨0x652, 0x652, 1⟩, 34), (⟨0x653, 0x654, 1⟩, 230), (⟨0x655, 0x656, 1⟩, 220),
   (⟨0x657, 0x65b, 1⟩, 230), (⟨0x65c, 0x65c, 1⟩, 220), (⟨0x65d, 0x65e, 1⟩, 230),
   (⟨0x65f, 0x65f, 1⟩, 220), (⟨0x670, 0x670, 1⟩, 35), (⟨0x6d6, 0x6dc, 1⟩, 230),
   (⟨0x6df, 0x6e2, 1⟩, 230), (⟨0x6e3, 0x6e3, 1⟩, 220), (⟨0x6e4, 0x6e4, 1⟩, 230),
   (⟨0x6e7, 0x6e8, 1⟩, 230), (⟨0x6ea, 0x6ea, 1⟩, 220), (⟨0x6eb, 0x6ec, 1⟩, 230),
   (⟨0x6ed, 0x6ed, 1⟩, 220), (⟨0x711, 0x711, 1⟩, 36), (⟨0x730, 0x730, 1⟩, 230),
   (⟨0x731, 0x731, 1⟩, 220), (⟨0x732, 0x733, 1⟩, 230), (⟨0x734, 0x734, 1⟩, 220),
   (⟨0x735, 0x736, 1⟩, 230), (⟨0x737, 0x739, 1⟩, 220), (⟨0x73a, 0x73a, 1⟩, 230),
   (⟨0x73b, 0x73c, 1⟩, 220)]

def combiningSpansFrom73D : List (Span × Nat) :=
  [(⟨0x73d, 0x73d, 1⟩, 230), (⟨0x73e, 0x73e, 1⟩, 220), (⟨0x73f, 0x741, 1⟩, 230),
   (⟨0x742, 0x742, 1⟩, 220), (⟨0x743, 0x743, 1⟩, 230), (⟨0x744, 0x744, 1⟩, 220),
   (⟨0x745, 0x745, 1⟩, 230), (⟨0x746, 0x746, 1⟩, 220), (⟨0x747, 0x747, 1⟩, 230),
   (⟨0x748, 0x748, 1⟩, 220), (⟨0x749, 0x74a, 1⟩, 230), (⟨0x7eb, 0x7f1, 1⟩, 230),
   (⟨0x7f2, 0x7f2, 1⟩, 220), (⟨0x7f3, 0x7f3, 1⟩, 230), (⟨0x7fd, 0x7fd, 1⟩, 220),
   (⟨0x816, 0x819, 1⟩, 230), (⟨0x81b, 0x823, 1⟩, 230), (⟨0x825, 0x827, 1⟩, 230),
   (⟨0x829, 0x82d, 1⟩, 230), (⟨0x859, 0x85b, 1⟩, 220), (⟨0x898, 0x898, 1⟩, 230),
   (⟨0x899, 0x89b, 1⟩, 220), (⟨0x89c, 0x89f, 1⟩, 230), (⟨0x8ca, 0x8ce, 1⟩, 230),
   (⟨0x8cf, 0x8d3, 1⟩, 220), (⟨0x8d4, 0x8e1, 1⟩, 230), (⟨0x8e3, 0x8e3, 1⟩, 220),
   (⟨0x8e4, 0x8e5, 1⟩, 230), (⟨0x8e6, 0x8e6, 1⟩, 220), (⟨0x8e7, 0x8e8, 1⟩, 230),
   (⟨0x8e9, 0x8e9, 1⟩, 220), (⟨0x8ea, 0x8ec, 1⟩, 230), (⟨0x8ed, 0x8ef, 1⟩, 220),
   (⟨0x8f0, 0x8f0, 1⟩, 27), (⟨0x8f1, 0x8f1, 1⟩, 28), (⟨0x8f2, 0x8f2, 1⟩, 29),
   (⟨0x8f3, 0x8f5, 1⟩, 230), (⟨0x8f6, 0x8f6, 1⟩, 220), (⟨0x8f7, 0x8f8, 1⟩, 230),
   (⟨0x8f9, 0x8fa, 1⟩, 220), (⟨0x8fb, 0x8ff, 1⟩, 230), (⟨0x93c, 0x93c, 1⟩, 7),
   (⟨0x94d, 0x94d, 1⟩, 9), (⟨0x951, 0x951, 1⟩, 230), (⟨0x952, 0x952, 1⟩, 220),
   (⟨0x953, 0x954, 1⟩, 230), (⟨0x9bc, 0x9bc, 1⟩, 7), (⟨0x9cd, 0x9cd, 1⟩, 9),
   (⟨0x9fe, 0x9fe, 1⟩, 230), (⟨0xa3c, 0xa3c, 1⟩, 7), (⟨0xa4d, 0xa4d, 1⟩, 9), (⟨0xabc, 0xabc, 1⟩, 7),
   (⟨0xacd, 0xacd, 1⟩, 9), (⟨0xb3c, 0xb3c, 1⟩, 7), (⟨0xb4d, 0xb4d, 1⟩, 9), (⟨0xbcd, 0xbcd, 1⟩, 9),
   (⟨0xc3c, 0xc3c, 1⟩, 7), (⟨0xc4d, 0xc4d, 1⟩, 9), (⟨0xc55, 0xc55, 1⟩, 84), (⟨0xc56, 0xc56, 1⟩, 91),
   (⟨0xcbc, 0xcbc, 1⟩, 7), (⟨0xccd, 0xccd, 1⟩, 9), (⟨0xd3b, 0xd3c, 1⟩, 9), (⟨0xd4d, 0xd4d, 1⟩, 9),
   (⟨0xdca, 0xdca, 1⟩, 9), (⟨0xe38, 0xe39, 1⟩, 103), (⟨0xe3a, 0xe3a, 1⟩, 9),
   (⟨0xe48, 0xe4b, 1⟩, 107), (⟨0xeb8, 0xeb9, 1⟩, 118), (⟨0xeba, 0xeba, 1⟩, 9),
   (⟨0xec8, 0xecb, 1⟩, 122), (⟨0xf18, 0xf19, 1⟩, 220), (⟨0xf35, 0xf35, 1⟩, 220),
   (⟨0xf37, 0xf37, 1⟩, 220), (⟨0xf39, 0xf39, 1⟩, 216), (⟨0xf71, 0xf71, 1⟩, 129),
   (⟨0xf72, 0xf72, 1⟩, 130), (⟨0xf74, 0xf74, 1⟩, 132), (⟨0xf7a, 0xf7d, 1⟩, 130),
   (⟨0xf80, 0xf80, 1⟩, 130), (⟨0xf82, 0xf83, 1⟩, 230), (⟨0xf84, 0xf84, 1⟩, 9),
   (⟨0xf86, 0xf87, 1⟩, 230), (⟨0xfc6, 0xfc6, 1⟩, 220), (⟨0x1037, 0x1037, 1⟩, 7),
   (⟨0x1039, 0x103a, 1⟩, 9), (⟨0x108d, 0x108d, 1⟩, 220), (⟨0x135d, 0x135f, 1⟩, 230),
   (⟨0x1714, 0x1715, 1⟩, 9), (⟨0x1734, 0x1734, 1⟩, 9), (⟨0x17d2, 0x17d2, 1⟩, 9),
   (⟨0x17dd, 0x17dd, 1⟩, 230), (⟨0x18a9, 0x18a9, 1⟩, 228), (⟨0x1939, 0x1939, 1⟩, 222),
   (⟨0x193a, 0x193a, 1⟩, 230), (⟨0x193b, 0x193b, 1⟩, 220), (⟨0x1a17, 0x1a17, 1⟩, 230),
   (⟨0x1a18, 0x1a18, 1⟩, 220), (⟨0x1a60, 0x1a60, 1⟩, 9), (⟨0x1a75, 0x1a7c, 1⟩, 230)]

def combiningSpansFrom1A7F : List (Span × Nat) :=
  [(⟨0x1a7f, 0x1a7f, 1⟩, 220), (⟨0x1ab0, 0x1ab4, 1⟩, 230), (⟨0x1ab5, 0x1aba, 1⟩, 220),
   (⟨0x1abb, 0x1abc, 1⟩, 230), (⟨0x1abd, 0x1abd, 1⟩, 220), (⟨0x1abf, 0x1ac0, 1⟩, 220),
   (⟨0x1ac1, 0x1ac2, 1⟩, 230), (⟨0x1ac3, 0x1ac4, 1⟩, 220), (⟨0x1ac5, 0x1ac9, 1⟩, 230),
   (⟨0x1aca, 0x1aca, 1⟩, 220), (⟨0x1acb, 0x1ace, 1⟩, 230), (⟨0x1b34, 0x1b34, 1⟩, 7),
   (⟨0x1b44, 0x1b44, 1⟩, 9), (⟨0x1b6b, 0x1b6b, 1⟩, 230), (⟨0x1b6c, 0x1b6c, 1⟩, 220),
   (⟨0x1b6d, 0x1b73, 1⟩, 230), (⟨0x1baa, 0x1bab, 1⟩, 9), (⟨0x1be6, 0x1be6, 1⟩, 7),
   (⟨0x1bf2, 0x1bf3, 1⟩, 9), (⟨0x1c37, 0x1c37, 1⟩, 7), (⟨0x1cd0, 0x1cd2, 1⟩, 230),
   (⟨0x1cd4, 0x1cd4, 1⟩, 1), (⟨0x1cd5, 0x1cd9, 1⟩, 220), (⟨0x1cda, 0x1cdb, 1⟩, 230),
   (⟨0x1cdc, 0x1cdf, 1⟩, 220), (⟨0x1ce0, 0x1ce0, 1⟩, 230), (⟨0x1ce2, 0x1ce8, 1⟩, 1),
   (⟨0x1ced, 0x1ced, 1⟩, 220), (⟨0x1cf4, 0x1cf4, 1⟩, 230), (⟨0x1cf8, 0x1cf9, 1⟩, 230),
   (⟨0x1dc0, 0x1dc1, 1⟩, 230), (⟨0x1dc2, 0x1dc2, 1⟩, 220), (⟨0x1dc3, 0x1dc9, 1⟩, 230),
   (⟨0x1dca, 0x1dca, 1⟩, 220), (⟨0x1dcb, 0x1dcc, 1⟩, 230), (⟨0x1dcd, 0x1dcd, 1⟩, 234),
   (⟨0x1dce, 0x1dce, 1⟩, 214), (⟨0x1dcf, 0x1dcf, 1⟩, 220), (⟨0x1dd0, 0x1dd0, 1⟩, 202),
   (⟨0x1dd1, 0x1df5, 1⟩, 230), (⟨0x1df6, 0x1df6, 1⟩, 232), (⟨0x1df7, 0x1df8, 1⟩, 228),
   (⟨0x1df9, 0x1df9, 1⟩, 220), (⟨0x1dfa, 0x1dfa, 1⟩, 218), (⟨0x1dfb, 0x1dfb, 1⟩, 230),
   (⟨0x1dfc, 0x1dfc, 1⟩, 233), (⟨0x1dfd, 0x1dfd, 1⟩, 220), (⟨0x1dfe, 0x1dfe, 1⟩, 230),
   (⟨0x1dff, 0x1dff, 1⟩, 220), (⟨0x2cef, 0x2cf1, 1⟩, 230), (⟨0x2d7f, 0x2d7f, 1⟩, 9),
   (⟨0x2de0, 0x2dff, 1⟩, 230), (⟨0x302a, 0x302a, 1⟩, 218), (⟨0x302b, 0x302b, 1⟩, 228),
   (⟨0x302c, 0x302c, 1⟩, 232), (⟨0x302d, 0x302d, 1⟩, 222), (⟨0x3099, 0x309a, 1⟩, 8),
   (⟨0xa66f, 0xa66f, 1⟩, 230), (⟨0xa674, 0xa67d, 1⟩, 230), (⟨0xa69e, 0xa69f, 1⟩, 230),
   (⟨0xa6f0, 0xa6f1, 1⟩, 230), (⟨0xa806, 0xa806, 1⟩, 9), (⟨0xa82c, 0xa82c, 1⟩, 9),
   (⟨0xa8c4, 0xa8c4, 1⟩, 9), (⟨0xa8e0, 0xa8f1, 1⟩, 230), (⟨0xa92b, 0xa92d, 1⟩, 220),
   (⟨0xa953, 0xa953, 1⟩, 9), (⟨0xa9b3, 0xa9b3, 1⟩, 7), (⟨0xa9c0, 0xa9c0, 1⟩, 9),
   (⟨0xaab0, 0xaab0, 1⟩, 230), (⟨0xaab2, 0xaab3, 1⟩, 230), (⟨0xaab4, 0xaab4, 1⟩, 220),
   (⟨0xaab7, 0xaab8, 1⟩, 230), (⟨0xaabe, 0xaabf, 1⟩, 230), (⟨0xaac1, 0xaac1, 1⟩, 230),
   (⟨0xaaf6, 0xaaf6, 1⟩, 9), (⟨0xabed, 0xabed, 1⟩, 9), (⟨0xfb1e, 0xfb1e, 1⟩, 26),
   (⟨0xfe20, 0xfe26, 1⟩, 230), (⟨0xfe27, 0xfe2d, 1⟩, 220), (⟨0xfe2e, 0xfe2f, 1⟩, 230),
   (⟨0x101fd, 0x101fd, 1⟩, 220), (⟨0x102e0, 0x102e0, 1⟩, 220), (⟨0x10376, 0x1037a, 1⟩, 230),
   (⟨0x10a0d, 0x10a0d, 1⟩, 220), (⟨0x10a0f, 0x10a0f, 1⟩, 230), (⟨0x10a38, 0x10a38, 1⟩, 230),
   (⟨0x10a39, 0x10a39, 1⟩, 1), (⟨0x10a3a, 0x10a3a, 1⟩, 220), (⟨0x10a3f, 0x10a3f, 1⟩, 9),
   (⟨0x10ae5, 0x10ae5, 1⟩, 230), (⟨0x10ae6, 0x10ae6, 1⟩, 220), (⟨0x10d24, 0x10d27, 1⟩, 230),
   (⟨0x10eab, 0x10eac, 1⟩, 230), (⟨0x10f46, 0x10f47, 1⟩, 220), (⟨0x10f48, 0x10f4a, 1⟩, 230),
   (⟨0x10f4b, 0x10f4b, 1⟩, 220), (⟨0x10f4c, 0x10f4c, 1⟩, 230), (⟨0x10f4d, 0x10f50, 1⟩, 220),
   (⟨0x10f82, 0x10f82, 1⟩, 230)]

def combiningSpansFrom10F83 : List (Span × Nat) :=
  [(⟨0x10f83, 0x10f83, 1⟩, 220), (⟨0x10f84, 0x10f84, 1⟩, 230), (⟨0x10f85, 0x10f85, 1⟩, 220),
   (⟨0x11046, 0x11046, 1⟩, 9), (⟨0x11070, 0x11070, 1⟩, 9), (⟨0x1107f, 0x1107f, 1⟩, 9),
   (⟨0x110b9, 0x110b9, 1⟩, 9), (⟨0x110ba, 0x110ba, 1⟩, 7), (⟨0x11100, 0x11102, 1⟩, 230),
   (⟨0x11133, 0x11134, 1⟩, 9), (⟨0x11173, 0x11173, 1⟩, 7), (⟨0x111c0, 0x111c0, 1⟩, 9),
   (⟨0x111ca, 0x111ca, 1⟩, 7), (⟨0x11235, 0x11235, 1⟩, 9), (⟨0x11236, 0x11236, 1⟩, 7),
   (⟨0x112e9, 0x112e9, 1⟩, 7), (⟨0x112ea, 0x112ea, 1⟩, 9), (⟨0x1133b, 0x1133c, 1⟩, 7),
   (⟨0x1134d, 0x1134d, 1⟩, 9), (⟨0x11366, 0x1136c, 1⟩, 230), (⟨0x11370, 0x11374, 1⟩, 230),
   (⟨0x11442, 0x11442, 1⟩, 9), (⟨0x11446, 0x11446, 1⟩, 7), (⟨0x1145e, 0x1145e, 1⟩, 230),
   (⟨0x114c2, 0x114c2, 1⟩, 9), (⟨0x114c3, 0x114c3, 1⟩, 7), (⟨0x115bf, 0x115bf, 1⟩, 9),
   (⟨0x115c0, 0x115c0, 1⟩, 7), (⟨0x1163f, 0x1163f, 1⟩, 9), (⟨0x116b6, 0x116b6, 1⟩, 9),
   (⟨0x116b7, 0x116b7, 1⟩, 7), (⟨0x1172b, 0x1172b, 1⟩, 9), (⟨0x11839, 0x11839, 1⟩, 9),
   (⟨0x1183a, 0x1183a, 1⟩, 7), (⟨0x1193d, 0x1193e, 1⟩, 9), (⟨0x11943, 0x11943, 1⟩, 7),
   (⟨0x119e0, 0x119e0, 1⟩, 9), (⟨0x11a34, 0x11a34, 1⟩, 9), (⟨0x11a47, 0x11a47, 1⟩, 9),
   (⟨0x11a99, 0x11a99, 1⟩, 9), (⟨0x11c3f, 0x11c3f, 1⟩, 9), (⟨0x11d42, 0x11d42, 1⟩, 7),
   (⟨0x11d44, 0x11d45, 1⟩, 9), (⟨0x11d97, 0x11d97, 1⟩, 9), (⟨0x16af0, 0x16af4, 1⟩, 1),
   (⟨0x16b30, 0x16b36, 1⟩, 230), (⟨0x16ff0, 0x16ff1, 1⟩, 6), (⟨0x1bc9e, 0x1bc9e, 1⟩, 1),
   (⟨0x1e000, 0x1e006, 1⟩, 230), (⟨0x1e008, 0x1e018, 1⟩, 230), (⟨0x1e01b, 0x1e021, 1⟩, 230),
   (⟨0x1e023, 0x1e024, 1⟩, 230), (⟨0x1e026, 0x1e02a, 1⟩, 230), (⟨0x1e130, 0x1e136, 1⟩, 230),
   (⟨0x1e2ae, 0x1e2ae, 1⟩, 230), (⟨0x1e2ec, 0x1e2ef, 1⟩, 230), (⟨0x1e8d0, 0x1e8d6, 1⟩, 220),
   (⟨0x1e944, 0x1e949, 1⟩, 230), (⟨0x1e94a, 0x1e94a, 1⟩, 7)]

/-- The combining classes other than zero. -/
def combiningSpans : List (Span × Nat) :=
  combiningSpansFrom300 ++ combiningSpansFrom73D ++ combiningSpansFrom1A7F ++
  combiningSpansFrom10F83

/-- The combining class of a character; zero for one that starts a cluster. -/
def combiningClass (c : Char) : Nat :=
  (spanValue? combiningSpans c).getD 0

/-- The class of the signs that take the vowel from a consonant. -/
def viramaClass : Nat := 9

end Karaoke.Text
