import Karaoke.Text.Span

/-!
# Writing directions

The direction in which each character of a domain name is written. All that are not listed are
written from left to right.
-/

set_option autoImplicit false

namespace Karaoke.Http.Domain

open Text

inductive Direction where
  | left | right | arabic | digit | arabicDigit | sign | neutral | mark
  deriving DecidableEq, Repr

def directionSpansFrom2D : List (Span × Direction) :=
  [(⟨0x2d, 0x2d, 1⟩, .sign), (⟨0x30, 0x39, 1⟩, .digit), (⟨0xb7, 0xb7, 1⟩, .neutral),
   (⟨0x2b9, 0x2ba, 1⟩, .neutral), (⟨0x2c6, 0x2cf, 1⟩, .neutral), (⟨0x2ec, 0x2ec, 1⟩, .neutral),
   (⟨0x300, 0x33f, 1⟩, .mark), (⟨0x342, 0x342, 1⟩, .mark), (⟨0x346, 0x34e, 1⟩, .mark),
   (⟨0x350, 0x36f, 1⟩, .mark), (⟨0x375, 0x375, 1⟩, .neutral), (⟨0x483, 0x487, 1⟩, .mark),
   (⟨0x591, 0x5bd, 1⟩, .mark), (⟨0x5bf, 0x5c1, 2⟩, .mark), (⟨0x5c2, 0x5c4, 2⟩, .mark),
   (⟨0x5c5, 0x5c7, 2⟩, .mark), (⟨0x5d0, 0x5ea, 1⟩, .right), (⟨0x5ef, 0x5f4, 1⟩, .right),
   (⟨0x610, 0x61a, 1⟩, .mark), (⟨0x620, 0x63f, 1⟩, .arabic), (⟨0x641, 0x64a, 1⟩, .arabic),
   (⟨0x64b, 0x65f, 1⟩, .mark), (⟨0x660, 0x669, 1⟩, .arabicDigit), (⟨0x66e, 0x66f, 1⟩, .arabic),
   (⟨0x670, 0x670, 1⟩, .mark), (⟨0x671, 0x674, 1⟩, .arabic), (⟨0x679, 0x6d3, 1⟩, .arabic),
   (⟨0x6d5, 0x6d5, 1⟩, .arabic), (⟨0x6d6, 0x6dc, 1⟩, .mark), (⟨0x6df, 0x6e4, 1⟩, .mark),
   (⟨0x6e5, 0x6e6, 1⟩, .arabic), (⟨0x6e7, 0x6e8, 1⟩, .mark), (⟨0x6ea, 0x6ed, 1⟩, .mark),
   (⟨0x6ee, 0x6ef, 1⟩, .arabic), (⟨0x6f0, 0x6f9, 1⟩, .digit), (⟨0x6fa, 0x6ff, 1⟩, .arabic),
   (⟨0x710, 0x710, 1⟩, .arabic), (⟨0x711, 0x711, 1⟩, .mark), (⟨0x712, 0x72f, 1⟩, .arabic),
   (⟨0x730, 0x74a, 1⟩, .mark), (⟨0x74d, 0x7a5, 1⟩, .arabic), (⟨0x7a6, 0x7b0, 1⟩, .mark),
   (⟨0x7b1, 0x7b1, 1⟩, .arabic), (⟨0x7c0, 0x7ea, 1⟩, .right), (⟨0x7eb, 0x7f3, 1⟩, .mark),
   (⟨0x7f4, 0x7f5, 1⟩, .right), (⟨0x7fd, 0x7fd, 1⟩, .mark), (⟨0x800, 0x815, 1⟩, .right),
   (⟨0x816, 0x819, 1⟩, .mark), (⟨0x81a, 0x81a, 1⟩, .right), (⟨0x81b, 0x823, 1⟩, .mark),
   (⟨0x824, 0x824, 1⟩, .right), (⟨0x825, 0x827, 1⟩, .mark), (⟨0x828, 0x828, 1⟩, .right),
   (⟨0x829, 0x82d, 1⟩, .mark), (⟨0x840, 0x858, 1⟩, .right), (⟨0x859, 0x85b, 1⟩, .mark),
   (⟨0x860, 0x86a, 1⟩, .arabic), (⟨0x870, 0x887, 1⟩, .arabic), (⟨0x889, 0x88e, 1⟩, .arabic),
   (⟨0x898, 0x89f, 1⟩, .mark), (⟨0x8a0, 0x8c9, 1⟩, .arabic), (⟨0x8ca, 0x8e1, 1⟩, .mark),
   (⟨0x8e3, 0x902, 1⟩, .mark), (⟨0x93a, 0x93c, 2⟩, .mark), (⟨0x941, 0x948, 1⟩, .mark),
   (⟨0x94d, 0x94d, 1⟩, .mark), (⟨0x951, 0x957, 1⟩, .mark), (⟨0x962, 0x963, 1⟩, .mark),
   (⟨0x981, 0x981, 1⟩, .mark), (⟨0x9bc, 0x9bc, 1⟩, .mark), (⟨0x9c1, 0x9c4, 1⟩, .mark),
   (⟨0x9cd, 0x9cd, 1⟩, .mark), (⟨0x9e2, 0x9e3, 1⟩, .mark), (⟨0x9fe, 0x9fe, 1⟩, .mark),
   (⟨0xa01, 0xa02, 1⟩, .mark), (⟨0xa3c, 0xa3c, 1⟩, .mark), (⟨0xa41, 0xa42, 1⟩, .mark),
   (⟨0xa47, 0xa48, 1⟩, .mark), (⟨0xa4b, 0xa4d, 1⟩, .mark), (⟨0xa51, 0xa51, 1⟩, .mark),
   (⟨0xa70, 0xa71, 1⟩, .mark), (⟨0xa75, 0xa75, 1⟩, .mark), (⟨0xa81, 0xa82, 1⟩, .mark),
   (⟨0xabc, 0xabc, 1⟩, .mark), (⟨0xac1, 0xac5, 1⟩, .mark), (⟨0xac7, 0xac8, 1⟩, .mark),
   (⟨0xacd, 0xacd, 1⟩, .mark), (⟨0xae2, 0xae3, 1⟩, .mark), (⟨0xafa, 0xaff, 1⟩, .mark)]

def directionSpansFromB01 : List (Span × Direction) :=
  [(⟨0xb01, 0xb01, 1⟩, .mark), (⟨0xb3c, 0xb3c, 1⟩, .mark), (⟨0xb3f, 0xb41, 2⟩, .mark),
   (⟨0xb42, 0xb44, 1⟩, .mark), (⟨0xb4d, 0xb4d, 1⟩, .mark), (⟨0xb55, 0xb56, 1⟩, .mark),
   (⟨0xb62, 0xb63, 1⟩, .mark), (⟨0xb82, 0xb82, 1⟩, .mark), (⟨0xbc0, 0xbc0, 1⟩, .mark),
   (⟨0xbcd, 0xbcd, 1⟩, .mark), (⟨0xc00, 0xc00, 1⟩, .mark), (⟨0xc04, 0xc04, 1⟩, .mark),
   (⟨0xc3c, 0xc3e, 2⟩, .mark), (⟨0xc3f, 0xc40, 1⟩, .mark), (⟨0xc46, 0xc48, 1⟩, .mark),
   (⟨0xc4a, 0xc4d, 1⟩, .mark), (⟨0xc55, 0xc56, 1⟩, .mark), (⟨0xc62, 0xc63, 1⟩, .mark),
   (⟨0xc81, 0xc81, 1⟩, .mark), (⟨0xcbc, 0xcbc, 1⟩, .mark), (⟨0xccc, 0xccd, 1⟩, .mark),
   (⟨0xce2, 0xce3, 1⟩, .mark), (⟨0xd00, 0xd01, 1⟩, .mark), (⟨0xd3b, 0xd3c, 1⟩, .mark),
   (⟨0xd41, 0xd44, 1⟩, .mark), (⟨0xd4d, 0xd4d, 1⟩, .mark), (⟨0xd62, 0xd63, 1⟩, .mark),
   (⟨0xd81, 0xd81, 1⟩, .mark), (⟨0xdca, 0xdca, 1⟩, .mark), (⟨0xdd2, 0xdd4, 1⟩, .mark),
   (⟨0xdd6, 0xdd6, 1⟩, .mark), (⟨0xe31, 0xe31, 1⟩, .mark), (⟨0xe34, 0xe3a, 1⟩, .mark),
   (⟨0xe47, 0xe4e, 1⟩, .mark), (⟨0xeb1, 0xeb1, 1⟩, .mark), (⟨0xeb4, 0xebc, 1⟩, .mark),
   (⟨0xec8, 0xecd, 1⟩, .mark), (⟨0xf18, 0xf19, 1⟩, .mark), (⟨0xf35, 0xf39, 2⟩, .mark),
   (⟨0xf71, 0xf72, 1⟩, .mark), (⟨0xf74, 0xf74, 1⟩, .mark), (⟨0xf7a, 0xf7e, 1⟩, .mark),
   (⟨0xf80, 0xf82, 2⟩, .mark), (⟨0xf83, 0xf84, 1⟩, .mark), (⟨0xf86, 0xf87, 1⟩, .mark),
   (⟨0xf8d, 0xf92, 1⟩, .mark), (⟨0xf94, 0xf97, 1⟩, .mark), (⟨0xf99, 0xf9c, 1⟩, .mark),
   (⟨0xf9e, 0xfa1, 1⟩, .mark), (⟨0xfa3, 0xfa6, 1⟩, .mark), (⟨0xfa8, 0xfab, 1⟩, .mark),
   (⟨0xfad, 0xfb8, 1⟩, .mark), (⟨0xfba, 0xfbc, 1⟩, .mark), (⟨0xfc6, 0xfc6, 1⟩, .mark),
   (⟨0x102d, 0x1030, 1⟩, .mark), (⟨0x1032, 0x1037, 1⟩, .mark), (⟨0x1039, 0x103a, 1⟩, .mark),
   (⟨0x103d, 0x103e, 1⟩, .mark), (⟨0x1058, 0x1059, 1⟩, .mark), (⟨0x105e, 0x1060, 1⟩, .mark),
   (⟨0x1071, 0x1074, 1⟩, .mark), (⟨0x1082, 0x1082, 1⟩, .mark), (⟨0x1085, 0x1086, 1⟩, .mark),
   (⟨0x108d, 0x108d, 1⟩, .mark), (⟨0x109d, 0x109d, 1⟩, .mark), (⟨0x135d, 0x135f, 1⟩, .mark),
   (⟨0x1712, 0x1714, 1⟩, .mark), (⟨0x1732, 0x1733, 1⟩, .mark), (⟨0x1752, 0x1753, 1⟩, .mark),
   (⟨0x1772, 0x1773, 1⟩, .mark), (⟨0x17b7, 0x17bd, 1⟩, .mark), (⟨0x17c6, 0x17c6, 1⟩, .mark),
   (⟨0x17c9, 0x17d3, 1⟩, .mark), (⟨0x17dd, 0x17dd, 1⟩, .mark), (⟨0x1885, 0x1886, 1⟩, .mark),
   (⟨0x18a9, 0x18a9, 1⟩, .mark), (⟨0x1920, 0x1922, 1⟩, .mark), (⟨0x1927, 0x1928, 1⟩, .mark),
   (⟨0x1932, 0x1932, 1⟩, .mark), (⟨0x1939, 0x193b, 1⟩, .mark), (⟨0x1a17, 0x1a18, 1⟩, .mark),
   (⟨0x1a1b, 0x1a1b, 1⟩, .mark), (⟨0x1a56, 0x1a58, 2⟩, .mark), (⟨0x1a59, 0x1a5e, 1⟩, .mark),
   (⟨0x1a60, 0x1a62, 2⟩, .mark), (⟨0x1a65, 0x1a6c, 1⟩, .mark), (⟨0x1a73, 0x1a7c, 1⟩, .mark),
   (⟨0x1a7f, 0x1a7f, 1⟩, .mark), (⟨0x1ab0, 0x1abd, 1⟩, .mark), (⟨0x1abf, 0x1ace, 1⟩, .mark)]

def directionSpansFrom1B00 : List (Span × Direction) :=
  [(⟨0x1b00, 0x1b03, 1⟩, .mark), (⟨0x1b34, 0x1b36, 2⟩, .mark), (⟨0x1b37, 0x1b3a, 1⟩, .mark),
   (⟨0x1b3c, 0x1b3c, 1⟩, .mark), (⟨0x1b42, 0x1b42, 1⟩, .mark), (⟨0x1b6b, 0x1b73, 1⟩, .mark),
   (⟨0x1b80, 0x1b81, 1⟩, .mark), (⟨0x1ba2, 0x1ba5, 1⟩, .mark), (⟨0x1ba8, 0x1ba9, 1⟩, .mark),
   (⟨0x1bab, 0x1bad, 1⟩, .mark), (⟨0x1be6, 0x1be8, 2⟩, .mark), (⟨0x1be9, 0x1be9, 1⟩, .mark),
   (⟨0x1bed, 0x1bef, 2⟩, .mark), (⟨0x1bf0, 0x1bf1, 1⟩, .mark), (⟨0x1c2c, 0x1c33, 1⟩, .mark),
   (⟨0x1c36, 0x1c37, 1⟩, .mark), (⟨0x1cd0, 0x1cd2, 1⟩, .mark), (⟨0x1cd4, 0x1ce0, 1⟩, .mark),
   (⟨0x1ce2, 0x1ce8, 1⟩, .mark), (⟨0x1ced, 0x1ced, 1⟩, .mark), (⟨0x1cf4, 0x1cf4, 1⟩, .mark),
   (⟨0x1cf8, 0x1cf9, 1⟩, .mark), (⟨0x1dc0, 0x1dff, 1⟩, .mark), (⟨0x200c, 0x200d, 1⟩, .neutral),
   (⟨0x2cef, 0x2cf1, 1⟩, .mark), (⟨0x2d7f, 0x2d7f, 1⟩, .mark), (⟨0x2de0, 0x2dff, 1⟩, .mark),
   (⟨0x2e2f, 0x2e2f, 1⟩, .neutral), (⟨0x302a, 0x302d, 1⟩, .mark), (⟨0x3099, 0x309a, 1⟩, .mark),
   (⟨0x30fb, 0x30fb, 1⟩, .neutral), (⟨0xa66f, 0xa66f, 1⟩, .mark), (⟨0xa674, 0xa67d, 1⟩, .mark),
   (⟨0xa67f, 0xa67f, 1⟩, .neutral), (⟨0xa69e, 0xa69f, 1⟩, .mark), (⟨0xa6f0, 0xa6f1, 1⟩, .mark),
   (⟨0xa717, 0xa71f, 1⟩, .neutral), (⟨0xa788, 0xa788, 1⟩, .neutral), (⟨0xa802, 0xa802, 1⟩, .mark),
   (⟨0xa806, 0xa806, 1⟩, .mark), (⟨0xa80b, 0xa80b, 1⟩, .mark), (⟨0xa825, 0xa826, 1⟩, .mark),
   (⟨0xa82c, 0xa82c, 1⟩, .mark), (⟨0xa8c4, 0xa8c5, 1⟩, .mark), (⟨0xa8e0, 0xa8f1, 1⟩, .mark),
   (⟨0xa8ff, 0xa8ff, 1⟩, .mark), (⟨0xa926, 0xa92d, 1⟩, .mark), (⟨0xa947, 0xa951, 1⟩, .mark),
   (⟨0xa980, 0xa982, 1⟩, .mark), (⟨0xa9b3, 0xa9b3, 1⟩, .mark), (⟨0xa9b6, 0xa9b9, 1⟩, .mark),
   (⟨0xa9bc, 0xa9bd, 1⟩, .mark), (⟨0xa9e5, 0xa9e5, 1⟩, .mark), (⟨0xaa29, 0xaa2e, 1⟩, .mark),
   (⟨0xaa31, 0xaa32, 1⟩, .mark), (⟨0xaa35, 0xaa36, 1⟩, .mark), (⟨0xaa43, 0xaa43, 1⟩, .mark),
   (⟨0xaa4c, 0xaa4c, 1⟩, .mark), (⟨0xaa7c, 0xaa7c, 1⟩, .mark), (⟨0xaab0, 0xaab2, 2⟩, .mark),
   (⟨0xaab3, 0xaab4, 1⟩, .mark), (⟨0xaab7, 0xaab8, 1⟩, .mark), (⟨0xaabe, 0xaabf, 1⟩, .mark),
   (⟨0xaac1, 0xaac1, 1⟩, .mark), (⟨0xaaec, 0xaaed, 1⟩, .mark), (⟨0xaaf6, 0xaaf6, 1⟩, .mark),
   (⟨0xabe5, 0xabe5, 1⟩, .mark), (⟨0xabe8, 0xabe8, 1⟩, .mark), (⟨0xabed, 0xabed, 1⟩, .mark),
   (⟨0xfb1e, 0xfb1e, 1⟩, .mark), (⟨0xfe20, 0xfe2f, 1⟩, .mark), (⟨0xfe73, 0xfe73, 1⟩, .arabic),
   (⟨0x101fd, 0x101fd, 1⟩, .mark), (⟨0x102e0, 0x102e0, 1⟩, .mark), (⟨0x10376, 0x1037a, 1⟩, .mark),
   (⟨0x10800, 0x10805, 1⟩, .right), (⟨0x10808, 0x1080a, 2⟩, .right),
   (⟨0x1080b, 0x10835, 1⟩, .right), (⟨0x10837, 0x10838, 1⟩, .right),
   (⟨0x1083c, 0x1083c, 1⟩, .right), (⟨0x1083f, 0x10855, 1⟩, .right),
   (⟨0x10860, 0x10876, 1⟩, .right), (⟨0x10880, 0x1089e, 1⟩, .right),
   (⟨0x108e0, 0x108f2, 1⟩, .right), (⟨0x108f4, 0x108f5, 1⟩, .right),
   (⟨0x10900, 0x10915, 1⟩, .right), (⟨0x10920, 0x10939, 1⟩, .right),
   (⟨0x10980, 0x109b7, 1⟩, .right), (⟨0x109be, 0x109bf, 1⟩, .right),
   (⟨0x10a00, 0x10a00, 1⟩, .right)]

def directionSpansFrom10A01 : List (Span × Direction) :=
  [(⟨0x10a01, 0x10a03, 1⟩, .mark), (⟨0x10a05, 0x10a06, 1⟩, .mark), (⟨0x10a0c, 0x10a0f, 1⟩, .mark),
   (⟨0x10a10, 0x10a13, 1⟩, .right), (⟨0x10a15, 0x10a17, 1⟩, .right),
   (⟨0x10a19, 0x10a35, 1⟩, .right), (⟨0x10a38, 0x10a3a, 1⟩, .mark), (⟨0x10a3f, 0x10a3f, 1⟩, .mark),
   (⟨0x10a60, 0x10a7c, 1⟩, .right), (⟨0x10a80, 0x10a9c, 1⟩, .right),
   (⟨0x10ac0, 0x10ac7, 1⟩, .right), (⟨0x10ac9, 0x10ae4, 1⟩, .right), (⟨0x10ae5, 0x10ae6, 1⟩, .mark),
   (⟨0x10b00, 0x10b35, 1⟩, .right), (⟨0x10b40, 0x10b55, 1⟩, .right),
   (⟨0x10b60, 0x10b72, 1⟩, .right), (⟨0x10b80, 0x10b91, 1⟩, .right),
   (⟨0x10c00, 0x10c48, 1⟩, .right), (⟨0x10cc0, 0x10cf2, 1⟩, .right),
   (⟨0x10d00, 0x10d23, 1⟩, .arabic), (⟨0x10d24, 0x10d27, 1⟩, .mark),
   (⟨0x10d30, 0x10d39, 1⟩, .arabicDigit), (⟨0x10e80, 0x10ea9, 1⟩, .right),
   (⟨0x10eab, 0x10eac, 1⟩, .mark), (⟨0x10eb0, 0x10eb1, 1⟩, .right), (⟨0x10f00, 0x10f1c, 1⟩, .right),
   (⟨0x10f27, 0x10f27, 1⟩, .right), (⟨0x10f30, 0x10f45, 1⟩, .arabic),
   (⟨0x10f46, 0x10f50, 1⟩, .mark), (⟨0x10f70, 0x10f81, 1⟩, .right), (⟨0x10f82, 0x10f85, 1⟩, .mark),
   (⟨0x10fb0, 0x10fc4, 1⟩, .right), (⟨0x10fe0, 0x10ff6, 1⟩, .right), (⟨0x11001, 0x11001, 1⟩, .mark),
   (⟨0x11038, 0x11046, 1⟩, .mark), (⟨0x11070, 0x11070, 1⟩, .mark), (⟨0x11073, 0x11074, 1⟩, .mark),
   (⟨0x1107f, 0x11081, 1⟩, .mark), (⟨0x110b3, 0x110b6, 1⟩, .mark), (⟨0x110b9, 0x110ba, 1⟩, .mark),
   (⟨0x110c2, 0x110c2, 1⟩, .mark), (⟨0x11100, 0x11102, 1⟩, .mark), (⟨0x11127, 0x1112b, 1⟩, .mark),
   (⟨0x1112d, 0x11134, 1⟩, .mark), (⟨0x11173, 0x11173, 1⟩, .mark), (⟨0x11180, 0x11181, 1⟩, .mark),
   (⟨0x111b6, 0x111be, 1⟩, .mark), (⟨0x111c9, 0x111cc, 1⟩, .mark), (⟨0x111cf, 0x111cf, 1⟩, .mark),
   (⟨0x1122f, 0x11231, 1⟩, .mark), (⟨0x11234, 0x11236, 2⟩, .mark), (⟨0x11237, 0x11237, 1⟩, .mark),
   (⟨0x1123e, 0x1123e, 1⟩, .mark), (⟨0x112df, 0x112df, 1⟩, .mark), (⟨0x112e3, 0x112ea, 1⟩, .mark),
   (⟨0x11300, 0x11301, 1⟩, .mark), (⟨0x1133b, 0x1133c, 1⟩, .mark), (⟨0x11340, 0x11340, 1⟩, .mark),
   (⟨0x11366, 0x1136c, 1⟩, .mark), (⟨0x11370, 0x11374, 1⟩, .mark), (⟨0x11438, 0x1143f, 1⟩, .mark),
   (⟨0x11442, 0x11444, 1⟩, .mark), (⟨0x11446, 0x11446, 1⟩, .mark), (⟨0x1145e, 0x1145e, 1⟩, .mark),
   (⟨0x114b3, 0x114b8, 1⟩, .mark), (⟨0x114ba, 0x114ba, 1⟩, .mark), (⟨0x114bf, 0x114c0, 1⟩, .mark),
   (⟨0x114c2, 0x114c3, 1⟩, .mark), (⟨0x115b2, 0x115b5, 1⟩, .mark), (⟨0x115bc, 0x115bd, 1⟩, .mark),
   (⟨0x115bf, 0x115c0, 1⟩, .mark), (⟨0x115dc, 0x115dd, 1⟩, .mark), (⟨0x11633, 0x1163a, 1⟩, .mark),
   (⟨0x1163d, 0x1163f, 2⟩, .mark), (⟨0x11640, 0x11640, 1⟩, .mark), (⟨0x116ab, 0x116ad, 2⟩, .mark),
   (⟨0x116b0, 0x116b5, 1⟩, .mark), (⟨0x116b7, 0x116b7, 1⟩, .mark), (⟨0x1171d, 0x1171f, 1⟩, .mark),
   (⟨0x11722, 0x11725, 1⟩, .mark), (⟨0x11727, 0x1172b, 1⟩, .mark), (⟨0x1182f, 0x11837, 1⟩, .mark),
   (⟨0x11839, 0x1183a, 1⟩, .mark), (⟨0x1193b, 0x1193c, 1⟩, .mark), (⟨0x1193e, 0x1193e, 1⟩, .mark),
   (⟨0x11943, 0x11943, 1⟩, .mark), (⟨0x119d4, 0x119d7, 1⟩, .mark), (⟨0x119da, 0x119db, 1⟩, .mark),
   (⟨0x119e0, 0x119e0, 1⟩, .mark), (⟨0x11a01, 0x11a06, 1⟩, .mark)]

def directionSpansFrom11A09 : List (Span × Direction) :=
  [(⟨0x11a09, 0x11a0a, 1⟩, .mark), (⟨0x11a33, 0x11a38, 1⟩, .mark), (⟨0x11a3b, 0x11a3e, 1⟩, .mark),
   (⟨0x11a47, 0x11a47, 1⟩, .mark), (⟨0x11a51, 0x11a56, 1⟩, .mark), (⟨0x11a59, 0x11a5b, 1⟩, .mark),
   (⟨0x11a8a, 0x11a96, 1⟩, .mark), (⟨0x11a98, 0x11a99, 1⟩, .mark), (⟨0x11c30, 0x11c36, 1⟩, .mark),
   (⟨0x11c38, 0x11c3d, 1⟩, .mark), (⟨0x11c92, 0x11ca7, 1⟩, .mark), (⟨0x11caa, 0x11cb0, 1⟩, .mark),
   (⟨0x11cb2, 0x11cb3, 1⟩, .mark), (⟨0x11cb5, 0x11cb6, 1⟩, .mark), (⟨0x11d31, 0x11d36, 1⟩, .mark),
   (⟨0x11d3a, 0x11d3c, 2⟩, .mark), (⟨0x11d3d, 0x11d3f, 2⟩, .mark), (⟨0x11d40, 0x11d45, 1⟩, .mark),
   (⟨0x11d47, 0x11d47, 1⟩, .mark), (⟨0x11d90, 0x11d91, 1⟩, .mark), (⟨0x11d95, 0x11d97, 2⟩, .mark),
   (⟨0x11ef3, 0x11ef4, 1⟩, .mark), (⟨0x16af0, 0x16af4, 1⟩, .mark), (⟨0x16b30, 0x16b36, 1⟩, .mark),
   (⟨0x16f4f, 0x16f4f, 1⟩, .mark), (⟨0x16f8f, 0x16f92, 1⟩, .mark), (⟨0x16fe4, 0x16fe4, 1⟩, .mark),
   (⟨0x1bc9d, 0x1bc9e, 1⟩, .mark), (⟨0x1cf00, 0x1cf2d, 1⟩, .mark), (⟨0x1cf30, 0x1cf46, 1⟩, .mark),
   (⟨0x1da00, 0x1da36, 1⟩, .mark), (⟨0x1da3b, 0x1da6c, 1⟩, .mark), (⟨0x1da75, 0x1da75, 1⟩, .mark),
   (⟨0x1da84, 0x1da84, 1⟩, .mark), (⟨0x1da9b, 0x1da9f, 1⟩, .mark), (⟨0x1daa1, 0x1daaf, 1⟩, .mark),
   (⟨0x1e000, 0x1e006, 1⟩, .mark), (⟨0x1e008, 0x1e018, 1⟩, .mark), (⟨0x1e01b, 0x1e021, 1⟩, .mark),
   (⟨0x1e023, 0x1e024, 1⟩, .mark), (⟨0x1e026, 0x1e02a, 1⟩, .mark), (⟨0x1e130, 0x1e136, 1⟩, .mark),
   (⟨0x1e2ae, 0x1e2ae, 1⟩, .mark), (⟨0x1e2ec, 0x1e2ef, 1⟩, .mark), (⟨0x1e800, 0x1e8c4, 1⟩, .right),
   (⟨0x1e8d0, 0x1e8d6, 1⟩, .mark), (⟨0x1e922, 0x1e943, 1⟩, .right), (⟨0x1e944, 0x1e94a, 1⟩, .mark),
   (⟨0x1e94b, 0x1e94b, 1⟩, .right), (⟨0x1e950, 0x1e959, 1⟩, .right)]

/-- The characters that are not written from left to right. -/
def directionSpans : List (Span × Direction) :=
  directionSpansFrom2D ++ directionSpansFromB01 ++ directionSpansFrom1B00 ++
  directionSpansFrom10A01 ++ directionSpansFrom11A09

def direction (c : Char) : Direction :=
  (spanValue? directionSpans c).getD .left

end Karaoke.Http.Domain
