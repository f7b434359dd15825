import Std.Data.HashMap

/-!
# Characters that stand for one Latin letter

Accented and styled letters, and letters of other scripts whose romanisation is a single letter,
with the lower-case ASCII letter each stands for. ASCII itself is not listed.
-/

set_option autoImplicit false

namespace Karaoke.Text

def spansOfA : List (Nat × Nat) :=
  [(0xaa, 0xaa), (0xc0, 0xc5), (0xe0, 0xe5), (0x100, 0x105), (0x1cd, 0x1ce), (0x1de, 0x1e1),
   (0x1fa, 0x1fb), (0x200, 0x203), (0x226, 0x227), (0x23a, 0x23a), (0x250, 0x252), (0x363, 0x363),
   (0x386, 0x386), (0x391, 0x391), (0x3ac, 0x3ac), (0x3b1, 0x3b1), (0x410, 0x410), (0x430, 0x430),
   (0x4d0, 0x4d3), (0x531, 0x531), (0x561, 0x561), (0x5b2, 0x5b2), (0x5b7, 0x5b8), (0x5d0, 0x5d0),
   (0x622, 0x622), (0x64e, 0x64e), (0x730, 0x735), (0x7a6, 0x7a6), (0x905, 0x905), (0x985, 0x985),
   (0xa05, 0xa05), (0xa85, 0xa85), (0xb05, 0xb05), (0xb85, 0xb85), (0xc05, 0xc05), (0xc85, 0xc85),
   (0xd05, 0xd05), (0xd85, 0xd85), (0xe30, 0xe31), (0xeb0, 0xeb0), (0xf68, 0xf68), (0xfb8, 0xfb8),
   (0x1021, 0x1021), (0x10a0, 0x10a0), (0x10d0, 0x10d0), (0x1161, 0x1161), (0x13a0, 0x13a0),
   (0x140a, 0x140a), (0x15b3, 0x15b3), (0x1690, 0x1690), (0x16a8, 0x16a8), (0x16c6, 0x16c6),
   (0x17a3, 0x17a3), (0x17b4, 0x17b4), (0x1820, 0x1820), (0x1887, 0x1887), (0x1897, 0x1897),
   (0x1d00, 0x1d00), (0x1d2c, 0x1d2c), (0x1d43, 0x1d45), (0x1e00, 0x1e01), (0x1e9a, 0x1e9a),
   (0x1ea0, 0x1eb7), (0x1f00, 0x1f0f), (0x1f70, 0x1f71), (0x1f80, 0x1f8f), (0x1fb0, 0x1fb4),
   (0x1fb6, 0x1fbc), (0x2090, 0x2090), (0x20b3, 0x20b3), (0x212b, 0x212b), (0x24b6, 0x24b6),
   (0x24d0, 0x24d0), (0x2801, 0x2801), (0x2c65, 0x2c65), (0x2c6f, 0x2c6f), (0x3041, 0x3042),
   (0x30a1, 0x30a2), (0x311a, 0x311a), (0x314f, 0x314f), (0x32d0, 0x32d0), (0xa00a, 0xa00a),
   (0xc544, 0xc544), (0xfb21, 0xfb21), (0xfb2e, 0xfb30), (0xff21, 0xff21), (0xff41, 0xff41),
   (0xff67, 0xff67), (0xff71, 0xff71), (0xffc2, 0xffc2), (0x1d400, 0x1d400), (0x1d41a, 0x1d41a),
   (0x1d434, 0x1d434), (0x1d44e, 0x1d44e), (0x1d468, 0x1d468), (0x1d482, 0x1d482),
   (0x1d49c, 0x1d49c), (0x1d4b6, 0x1d4b6), (0x1d4d0, 0x1d4d0), (0x1d4ea, 0x1d4ea),
   (0x1d504, 0x1d504), (0x1d51e, 0x1d51e), (0x1d538, 0x1d538), (0x1d552, 0x1d552),
   (0x1d56c, 0x1d56c), (0x1d586, 0x1d586), (0x1d5a0, 0x1d5a0), (0x1d5ba, 0x1d5ba),
   (0x1d5d4, 0x1d5d4), (0x1d5ee, 0x1d5ee), (0x1d608, 0x1d608), (0x1d622, 0x1d622),
   (0x1d63c, 0x1d63c), (0x1d656, 0x1d656), (0x1d670, 0x1d670), (0x1d68a, 0x1d68a)]

def spansOfB : List (Nat × Nat) :=
  [(0x180, 0x183), (0x243, 0x243), (0x253, 0x253), (0x299, 0x299), (0x392, 0x392), (0x3b2, 0x3b2),
   (0x3d0, 0x3d0), (0x411, 0x411), (0x431, 0x431), (0x532, 0x532), (0x562, 0x562), (0x5d1, 0x5d1),
   (0x628, 0x628), (0x67b, 0x67b), (0x712, 0x712), (0x784, 0x784), (0x92c, 0x92c), (0x9ac, 0x9ac),
   (0xa2c, 0xa2c), (0xaac, 0xaac), (0xb2c, 0xb2c), (0xc2c, 0xc2c), (0xcac, 0xcac), (0xd2c, 0xd2c),
   (0xdb6, 0xdb6), (0xe1a, 0xe1a), (0xe9a, 0xe9a), (0xf56, 0xf56), (0xfa6, 0xfa6), (0x1017, 0x1017),
   (0x10a1, 0x10a1), (0x10d1, 0x10d1), (0x1107, 0x1107), (0x1144, 0x1144), (0x11b8, 0x11b8),
   (0x15af, 0x15af), (0x1681, 0x1681), (0x16d2, 0x16d3), (0x1796, 0x1796), (0x182a, 0x182a),
   (0x184b, 0x184b), (0x1d03, 0x1d03), (0x1d2e, 0x1d2f), (0x1d47, 0x1d47), (0x1d5d, 0x1d5d),
   (0x1d66, 0x1d66), (0x1d6c, 0x1d6c), (0x1d80, 0x1d80), (0x1e02, 0x1e07), (0x212c, 0x212c),
   (0x24b7, 0x24b7), (0x24d1, 0x24d1), (0x2803, 0x2803), (0x3105, 0x3105), (0x3142, 0x3142),
   (0xfb31, 0xfb31), (0xff22, 0xff22), (0xff42, 0xff42), (0xffb2, 0xffb2), (0x1d401, 0x1d401),
   (0x1d41b, 0x1d41b), (0x1d435, 0x1d435), (0x1d44f, 0x1d44f), (0x1d469, 0x1d469),
   (0x1d483, 0x1d483), (0x1d4b7, 0x1d4b7), (0x1d4d1, 0x1d4d1), (0x1d4eb, 0x1d4eb),
   (0x1d505, 0x1d505), (0x1d51f, 0x1d51f), (0x1d539, 0x1d539), (0x1d553, 0x1d553),
   (0x1d56d, 0x1d56d), (0x1d587, 0x1d587), (0x1d5a1, 0x1d5a1), (0x1d5bb, 0x1d5bb),
   (0x1d5d5, 0x1d5d5), (0x1d5ef, 0x1d5ef), (0x1d609, 0x1d609), (0x1d623, 0x1d623),
   (0x1d63d, 0x1d63d), (0x1d657, 0x1d657), (0x1d671, 0x1d671), (0x1d68b, 0x1d68b)]

def spansOfC : List (Nat × Nat) :=
  [(0xc7, 0xc7), (0xe7, 0xe7), (0x106, 0x10d), (0x187, 0x188), (0x23b, 0x23c), (0x255, 0x255),
   (0x297, 0x297), (0x368, 0x368), (0x3f2, 0x3f2), (0x91a, 0x91a), (0x99a, 0x99a), (0xa1a, 0xa1a),
   (0xa9a, 0xa9a), (0xb1a, 0xb1a), (0xb9a, 0xb9a), (0xc1a, 0xc1a), (0xc9a, 0xc9a), (0xd1a, 0xd1a),
   (0xda0, 0xda0), (0xf45, 0xf45), (0xf95, 0xf95), (0x1005, 0x1005), (0x10bc, 0x10bc),
   (0x10ec, 0x10ec), (0x110e, 0x110e), (0x1149, 0x1149), (0x11be, 0x11be), (0x1428, 0x1428),
   (0x14a1, 0x14a1), (0x1689, 0x1689), (0x16b3, 0x16b3), (0x16cd, 0x16cd), (0x1785, 0x1785),
   (0x188b, 0x188b), (0x189c, 0x189c), (0x1d04, 0x1d04), (0x1e08, 0x1e09), (0x2102, 0x2102),
   (0x212d, 0x212d), (0x216d, 0x216d), (0x217d, 0x217d), (0x24b8, 0x24b8), (0x24d2, 0x24d2),
   (0x2809, 0x2809), (0x3118, 0x3118), (0x314a, 0x314a), (0xff23, 0xff23), (0xff43, 0xff43),
   (0xffba, 0xffba), (0x1d402, 0x1d402), (0x1d41c, 0x1d41c), (0x1d436, 0x1d436), (0x1d450, 0x1d450),
   (0x1d46a, 0x1d46a), (0x1d484, 0x1d484), (0x1d49e, 0x1d49e), (0x1d4b8, 0x1d4b8),
   (0x1d4d2, 0x1d4d2), (0x1d4ec, 0x1d4ec), (0x1d520, 0x1d520), (0x1d554, 0x1d554),
   (0x1d56e, 0x1d56e), (0x1d588, 0x1d588), (0x1d5a2, 0x1d5a2), (0x1d5bc, 0x1d5bc),
   (0x1d5d6, 0x1d5d6), (0x1d5f0, 0x1d5f0), (0x1d60a, 0x1d60a), (0x1d624, 0x1d624),
   (0x1d63e, 0x1d63e), (0x1d658, 0x1d658), (0x1d672, 0x1d672), (0x1d68c, 0x1d68c)]

def spansOfD : List (Nat × Nat) :=
  [(0xd0, 0xd0), (0xf0, 0xf0), (0x10e, 0x111), (0x189, 0x18d), (0x221, 0x221), (0x256, 0x257),
   (0x369, 0x369), (0x394, 0x394), (0x3b4, 0x3b4), (0x414, 0x414), (0x434, 0x434), (0x534, 0x534),
   (0x564, 0x564), (0x5d3, 0x5d3), (0x62f, 0x62f), (0x636, 0x636), (0x689, 0x68a), (0x68e, 0x690),
   (0x6fb, 0x6fb), (0x715, 0x716), (0x791, 0x791), (0x79f, 0x79f), (0x926, 0x926), (0x9a6, 0x9a6),
   (0xa26, 0xa26), (0xaa6, 0xaa6), (0xb26, 0xb26), (0xc26, 0xc26), (0xca6, 0xca6), (0xd26, 0xd26),
   (0xdaf, 0xdaf), (0xe0e, 0xe0e), (0xe14, 0xe14), (0xe94, 0xe94), (0xf51, 0xf51), (0xfa1, 0xfa1),
   (0x1012, 0x1012), (0x10a3, 0x10a3), (0x10d3, 0x10d3), (0x1103, 0x1103), (0x1142, 0x1142),
   (0x11ae, 0x11ae), (0x1687, 0x1687), (0x16d1, 0x16d1), (0x16de, 0x16de), (0x178c, 0x178c),
   (0x1791, 0x1791), (0x1833, 0x1833), (0x1851, 0x1851), (0x1869, 0x1869), (0x1891, 0x1891),
   (0x1d05, 0x1d06), (0x1d30, 0x1d30), (0x1d48, 0x1d48), (0x1d5f, 0x1d5f), (0x1d6d, 0x1d6d),
   (0x1d81, 0x1d81), (0x1e0a, 0x1e13), (0x20ab, 0x20ab), (0x2145, 0x2146), (0x216e, 0x216e),
   (0x217e, 0x217e), (0x24b9, 0x24b9), (0x24d3, 0x24d3), (0x2819, 0x2819), (0x3109, 0x3109),
   (0x3137, 0x3137), (0xfb22, 0xfb22), (0xfb33, 0xfb33), (0xff24, 0xff24), (0xff44, 0xff44),
   (0xffa7, 0xffa7), (0x1d403, 0x1d403), (0x1d41d, 0x1d41d), (0x1d437, 0x1d437), (0x1d451, 0x1d451),
   (0x1d46b, 0x1d46b), (0x1d485, 0x1d485), (0x1d49f, 0x1d49f), (0x1d4b9, 0x1d4b9),
   (0x1d4d3, 0x1d4d3), (0x1d4ed, 0x1d4ed), (0x1d507, 0x1d507), (0x1d521, 0x1d521),
   (0x1d53b, 0x1d53b), (0x1d555, 0x1d555), (0x1d56f, 0x1d56f), (0x1d589, 0x1d589),
   (0x1d5a3, 0x1d5a3), (0x1d5bd, 0x1d5bd), (0x1d5d7, 0x1d5d7), (0x1d5f1, 0x1d5f1),
   (0x1d60b, 0x1d60b), (0x1d625, 0x1d625), (0x1d63f, 0x1d63f), (0x1d659, 0x1d659),
   (0x1d673, 0x1d673), (0x1d68d, 0x1d68d)]

def spansOfE : List (Nat × Nat) :=
  [(0xc8, 0xcb), (0xe8, 0xeb), (0x112, 0x11b), (0x190, 0x190), (0x204, 0x207), (0x228, 0x229),
   (0x246, 0x247), (0x258, 0x258), (0x25b, 0x25e), (0x29a, 0x29a), (0x364, 0x364), (0x388, 0x389),
   (0x395, 0x395), (0x397, 0x397), (0x3ad, 0x3ae), (0x3b5, 0x3b5), (0x3b7, 0x3b7), (0x415, 0x415),
   (0x42d, 0x42d), (0x435, 0x435), (0x44d, 0x44d), (0x462, 0x463), (0x466, 0x467), (0x4ec, 0x4ed),
   (0x535, 0x535), (0x537, 0x538), (0x565, 0x565), (0x567, 0x568), (0x5b1, 0x5b1), (0x5b5, 0x5b6),
   (0x736, 0x739), (0x7ac, 0x7ac), (0x90e, 0x90f), (0x946, 0x947), (0x98f, 0x98f), (0x9c7, 0x9c7),
   (0xa8f, 0xa8f), (0xac7, 0xac7), (0xb0f, 0xb0f), (0xb47, 0xb47), (0xb8e, 0xb8e), (0xbc6, 0xbc6),
   (0xc0e, 0xc0e), (0xc46, 0xc46), (0xc8e, 0xc8e), (0xcc6, 0xcc6), (0xd0e, 0xd0e), (0xd46, 0xd46),
   (0xd91, 0xd91), (0xdd9, 0xdd9), (0xe40, 0xe40), (0xec0, 0xec0), (0xf7a, 0xf7a), (0x1027, 0x1027),
   (0x1031, 0x1031), (0x10a4, 0x10a4), (0x10c1, 0x10c1), (0x10d4, 0x10d4), (0x10f1, 0x10f1),
   (0x1166, 0x1166), (0x13a1, 0x13a1), (0x1401, 0x1401), (0x15b0, 0x15b0), (0x1693, 0x1693),
   (0x16c2, 0x16c2), (0x16d6, 0x16d6), (0x17af, 0x17af), (0x17c1, 0x17c1), (0x1821, 0x1821),
   (0x1844, 0x1844), (0x185d, 0x185d), (0x1d07, 0x1d08), (0x1d31, 0x1d32), (0x1d49, 0x1d49),
   (0x1d4b, 0x1d4c), (0x1e14, 0x1e1d), (0x1eb8, 0x1ec7), (0x1f10, 0x1f15), (0x1f18, 0x1f1d),
   (0x1f20, 0x1f2f), (0x1f72, 0x1f75), (0x1f90, 0x1f9f), (0x1fc2, 0x1fc4), (0x1fc6, 0x1fcc),
   (0x2091, 0x2091), (0x212e, 0x2130), (0x2147, 0x2147), (0x24ba, 0x24ba), (0x24d4, 0x24d4),
   (0x2811, 0x2811), (0x3047, 0x3048), (0x30a7, 0x30a8), (0x311c, 0x311c), (0x3154, 0x3154),
   (0xa014, 0xa014), (0xc5d0, 0xc5d0), (0xff25, 0xff25), (0xff45, 0xff45), (0xff6a, 0xff6a),
   (0xff74, 0xff74), (0xffc7, 0xffc7), (0x1d404, 0x1d404), (0x1d41e, 0x1d41e), (0x1d438, 0x1d438),
   (0x1d452, 0x1d452), (0x1d46c, 0x1d46c), (0x1d486, 0x1d486), (0x1d4d4, 0x1d4d4),
   (0x1d4ee, 0x1d4ee), (0x1d508, 0x1d508), (0x1d522, 0x1d522), (0x1d53c, 0x1d53c),
   (0x1d556, 0x1d556), (0x1d570, 0x1d570), (0x1d58a, 0x1d58a), (0x1d5a4, 0x1d5a4),
   (0x1d5be, 0x1d5be), (0x1d5d8, 0x1d5d8), (0x1d5f2, 0x1d5f2), (0x1d60c, 0x1d60c),
   (0x1d626, 0x1d626), (0x1d640, 0x1d640), (0x1d65a, 0x1d65a), (0x1d674, 0x1d674),
   (0x1d68e, 0x1d68e)]

def spansOfF : List (Nat × Nat) :=
  [(0x191, 0x192), (0x278, 0x278), (0x3e4, 0x3e5), (0x424, 0x424), (0x444, 0x444), (0x472, 0x473),
   (0x556, 0x556), (0x586, 0x586), (0x641, 0x641), (0x6a1, 0x6a3), (0x6a5, 0x6a5), (0x78a, 0x78a),
   (0x95e, 0x95e), (0xa5e, 0xa5e), (0xdc6, 0xdc6), (0xe1d, 0xe1d), (0xe1f, 0xe1f), (0xe9d, 0xe9d),
   (0xe9f, 0xe9f), (0x10f6, 0x10f6), (0x155d, 0x155d), (0x1683, 0x1683), (0x16a0, 0x16a0),
   (0x1839, 0x1839), (0x186b, 0x186b), (0x1876, 0x1876), (0x1d60, 0x1d60), (0x1d69, 0x1d69),
   (0x1d6e, 0x1d6e), (0x1d82, 0x1d82), (0x1e1e, 0x1e1f), (0x2131, 0x2132), (0x214e, 0x214e),
   (0x24bb, 0x24bb), (0x24d5, 0x24d5), (0x280b, 0x280b), (0x3108, 0x3108), (0xfb4e, 0xfb4e),
   (0xff26, 0xff26), (0xff46, 0xff46), (0x1d405, 0x1d405), (0x1d41f, 0x1d41f), (0x1d439, 0x1d439),
   (0x1d453, 0x1d453), (0x1d46d, 0x1d46d), (0x1d487, 0x1d487), (0x1d4bb, 0x1d4bb),
   (0x1d4d5, 0x1d4d5), (0x1d4ef, 0x1d4ef), (0x1d509, 0x1d509), (0x1d523, 0x1d523),
   (0x1d53d, 0x1d53d), (0x1d557, 0x1d557), (0x1d571, 0x1d571), (0x1d58b, 0x1d58b),
   (0x1d5a5, 0x1d5a5), (0x1d5bf, 0x1d5bf), (0x1d5d9, 0x1d5d9), (0x1d5f3, 0x1d5f3),
   (0x1d60d, 0x1d60d), (0x1d627, 0x1d627), (0x1d641, 0x1d641), (0x1d65b, 0x1d65b),
   (0x1d675, 0x1d675), (0x1d68f, 0x1d68f)]

def spansOfG : List (Nat × Nat) :=
  [(0x11c, 0x123), (0x193, 0x194), (0x1e4, 0x1e7), (0x1f4, 0x1f5), (0x260, 0x263), (0x29b, 0x29b),
   (0x2e0, 0x2e0), (0x393, 0x393), (0x3b3, 0x3b3), (0x3ea, 0x3eb), (0x413, 0x413), (0x433, 0x433),
   (0x533, 0x533), (0x563, 0x563), (0x5d2, 0x5d2), (0x63a, 0x63a), (0x6af, 0x6b0), (0x6b2, 0x6b4),
   (0x713, 0x714), (0x78e, 0x78e), (0x917, 0x917), (0x997, 0x997), (0xa17, 0xa17), (0xa97, 0xa97),
   (0xb17, 0xb17), (0xc17, 0xc17), (0xc97, 0xc97), (0xd17, 0xd17), (0xd9c, 0xd9c), (0xf42, 0xf42),
   (0xf92, 0xf92), (0x1002, 0x1002), (0x10a2, 0x10a2), (0x10d2, 0x10d2), (0x1100, 0x1100),
   (0x1141, 0x1141), (0x11a8, 0x11a8), (0x11ec, 0x11ec), (0x168c, 0x168c), (0x16b5, 0x16b5),
   (0x16b7, 0x16b8), (0x16c4, 0x16c4), (0x1782, 0x1782), (0x182d, 0x182d), (0x184e, 0x184e),
   (0x1858, 0x1858), (0x1864, 0x1864), (0x186c, 0x186c), (0x1d33, 0x1d33), (0x1d4d, 0x1d4d),
   (0x1d5e, 0x1d5e), (0x1d67, 0x1d67), (0x1d77, 0x1d77), (0x1d83, 0x1d83), (0x1e20, 0x1e21),
   (0x20b2, 0x20b2), (0x210a, 0x210a), (0x24bc, 0x24bc), (0x24d6, 0x24d6), (0x281b, 0x281b),
   (0x310d, 0x310d), (0x3131, 0x3131), (0xfb32, 0xfb32), (0xff27, 0xff27), (0xff47, 0xff47),
   (0xffa1, 0xffa1), (0x1d406, 0x1d406), (0x1d420, 0x1d420), (0x1d43a, 0x1d43a), (0x1d454, 0x1d454),
   (0x1d46e, 0x1d46e), (0x1d488, 0x1d488), (0x1d4a2, 0x1d4a2), (0x1d4d6, 0x1d4d6),
   (0x1d4f0, 0x1d4f0), (0x1d50a, 0x1d50a), (0x1d524, 0x1d524), (0x1d53e, 0x1d53e),
   (0x1d558, 0x1d558), (0x1d572, 0x1d572), (0x1d58c, 0x1d58c), (0x1d5a6, 0x1d5a6),
   (0x1d5c0, 0x1d5c0), (0x1d5da, 0x1d5da), (0x1d5f4, 0x1d5f4), (0x1d60e, 0x1d60e),
   (0x1d628, 0x1d628), (0x1d642, 0x1d642), (0x1d65c, 0x1d65c), (0x1d676, 0x1d676),
   (0x1d690, 0x1d690)]

def spansOfH : List (Nat × Nat) :=
  [(0x124, 0x127), (0x21e, 0x21f), (0x266, 0x267), (0x29c, 0x29c), (0x2ae, 0x2b1), (0x36a, 0x36a),
   (0x3e8, 0x3e9), (0x4ba, 0x4bb), (0x540, 0x540), (0x570, 0x570), (0x5d4, 0x5d4), (0x5d7, 0x5d7),
   (0x62d, 0x62d), (0x647, 0x647), (0x682, 0x682), (0x685, 0x685), (0x6be, 0x6be), (0x6c1, 0x6c2),
   (0x717, 0x717), (0x71a, 0x71a), (0x780, 0x780), (0x903, 0x903), (0x939, 0x939), (0x983, 0x983),
   (0x9b9, 0x9b9), (0xa39, 0xa39), (0xa71, 0xa71), (0xa83, 0xa83), (0xab9, 0xab9), (0xb03, 0xb03),
   (0xb39, 0xb39), (0xb83, 0xb83), (0xbb9, 0xbb9), (0xc03, 0xc03), (0xc39, 0xc39), (0xc83, 0xc83),
   (0xcb9, 0xcb9), (0xd03, 0xd03), (0xd39, 0xd39), (0xd83, 0xd83), (0xdc4, 0xdc4), (0xe2b, 0xe2b),
   (0xe2e, 0xe2e), (0xe95, 0xe95), (0xeab, 0xeab), (0xf67, 0xf67), (0xf7f, 0xf7f), (0xfb7, 0xfb7),
   (0x101f, 0x101f), (0x10c0, 0x10c0), (0x10f0, 0x10f0), (0x1112, 0x1112), (0x11c2, 0x11c2),
   (0x144b, 0x144b), (0x157b, 0x157c), (0x1686, 0x1686), (0x16ba, 0x16bd), (0x17a0, 0x17a0),
   (0x17c7, 0x17c7), (0x183e, 0x183e), (0x1859, 0x1859), (0x1865, 0x1865), (0x186d, 0x186d),
   (0x1881, 0x1881), (0x1d34, 0x1d34), (0x1e22, 0x1e2b), (0x1e96, 0x1e96), (0x2095, 0x2095),
   (0x210b, 0x210e), (0x24bd, 0x24bd), (0x24d7, 0x24d7), (0x2813, 0x2813), (0x2c67, 0x2c68),
   (0x310f, 0x310f), (0x314e, 0x314e), (0x31b7, 0x31b7), (0xfb23, 0xfb23), (0xfb34, 0xfb34),
   (0xff28, 0xff28), (0xff48, 0xff48), (0xffbe, 0xffbe), (0x1d407, 0x1d407), (0x1d421, 0x1d421),
   (0x1d43b, 0x1d43b), (0x1d46f, 0x1d46f), (0x1d489, 0x1d489), (0x1d4bd, 0x1d4bd),
   (0x1d4d7, 0x1d4d7), (0x1d4f1, 0x1d4f1), (0x1d525, 0x1d525), (0x1d559, 0x1d559),
   (0x1d573, 0x1d573), (0x1d58d, 0x1d58d), (0x1d5a7, 0x1d5a7), (0x1d5c1, 0x1d5c1),
   (0x1d5db, 0x1d5db), (0x1d5f5, 0x1d5f5), (0x1d60f, 0x1d60f), (0x1d629, 0x1d629),
   (0x1d643, 0x1d643), (0x1d65d, 0x1d65d), (0x1d677, 0x1d677), (0x1d691, 0x1d691)]

def spansOfI : List (Nat × Nat) :=
  [(0xcc, 0xcf), (0xec, 0xef), (0x128, 0x131), (0x196, 0x197), (0x1cf, 0x1d0), (0x208, 0x20b),
   (0x268, 0x26a), (0x365, 0x365), (0x38a, 0x38a), (0x390, 0x390), (0x399, 0x399), (0x3aa, 0x3aa),
   (0x3af, 0x3af), (0x3b9, 0x3b9), (0x3ca, 0x3ca), (0x406, 0x406), (0x40d, 0x40d), (0x418, 0x419),
   (0x438, 0x439), (0x456, 0x456), (0x45d, 0x45d), (0x4e2, 0x4e5), (0x53b, 0x53b), (0x56b, 0x56b),
   (0x5b4, 0x5b4), (0x650, 0x650), (0x73a, 0x73b), (0x7a8, 0x7a8), (0x907, 0x907), (0x93f, 0x93f),
   (0x987, 0x987), (0x9bf, 0x9bf), (0xa07, 0xa07), (0xa3f, 0xa3f), (0xa87, 0xa87), (0xabf, 0xabf),
   (0xb07, 0xb07), (0xb3f, 0xb3f), (0xb87, 0xb87), (0xbbf, 0xbbf), (0xc07, 0xc07), (0xc3f, 0xc3f),
   (0xc87, 0xc87), (0xcbf, 0xcbf), (0xd07, 0xd07), (0xd3f, 0xd3f), (0xd89, 0xd89), (0xdd2, 0xdd2),
   (0xe34, 0xe34), (0xeb4, 0xeb4), (0xf72, 0xf72), (0xf80, 0xf80), (0x1023, 0x1023),
   (0x102d, 0x102d), (0x10a8, 0x10a8), (0x10d8, 0x10d8), (0x1175, 0x1175), (0x13a2, 0x13a2),
   (0x1403, 0x1403), (0x1409, 0x1409), (0x15b1, 0x15b1), (0x1694, 0x1694), (0x16c1, 0x16c1),
   (0x17a5, 0x17a5), (0x17b7, 0x17b7), (0x1822, 0x1822), (0x1845, 0x1845), (0x185e, 0x185e),
   (0x1873, 0x1873), (0x1888, 0x1888), (0x1d09, 0x1d09), (0x1d35, 0x1d35), (0x1d4e, 0x1d4e),
   (0x1d62, 0x1d62), (0x1e2c, 0x1e2f), (0x1ec8, 0x1ecb), (0x1f30, 0x1f3f), (0x1f76, 0x1f77),
   (0x1fbe, 0x1fbe), (0x1fd0, 0x1fd3), (0x1fd6, 0x1fdb), (0x2071, 0x2071), (0x2110, 0x2111),
   (0x2139, 0x2139), (0x2148, 0x2148), (0x2160, 0x2160), (0x2170, 0x2170), (0x24be, 0x24be),
   (0x24d8, 0x24d8), (0x280a, 0x280a), (0x3043, 0x3044), (0x30a3, 0x30a4), (0x3127, 0x3127),
   (0x3163, 0x3163), (0x32d1, 0x32d1), (0xa002, 0xa002), (0xc774, 0xc774), (0xfb1d, 0xfb1d),
   (0xff29, 0xff29), (0xff49, 0xff49), (0xff68, 0xff68), (0xff72, 0xff72), (0xffdc, 0xffdc),
   (0x1d408, 0x1d408), (0x1d422, 0x1d422), (0x1d43c, 0x1d43c), (0x1d456, 0x1d456),
   (0x1d470, 0x1d470), (0x1d48a, 0x1d48a), (0x1d4be, 0x1d4be), (0x1d4d8, 0x1d4d8),
   (0x1d4f2, 0x1d4f2), (0x1d526, 0x1d526), (0x1d540, 0x1d540), (0x1d55a, 0x1d55a),
   (0x1d574, 0x1d574), (0x1d58e, 0x1d58e), (0x1d5a8, 0x1d5a8), (0x1d5c2, 0x1d5c2),
   (0x1d5dc, 0x1d5dc), (0x1d5f6, 0x1d5f6), (0x1d610, 0x1d610), (0x1d62a, 0x1d62a),
   (0x1d644, 0x1d644), (0x1d65e, 0x1d65e), (0x1d678, 0x1d678), (0x1d692, 0x1d692),
   (0x1d6a4, 0x1d6a4)]

def spansOfJ : List (Nat × Nat) :=
  [(0x134, 0x135), (0x1f0, 0x1f0), (0x237, 0x237), (0x248, 0x249), (0x25f, 0x25f), (0x284, 0x284),
   (0x29d, 0x29d), (0x2b2, 0x2b2), (0x3f3, 0x3f3), (0x408, 0x408), (0x458, 0x458), (0x54b, 0x54b),
   (0x57b, 0x57b), (0x62c, 0x62c), (0x698, 0x698), (0x796, 0x796), (0x91c, 0x91c), (0x99c, 0x99c),
   (0xa1c, 0xa1c), (0xa9c, 0xa9c), (0xb1c, 0xb1c), (0xb9c, 0xb9c), (0xc1c, 0xc1c), (0xc9c, 0xc9c),
   (0xd1c, 0xd1c), (0xda2, 0xda2), (0xf47, 0xf47), (0xf97, 0xf97), (0x1007, 0x1007),
   (0x10bf, 0x10bf), (0x10ef, 0x10ef), (0x110c, 0x110c), (0x1148, 0x1148), (0x114d, 0x114d),
   (0x11bd, 0x11bd), (0x16c3, 0x16c3), (0x1787, 0x1787), (0x1835, 0x1835), (0x1853, 0x1853),
   (0x186a, 0x186a), (0x1d0a, 0x1d0a), (0x1d36, 0x1d36), (0x2149, 0x2149), (0x24bf, 0x24bf),
   (0x24d9, 0x24d9), (0x281a, 0x281a), (0x3110, 0x3110), (0x3148, 0x3148), (0xff2a, 0xff2a),
   (0xff4a, 0xff4a), (0xffb8, 0xffb8), (0x1d409, 0x1d409), (0x1d423, 0x1d423), (0x1d43d, 0x1d43d),
   (0x1d457, 0x1d457), (0x1d471, 0x1d471), (0x1d48b, 0x1d48b), (0x1d4a5, 0x1d4a5),
   (0x1d4bf, 0x1d4bf), (0x1d4d9, 0x1d4d9), (0x1d4f3, 0x1d4f3), (0x1d50d, 0x1d50d),
   (0x1d527, 0x1d527), (0x1d541, 0x1d541), (0x1d55b, 0x1d55b), (0x1d575, 0x1d575),
   (0x1d58f, 0x1d58f), (0x1d5a9, 0x1d5a9), (0x1d5c3, 0x1d5c3), (0x1d5dd, 0x1d5dd),
   (0x1d5f7, 0x1d5f7), (0x1d611, 0x1d611), (0x1d62b, 0x1d62b), (0x1d645, 0x1d645),
   (0x1d65f, 0x1d65f), (0x1d679, 0x1d679), (0x1d693, 0x1d693), (0x1d6a5, 0x1d6a5)]

def spansOfK : List (Nat × Nat) :=
  [(0x136, 0x138), (0x198, 0x199), (0x1e8, 0x1e9), (0x29e, 0x29e), (0x39a, 0x39a), (0x3ba, 0x3ba),
   (0x3f0, 0x3f0), (0x41a, 0x41a), (0x43a, 0x43a), (0x53f, 0x53f), (0x56f, 0x56f), (0x5e7, 0x5e7),
   (0x643, 0x643), (0x6aa, 0x6ac), (0x6ae, 0x6ae), (0x71f, 0x71f), (0x786, 0x786), (0x915, 0x915),
   (0x995, 0x995), (0xa15, 0xa15), (0xa95, 0xa95), (0xb15, 0xb15), (0xb95, 0xb95), (0xc15, 0xc15),
   (0xc95, 0xc95), (0xd15, 0xd15), (0xd9a, 0xd9a), (0xe01, 0xe01), (0xe81, 0xe81), (0xf40, 0xf40),
   (0xf90, 0xf90), (0x1000, 0x1000), (0x10a9, 0x10a9), (0x10d9, 0x10d9), (0x110f, 0x110f),
   (0x11bf, 0x11bf), (0x1420, 0x1420), (0x1483, 0x1483), (0x16b2, 0x16b2), (0x16b4, 0x16b4),
   (0x1780, 0x1780), (0x183a, 0x183a), (0x1857, 0x1857), (0x1863, 0x1863), (0x1874, 0x1874),
   (0x1889, 0x1889), (0x1d0b, 0x1d0b), (0x1d37, 0x1d37), (0x1d4f, 0x1d4f), (0x1d84, 0x1d84),
   (0x1e30, 0x1e35), (0x2096, 0x2096), (0x20ad, 0x20ad), (0x212a, 0x212a), (0x24c0, 0x24c0),
   (0x24da, 0x24da), (0x2805, 0x2805), (0x2c69, 0x2c6a), (0x310e, 0x310e), (0x314b, 0x314b),
   (0x31b6, 0x31b6), (0xfb47, 0xfb47), (0xff2b, 0xff2b), (0xff4b, 0xff4b), (0xffbb, 0xffbb),
   (0x1d40a, 0x1d40a), (0x1d424, 0x1d424), (0x1d43e, 0x1d43e), (0x1d458, 0x1d458),
   (0x1d472, 0x1d472), (0x1d48c, 0x1d48c), (0x1d4a6, 0x1d4a6), (0x1d4c0, 0x1d4c0),
   (0x1d4da, 0x1d4da), (0x1d4f4, 0x1d4f4), (0x1d50e, 0x1d50e), (0x1d528, 0x1d528),
   (0x1d542, 0x1d542), (0x1d55c, 0x1d55c), (0x1d576, 0x1d576), (0x1d590, 0x1d590),
   (0x1d5aa, 0x1d5aa), (0x1d5c4, 0x1d5c4), (0x1d5de, 0x1d5de), (0x1d5f8, 0x1d5f8),
   (0x1d612, 0x1d612), (0x1d62c, 0x1d62c), (0x1d646, 0x1d646), (0x1d660, 0x1d660),
   (0x1d67a, 0x1d67a), (0x1d694, 0x1d694)]

def spansOfL : List (Nat × Nat) :=
  [(0x139, 0x142), (0x19a, 0x19b), (0x234, 0x234), (0x23d, 0x23d), (0x26b, 0x26d), (0x29f, 0x29f),
   (0x2e1, 0x2e1), (0x39b, 0x39b), (0x3bb, 0x3bb), (0x41b, 0x41b), (0x43b, 0x43b), (0x53c, 0x53c),
   (0x56c, 0x56c), (0x5dc, 0x5dc), (0x644, 0x644), (0x6b5, 0x6b8), (0x720, 0x720), (0x785, 0x785),
   (0x78d, 0x78d), (0x90c, 0x90c), (0x932, 0x933), (0x962, 0x962), (0x9b2, 0x9b2), (0x9e2, 0x9e2),
   (0xa32, 0xa32), (0xab2, 0xab2), (0xb0c, 0xb0c), (0xb32, 0xb32), (0xbb2, 0xbb2), (0xc0c, 0xc0c),
   (0xc32, 0xc32), (0xc8c, 0xc8c), (0xcb2, 0xcb2), (0xd0c, 0xd0c), (0xd32, 0xd32), (0xd8f, 0xd8f),
   (0xdbd, 0xdbd), (0xddf, 0xddf), (0xe25, 0xe26), (0xe2c, 0xe2c), (0xea5, 0xea5), (0xebc, 0xebc),
   (0xf63, 0xf63), (0xf78, 0xf78), (0xfb3, 0xfb3), (0x101c, 0x101c), (0x1054, 0x1054),
   (0x1058, 0x1058), (0x10aa, 0x10aa), (0x10da, 0x10da), (0x11af, 0x11af), (0x142a, 0x142a),
   (0x14ea, 0x14ec), (0x1682, 0x1682), (0x16da, 0x16db), (0x179b, 0x179b), (0x17a1, 0x17a1),
   (0x182f, 0x182f), (0x1d0c, 0x1d0c), (0x1d38, 0x1d38), (0x1d85, 0x1d85), (0x1e36, 0x1e3d),
   (0x2097, 0x2097), (0x20a4, 0x20a4), (0x20b6, 0x20b6), (0x20ba, 0x20ba), (0x20be, 0x20be),
   (0x2112, 0x2113), (0x216c, 0x216c), (0x217c, 0x217c), (0x24c1, 0x24c1), (0x24db, 0x24db),
   (0x2807, 0x2807), (0x2c60, 0x2c62), (0x310c, 0x310c), (0xfb25, 0xfb25), (0xfb3c, 0xfb3c),
   (0xff2c, 0xff2c), (0xff4c, 0xff4c), (0x1d40b, 0x1d40b), (0x1d425, 0x1d425), (0x1d43f, 0x1d43f),
   (0x1d459, 0x1d459), (0x1d473, 0x1d473), (0x1d48d, 0x1d48d), (0x1d4c1, 0x1d4c1),
   (0x1d4db, 0x1d4db), (0x1d4f5, 0x1d4f5), (0x1d50f, 0x1d50f), (0x1d529, 0x1d529),
   (0x1d543, 0x1d543), (0x1d55d, 0x1d55d), (0x1d577, 0x1d577), (0x1d591, 0x1d591),
   (0x1d5ab, 0x1d5ab), (0x1d5c5, 0x1d5c5), (0x1d5df, 0x1d5df), (0x1d5f9, 0x1d5f9),
   (0x1d613, 0x1d613), (0x1d62d, 0x1d62d), (0x1d647, 0x1d647), (0x1d661, 0x1d661),
   (0x1d67b, 0x1d67b), (0x1d695, 0x1d695)]

def spansOfM : List (Nat × Nat) :=
  [(0x271, 0x271), (0x36b, 0x36b), (0x39c, 0x39c), (0x3bc, 0x3bc), (0x41c, 0x41c), (0x43c, 0x43c),
   (0x544, 0x544), (0x574, 0x574), (0x5dd, 0x5de), (0x645, 0x645), (0x721, 0x721), (0x789, 0x789),
   (0x92e, 0x92e), (0x9ae, 0x9ae), (0xa2e, 0xa2e), (0xaae, 0xaae), (0xb2e, 0xb2e), (0xbae, 0xbae),
   (0xc2e, 0xc2e), (0xcae, 0xcae), (0xd2e, 0xd2e), (0xdb8, 0xdb8), (0xe21, 0xe21), (0xe4d, 0xe4d),
   (0xea1, 0xea1), (0xecd, 0xecd), (0xf58, 0xf58), (0xf7e, 0xf7e), (0xfa8, 0xfa8), (0x1019, 0x1019),
   (0x10ab, 0x10ab), (0x10db, 0x10db), (0x1106, 0x1106), (0x1143, 0x1143), (0x11b7, 0x11b7),
   (0x14bb, 0x14bc), (0x14be, 0x14bf), (0x168b, 0x168b), (0x16d7, 0x16d9), (0x1798, 0x1798),
   (0x17c6, 0x17c6), (0x182e, 0x182e), (0x184f, 0x184f), (0x1884, 0x1884), (0x1d0d, 0x1d0d),
   (0x1d1f, 0x1d1f), (0x1d39, 0x1d39), (0x1d50, 0x1d50), (0x1d5a, 0x1d5a), (0x1d6f, 0x1d6f),
   (0x1d86, 0x1d86), (0x1e3e, 0x1e43), (0x2098, 0x2098), (0x20bb, 0x20bc), (0x2133, 0x2133),
   (0x216f, 0x216f), (0x217f, 0x217f), (0x24c2, 0x24c2), (0x24dc, 0x24dc), (0x280d, 0x280d),
   (0x2c6e, 0x2c6e), (0x3107, 0x3107), (0x3141, 0x3141), (0xfb26, 0xfb26), (0xfb3e, 0xfb3e),
   (0xff2d, 0xff2d), (0xff4d, 0xff4d), (0xffb1, 0xffb1), (0x1d40c, 0x1d40c), (0x1d426, 0x1d426),
   (0x1d440, 0x1d440), (0x1d45a, 0x1d45a), (0x1d474, 0x1d474), (0x1d48e, 0x1d48e),
   (0x1d4c2, 0x1d4c2), (0x1d4dc, 0x1d4dc), (0x1d4f6, 0x1d4f6), (0x1d510, 0x1d510),
   (0x1d52a, 0x1d52a), (0x1d544, 0x1d544), (0x1d55e, 0x1d55e), (0x1d578, 0x1d578),
   (0x1d592, 0x1d592), (0x1d5ac, 0x1d5ac), (0x1d5c6, 0x1d5c6), (0x1d5e0, 0x1d5e0),
   (0x1d5fa, 0x1d5fa), (0x1d614, 0x1d614), (0x1d62e, 0x1d62e), (0x1d648, 0x1d648),
   (0x1d662, 0x1d662), (0x1d67c, 0x1d67c), (0x1d696, 0x1d696)]

def spansOfN : List (Nat × Nat) :=
  [(0xd1, 0xd1), (0xf1, 0xf1), (0x143, 0x148), (0x19d, 0x19e), (0x1f8, 0x1f9), (0x220, 0x220),
   (0x235, 0x235), (0x272, 0x274), (0x39d, 0x39d), (0x3bd, 0x3bd), (0x41d, 0x41d), (0x43d, 0x43d),
   (0x546, 0x546), (0x576, 0x576), (0x5c6, 0x5c6), (0x5df, 0x5e0), (0x646, 0x646), (0x6b1, 0x6b1),
   (0x6b9, 0x6bd), (0x722, 0x722), (0x782, 0x782), (0x901, 0x902), (0x928, 0x928), (0x981, 0x982),
   (0x9a8, 0x9a8), (0xa02, 0xa02), (0xa28, 0xa28), (0xa70, 0xa70), (0xa81, 0xa82), (0xaa8, 0xaa8),
   (0xb01, 0xb02), (0xb28, 0xb28), (0xb82, 0xb82), (0xba8, 0xba8), (0xc01, 0xc02), (0xc28, 0xc28),
   (0xc82, 0xc82), (0xca8, 0xca8), (0xd02, 0xd02), (0xd28, 0xd28), (0xd82, 0xd82), (0xdb1, 0xdb1),
   (0xe13, 0xe13), (0xe19, 0xe19), (0xe99, 0xe99), (0xf53, 0xf53), (0xfa3, 0xfa3), (0x1014, 0x1014),
   (0x1036, 0x1036), (0x10ac, 0x10ac), (0x10dc, 0x10dc), (0x1102, 0x1102), (0x114c, 0x114c),
   (0x11ab, 0x11ab), (0x11f0, 0x11f0), (0x1423, 0x1423), (0x1425, 0x1425), (0x14d0, 0x14d0),
   (0x1685, 0x1685), (0x16be, 0x16c0), (0x1793, 0x1793), (0x1828, 0x1828), (0x1d0e, 0x1d0e),
   (0x1d3a, 0x1d3b), (0x1d70, 0x1d70), (0x1d87, 0x1d87), (0x1e44, 0x1e4b), (0x207f, 0x207f),
   (0x2099, 0x2099), (0x20a6, 0x20a6), (0x2115, 0x2115), (0x24c3, 0x24c3), (0x24dd, 0x24dd),
   (0x281d, 0x281d), (0x3093, 0x3093), (0x30f3, 0x30f3), (0x310b, 0x310b), (0x3134, 0x3134),
   (0x3181, 0x3181), (0xfb40, 0xfb40), (0xff2e, 0xff2e), (0xff4e, 0xff4e), (0xff9d, 0xff9d),
   (0xffa4, 0xffa4), (0x1d40d, 0x1d40d), (0x1d427, 0x1d427), (0x1d441, 0x1d441), (0x1d45b, 0x1d45b),
   (0x1d475, 0x1d475), (0x1d48f, 0x1d48f), (0x1d4a9, 0x1d4a9), (0x1d4c3, 0x1d4c3),
   (0x1d4dd, 0x1d4dd), (0x1d4f7, 0x1d4f7), (0x1d511, 0x1d511), (0x1d52b, 0x1d52b),
   (0x1d55f, 0x1d55f), (0x1d579, 0x1d579), (0x1d593, 0x1d593), (0x1d5ad, 0x1d5ad),
   (0x1d5c7, 0x1d5c7), (0x1d5e1, 0x1d5e1), (0x1d5fb, 0x1d5fb), (0x1d615, 0x1d615),
   (0x1d62f, 0x1d62f), (0x1d649, 0x1d649), (0x1d663, 0x1d663), (0x1d67d, 0x1d67d),
   (0x1d697, 0x1d697)]

def spansOfO : List (Nat × Nat) :=
  [(0xba, 0xba), (0xd2, 0xd6), (0xd8, 0xd8), (0xf2, 0xf6), (0xf8, 0xf8), (0x14c, 0x151),
   (0x186, 0x186), (0x19f, 0x1a1), (0x1d1, 0x1d2), (0x1ea, 0x1ed), (0x1fe, 0x1ff), (0x20c, 0x20f),
   (0x22a, 0x231), (0x254, 0x254), (0x275, 0x275), (0x277, 0x277), (0x366, 0x366), (0x38c, 0x38c),
   (0x38f, 0x38f), (0x39f, 0x39f), (0x3a9, 0x3a9), (0x3bf, 0x3bf), (0x3c9, 0x3c9), (0x3cc, 0x3cc),
   (0x3ce, 0x3ce), (0x41e, 0x41e), (0x43e, 0x43e), (0x460, 0x461), (0x46a, 0x46b), (0x47a, 0x47d),
   (0x4e6, 0x4eb), (0x548, 0x548), (0x555, 0x555), (0x578, 0x578), (0x585, 0x585), (0x5b3, 0x5b3),
   (0x5b9, 0x5ba), (0x5c7, 0x5c7), (0x73f, 0x73f), (0x7ae, 0x7ae), (0x912, 0x913), (0x94a, 0x94b),
   (0x993, 0x993), (0x9cb, 0x9cb), (0xa93, 0xa93), (0xacb, 0xacb), (0xb13, 0xb13), (0xb4b, 0xb4b),
   (0xb92, 0xb92), (0xbca, 0xbca), (0xc12, 0xc12), (0xc4a, 0xc4a), (0xc92, 0xc92), (0xcca, 0xcca),
   (0xd12, 0xd12), (0xd4a, 0xd4a), (0xd94, 0xd94), (0xddc, 0xddc), (0xe42, 0xe42), (0xebb, 0xebb),
   (0xec2, 0xec2), (0xf7c, 0xf7c), (0x1029, 0x1029), (0x10ad, 0x10ad), (0x10dd, 0x10dd),
   (0x1169, 0x1169), (0x13a3, 0x13a3), (0x1405, 0x1405), (0x15b2, 0x15b2), (0x1691, 0x1691),
   (0x16a9, 0x16a9), (0x16ac, 0x16ae), (0x16df, 0x16df), (0x1823, 0x1823), (0x1825, 0x1825),
   (0x1846, 0x1846), (0x1848, 0x1848), (0x1d0f, 0x1d0f), (0x1d11, 0x1d11), (0x1d13, 0x1d13),
   (0x1d3c, 0x1d3c), (0x1d52, 0x1d52), (0x1e4c, 0x1e53), (0x1ecc, 0x1ee3), (0x1f40, 0x1f45),
   (0x1f48, 0x1f4d), (0x1f60, 0x1f6f), (0x1f78, 0x1f79), (0x1f7c, 0x1f7d), (0x1fa0, 0x1faf),
   (0x1ff2, 0x1ff4), (0x1ff6, 0x1ffc), (0x2092, 0x2092), (0x2134, 0x2134), (0x24c4, 0x24c4),
   (0x24de, 0x24de), (0x25ef, 0x25ef), (0x2815, 0x2815), (0x2e30, 0x2e30), (0x3049, 0x304a),
   (0x30a9, 0x30aa), (0x311b, 0x311b), (0x3157, 0x3157), (0x32d4, 0x32d4), (0xa011, 0xa011),
   (0xc624, 0xc624), (0xfb4b, 0xfb4b), (0xff2f, 0xff2f), (0xff4f, 0xff4f), (0xff6b, 0xff6b),
   (0xff75, 0xff75), (0xffcc, 0xffcc), (0xffee, 0xffee), (0x1d40e, 0x1d40e), (0x1d428, 0x1d428),
   (0x1d442, 0x1d442), (0x1d45c, 0x1d45c), (0x1d476, 0x1d476), (0x1d490, 0x1d490),
   (0x1d4aa, 0x1d4aa), (0x1d4de, 0x1d4de), (0x1d4f8, 0x1d4f8), (0x1d512, 0x1d512),
   (0x1d52c, 0x1d52c), (0x1d546, 0x1d546), (0x1d560, 0x1d560), (0x1d57a, 0x1d57a),
   (0x1d594, 0x1d594), (0x1d5ae, 0x1d5ae), (0x1d5c8, 0x1d5c8), (0x1d5e2, 0x1d5e2),
   (0x1d5fc, 0x1d5fc), (0x1d616, 0x1d616), (0x1d630, 0x1d630), (0x1d64a, 0x1d64a),
   (0x1d664, 0x1d664), (0x1d67e, 0x1d67e), (0x1d698, 0x1d698)]

def spansOfP : List (Nat × Nat) :=
  [(0xb6, 0xb6), (0x1a4, 0x1a5), (0x3a0, 0x3a0), (0x3c0, 0x3c0), (0x3d6, 0x3d6), (0x41f, 0x41f),
   (0x43f, 0x43f), (0x54a, 0x54a), (0x57a, 0x57a), (0x5e3, 0x5e4), (0x67e, 0x67e), (0x726, 0x727),
   (0x795, 0x795), (0x92a, 0x92a), (0x9aa, 0x9aa), (0xa2a, 0xa2a), (0xaaa, 0xaaa), (0xb2a, 0xb2a),
   (0xbaa, 0xbaa), (0xc2a, 0xc2a), (0xcaa, 0xcaa), (0xd2a, 0xd2a), (0xdb4, 0xdb4), (0xe1b, 0xe1b),
   (0xe9b, 0xe9b), (0xf54, 0xf54), (0xfa4, 0xfa4), (0x1015, 0x1015), (0x10ae, 0x10ae),
   (0x10de, 0x10de), (0x1111, 0x1111), (0x114b, 0x114b), (0x11c1, 0x11c1), (0x1449, 0x144a),
   (0x15ee, 0x15ee), (0x1698, 0x1698), (0x169a, 0x169a), (0x16c8, 0x16c8), (0x16d4, 0x16d5),
   (0x1794, 0x1794), (0x182b, 0x182b), (0x184c, 0x184c), (0x1866, 0x1866), (0x1892, 0x1892),
   (0x1d18, 0x1d18), (0x1d3e, 0x1d3e), (0x1d56, 0x1d56), (0x1d71, 0x1d71), (0x1d7d, 0x1d7d),
   (0x1d88, 0x1d88), (0x1e54, 0x1e57), (0x209a, 0x209a), (0x20b1, 0x20b1), (0x2119, 0x2119),
   (0x24c5, 0x24c5), (0x24df, 0x24df), (0x280f, 0x280f), (0x2c63, 0x2c63), (0x3106, 0x3106),
   (0x314d, 0x314d), (0x31b4, 0x31b4), (0xfb43, 0xfb44), (0xff30, 0xff30), (0xff50, 0xff50),
   (0xffbd, 0xffbd), (0x1d40f, 0x1d40f), (0x1d429, 0x1d429), (0x1d443, 0x1d443), (0x1d45d, 0x1d45d),
   (0x1d477, 0x1d477), (0x1d491, 0x1d491), (0x1d4ab, 0x1d4ab), (0x1d4c5, 0x1d4c5),
   (0x1d4df, 0x1d4df), (0x1d4f9, 0x1d4f9), (0x1d513, 0x1d513), (0x1d52d, 0x1d52d),
   (0x1d561, 0x1d561), (0x1d57b, 0x1d57b), (0x1d595, 0x1d595), (0x1d5af, 0x1d5af),
   (0x1d5c9, 0x1d5c9), (0x1d5e3, 0x1d5e3), (0x1d5fd, 0x1d5fd), (0x1d617, 0x1d617),
   (0x1d631, 0x1d631), (0x1d64b, 0x1d64b), (0x1d665, 0x1d665), (0x1d67f, 0x1d67f),
   (0x1d699, 0x1d699)]

def spansOfQ : List (Nat × Nat) :=
  [(0x24a, 0x24b), (0x2a0, 0x2a0), (0x3de, 0x3df), (0x480, 0x481), (0x642, 0x642), (0x6a7, 0x6a8),
   (0x729, 0x729), (0x746, 0x746), (0x7a4, 0x7a4), (0x958, 0x958), (0x10b7, 0x10b7),
   (0x10e7, 0x10e7), (0x1159, 0x1159), (0x11f9, 0x11f9), (0x1585, 0x1585), (0x168a, 0x168a),
   (0x16e9, 0x16e9), (0x17a2, 0x17a2), (0x182c, 0x182c), (0x184d, 0x184d), (0x211a, 0x211a),
   (0x24c6, 0x24c6), (0x24e0, 0x24e0), (0x281f, 0x281f), (0x3111, 0x3111), (0x3186, 0x3186),
   (0xff31, 0xff31), (0xff51, 0xff51), (0x1d410, 0x1d410), (0x1d42a, 0x1d42a), (0x1d444, 0x1d444),
   (0x1d45e, 0x1d45e), (0x1d478, 0x1d478), (0x1d492, 0x1d492), (0x1d4ac, 0x1d4ac),
   (0x1d4c6, 0x1d4c6), (0x1d4e0, 0x1d4e0), (0x1d4fa, 0x1d4fa), (0x1d514, 0x1d514),
   (0x1d52e, 0x1d52e), (0x1d562, 0x1d562), (0x1d57c, 0x1d57c), (0x1d596, 0x1d596),
   (0x1d5b0, 0x1d5b0), (0x1d5ca, 0x1d5ca), (0x1d5e4, 0x1d5e4), (0x1d5fe, 0x1d5fe),
   (0x1d618, 0x1d618), (0x1d632, 0x1d632), (0x1d64c, 0x1d64c), (0x1d666, 0x1d666),
   (0x1d680, 0x1d680), (0x1d69a, 0x1d69a)]

def spansOfR : List (Nat × Nat) :=
  [(0x154, 0x159), (0x210, 0x213), (0x24c, 0x24d), (0x279, 0x281), (0x2b3, 0x2b6), (0x2de, 0x2de),
   (0x36c, 0x36c), (0x3a1, 0x3a1), (0x3c1, 0x3c1), (0x3f1, 0x3f1), (0x420, 0x420), (0x440, 0x440),
   (0x550, 0x550), (0x580, 0x580), (0x5e8, 0x5e8), (0x631, 0x631), (0x692, 0x697), (0x699, 0x699),
   (0x72a, 0x72a), (0x783, 0x783), (0x90b, 0x90b), (0x930, 0x930), (0x943, 0x943), (0x98b, 0x98b),
   (0x9b0, 0x9b0), (0x9c3, 0x9c3), (0xa30, 0xa30), (0xa8b, 0xa8b), (0xab0, 0xab0), (0xac3, 0xac3),
   (0xb0b, 0xb0b), (0xb30, 0xb30), (0xb43, 0xb43), (0xbb0, 0xbb0), (0xc0b, 0xc0b), (0xc30, 0xc30),
   (0xc43, 0xc43), (0xc8b, 0xc8b), (0xcb0, 0xcb0), (0xcc3, 0xcc3), (0xd0b, 0xd0b), (0xd30, 0xd30),
   (0xd43, 0xd43), (0xd8d, 0xd8d), (0xdbb, 0xdbb), (0xdd8, 0xdd8), (0xe23, 0xe24), (0xea3, 0xea3),
   (0xf62, 0xf62), (0xf6a, 0xf6a), (0xf76, 0xf76), (0xfb2, 0xfb2), (0xfbc, 0xfbc), (0x101b, 0x101b),
   (0x1052, 0x1052), (0x1056, 0x1056), (0x10b0, 0x10b0), (0x10e0, 0x10e0), (0x1105, 0x1105),
   (0x1550, 0x1552), (0x168f, 0x168f), (0x16b1, 0x16b1), (0x179a, 0x179a), (0x17cc, 0x17cc),
   (0x1837, 0x1837), (0x1870, 0x1870), (0x1875, 0x1875), (0x1d19, 0x1d1a), (0x1d3f, 0x1d3f),
   (0x1d63, 0x1d63), (0x1d68, 0x1d68), (0x1d72, 0x1d73), (0x1d89, 0x1d89), (0x1e58, 0x1e5f),
   (0x1fe4, 0x1fe5), (0x1fec, 0x1fec), (0x20bd, 0x20bd), (0x211b, 0x211d), (0x24c7, 0x24c7),
   (0x24e1, 0x24e1), (0x2817, 0x2817), (0x2c64, 0x2c64), (0x2e00, 0x2e00), (0x3116, 0x3116),
   (0x3139, 0x3139), (0xfb27, 0xfb27), (0xfb48, 0xfb48), (0xff32, 0xff32), (0xff52, 0xff52),
   (0xffa9, 0xffa9), (0x1d411, 0x1d411), (0x1d42b, 0x1d42b), (0x1d445, 0x1d445), (0x1d45f, 0x1d45f),
   (0x1d479, 0x1d479), (0x1d493, 0x1d493), (0x1d4c7, 0x1d4c7), (0x1d4e1, 0x1d4e1),
   (0x1d4fb, 0x1d4fb), (0x1d52f, 0x1d52f), (0x1d563, 0x1d563), (0x1d57d, 0x1d57d),
   (0x1d597, 0x1d597), (0x1d5b1, 0x1d5b1), (0x1d5cb, 0x1d5cb), (0x1d5e5, 0x1d5e5),
   (0x1d5ff, 0x1d5ff), (0x1d619, 0x1d619), (0x1d633, 0x1d633), (0x1d64d, 0x1d64d),
   (0x1d667, 0x1d667), (0x1d681, 0x1d681), (0x1d69b, 0x1d69b)]

def spansOfS : List (Nat × Nat) :=
  [(0x15a, 0x161), (0x17f, 0x17f), (0x218, 0x219), (0x23f, 0x23f), (0x282, 0x283), (0x285, 0x286),
   (0x2e2, 0x2e2), (0x3a3, 0x3a3), (0x3c2, 0x3c3), (0x421, 0x421), (0x441, 0x441), (0x54d, 0x54d),
   (0x57d, 0x57d), (0x5e1, 0x5e1), (0x633, 0x633), (0x635, 0x635), (0x69a, 0x69e), (0x723, 0x724),
   (0x728, 0x728), (0x790, 0x790), (0x79e, 0x79e), (0x938, 0x938), (0x9b8, 0x9b8), (0xa38, 0xa38),
   (0xab8, 0xab8), (0xb38, 0xb38), (0xbb8, 0xbb8), (0xc38, 0xc38), (0xcb8, 0xcb8), (0xd38, 0xd38),
   (0xdc3, 0xdc3), (0xe28, 0xe2a), (0xe8a, 0xe8a), (0xeaa, 0xeaa), (0xf66, 0xf66), (0xfb6, 0xfb6),
   (0x101e, 0x101e), (0x10b1, 0x10b1), (0x10e1, 0x10e1), (0x1109, 0x1109), (0x1135, 0x1135),
   (0x1145, 0x1145), (0x11ba, 0x11ba), (0x13cd, 0x13cd), (0x1422, 0x1422), (0x1505, 0x1506),
   (0x1508, 0x1508), (0x1684, 0x1684), (0x16ca, 0x16cc), (0x16e5, 0x16e5), (0x179f, 0x179f),
   (0x1830, 0x1830), (0x1d74, 0x1d74), (0x1d8a, 0x1d8a), (0x1e60, 0x1e69), (0x1e9b, 0x1e9b),
   (0x209b, 0x209b), (0x24c8, 0x24c8), (0x24e2, 0x24e2), (0x280e, 0x280e), (0x2e09, 0x2e09),
   (0x3119, 0x3119), (0x3145, 0x3145), (0xfb2b, 0xfb2b), (0xfb2d, 0xfb2d), (0xfb41, 0xfb41),
   (0xff33, 0xff33), (0xff53, 0xff53), (0xffb5, 0xffb5), (0x1d412, 0x1d412), (0x1d42c, 0x1d42c),
   (0x1d446, 0x1d446), (0x1d460, 0x1d460), (0x1d47a, 0x1d47a), (0x1d494, 0x1d494),
   (0x1d4ae, 0x1d4ae), (0x1d4c8, 0x1d4c8), (0x1d4e2, 0x1d4e2), (0x1d4fc, 0x1d4fc),
   (0x1d516, 0x1d516), (0x1d530, 0x1d530), (0x1d54a, 0x1d54a), (0x1d564, 0x1d564),
   (0x1d57e, 0x1d57e), (0x1d598, 0x1d598), (0x1d5b2, 0x1d5b2), (0x1d5cc, 0x1d5cc),
   (0x1d5e6, 0x1d5e6), (0x1d600, 0x1d600), (0x1d61a, 0x1d61a), (0x1d634, 0x1d634),
   (0x1d64e, 0x1d64e), (0x1d668, 0x1d668), (0x1d682, 0x1d682), (0x1d69c, 0x1d69c)]

def spansOfT : List (Nat × Nat) :=
  [(0x162, 0x167), (0x1ab, 0x1ae), (0x21a, 0x21b), (0x236, 0x236), (0x23e, 0x23e), (0x287, 0x288),
   (0x36d, 0x36d), (0x3a4, 0x3a4), (0x3c4, 0x3c4), (0x422, 0x422), (0x442, 0x442), (0x54f, 0x54f),
   (0x57f, 0x57f), (0x5d8, 0x5d8), (0x5ea, 0x5ea), (0x62a, 0x62a), (0x637, 0x637), (0x67c, 0x67d),
   (0x69f, 0x69f), (0x71b, 0x71c), (0x72c, 0x72c), (0x793, 0x793), (0x7a0, 0x7a0), (0x924, 0x924),
   (0x9a4, 0x9a4), (0xa24, 0xa24), (0xaa4, 0xaa4), (0xb24, 0xb24), (0xba4, 0xba4), (0xc24, 0xc24),
   (0xca4, 0xca4), (0xd24, 0xd24), (0xdad, 0xdad), (0xe0f, 0xe0f), (0xe15, 0xe15), (0xf4f, 0xf4f),
   (0xf9f, 0xf9f), (0x10b2, 0x10b2), (0x10e2, 0x10e2), (0x1110, 0x1110), (0x114a, 0x114a),
   (0x11c0, 0x11c0), (0x141f, 0x141f), (0x1466, 0x1466), (0x1688, 0x1688), (0x16cf, 0x16d0),
   (0x178a, 0x178a), (0x178f, 0x178f), (0x1832, 0x1832), (0x1850, 0x1850), (0x1868, 0x1868),
   (0x1890, 0x1890), (0x1898, 0x1898), (0x18a0, 0x18a0), (0x1d1b, 0x1d1b), (0x1d40, 0x1d40),
   (0x1d57, 0x1d57), (0x1d75, 0x1d75), (0x1e6a, 0x1e71), (0x1e97, 0x1e97), (0x209c, 0x209c),
   (0x20ae, 0x20ae), (0x20b8, 0x20b8), (0x24c9, 0x24c9), (0x24e3, 0x24e3), (0x281e, 0x281e),
   (0x2c66, 0x2c66), (0x2e06, 0x2e06), (0x310a, 0x310a), (0x314c, 0x314c), (0x31b5, 0x31b5),
   (0xfb28, 0xfb28), (0xfb38, 0xfb38), (0xfb4a, 0xfb4a), (0xff34, 0xff34), (0xff54, 0xff54),
   (0xffbc, 0xffbc), (0x1d413, 0x1d413), (0x1d42d, 0x1d42d), (0x1d447, 0x1d447), (0x1d461, 0x1d461),
   (0x1d47b, 0x1d47b), (0x1d495, 0x1d495), (0x1d4af, 0x1d4af), (0x1d4c9, 0x1d4c9),
   (0x1d4e3, 0x1d4e3), (0x1d4fd, 0x1d4fd), (0x1d517, 0x1d517), (0x1d531, 0x1d531),
   (0x1d54b, 0x1d54b), (0x1d565, 0x1d565), (0x1d57f, 0x1d57f), (0x1d599, 0x1d599),
   (0x1d5b3, 0x1d5b3), (0x1d5cd, 0x1d5cd), (0x1d5e7, 0x1d5e7), (0x1d601, 0x1d601),
   (0x1d61b, 0x1d61b), (0x1d635, 0x1d635), (0x1d64f, 0x1d64f), (0x1d669, 0x1d669),
   (0x1d683, 0x1d683), (0x1d69d, 0x1d69d)]

def spansOfU : List (Nat × Nat) :=
  [(0xb5, 0xb5), (0xd9, 0xdc), (0xf9, 0xfc), (0x168, 0x173), (0x1af, 0x1b0), (0x1d3, 0x1dc),
   (0x214, 0x217), (0x244, 0x244), (0x264, 0x264), (0x289, 0x28a), (0x367, 0x367), (0x38e, 0x38e),
   (0x3a5, 0x3a5), (0x3ab, 0x3ab), (0x3b0, 0x3b0), (0x3c5, 0x3c5), (0x3cb, 0x3cb), (0x3cd, 0x3cd),
   (0x3d2, 0x3d4), (0x40e, 0x40e), (0x423, 0x423), (0x443, 0x443), (0x45e, 0x45e), (0x478, 0x479),
   (0x4ae, 0x4af), (0x4ee, 0x4f3), (0x5bb, 0x5bb), (0x64f, 0x64f), (0x6c7, 0x6c7), (0x73c, 0x73e),
   (0x7aa, 0x7aa), (0x909, 0x909), (0x941, 0x941), (0x989, 0x989), (0x9c1, 0x9c1), (0xa09, 0xa09),
   (0xa41, 0xa41), (0xa89, 0xa89), (0xac1, 0xac1), (0xb09, 0xb09), (0xb41, 0xb41), (0xb89, 0xb89),
   (0xbc1, 0xbc1), (0xc09, 0xc09), (0xc41, 0xc41), (0xc89, 0xc89), (0xcc1, 0xcc1), (0xd09, 0xd09),
   (0xd41, 0xd41), (0xd8b, 0xd8b), (0xdd4, 0xdd4), (0xe38, 0xe38), (0xeb8, 0xeb8), (0xf74, 0xf74),
   (0x1025, 0x1025), (0x102f, 0x102f), (0x10b3, 0x10b3), (0x10e3, 0x10e3), (0x116e, 0x116e),
   (0x119e, 0x119e), (0x13a4, 0x13a4), (0x1692, 0x1692), (0x16a2, 0x16a2), (0x17a7, 0x17a7),
   (0x17bb, 0x17bb), (0x1824, 0x1824), (0x1826, 0x1826), (0x1847, 0x1847), (0x1849, 0x1849),
   (0x1860, 0x1861), (0x18a6, 0x18a6), (0x1d1c, 0x1d1e), (0x1d41, 0x1d41), (0x1d58, 0x1d59),
   (0x1d64, 0x1d64), (0x1e72, 0x1e7b), (0x1ee4, 0x1ef1), (0x1f50, 0x1f57), (0x1f59, 0x1f59),
   (0x1f5b, 0x1f5b), (0x1f5d, 0x1f5d), (0x1f5f, 0x1f5f), (0x1f7a, 0x1f7b), (0x1fe0, 0x1fe3),
   (0x1fe6, 0x1feb), (0x24ca, 0x24ca), (0x24e4, 0x24e4), (0x2825, 0x2825), (0x3045, 0x3046),
   (0x30a5, 0x30a6), (0x3128, 0x3128), (0x315c, 0x315c), (0x318d, 0x318d), (0x32d2, 0x32d3),
   (0xc6b0, 0xc6b0), (0xff35, 0xff35), (0xff55, 0xff55), (0xff69, 0xff69), (0xff73, 0xff73),
   (0xffd3, 0xffd3), (0x1d414, 0x1d414), (0x1d42e, 0x1d42e), (0x1d448, 0x1d448), (0x1d462, 0x1d462),
   (0x1d47c, 0x1d47c), (0x1d496, 0x1d496), (0x1d4b0, 0x1d4b0), (0x1d4ca, 0x1d4ca),
   (0x1d4e4, 0x1d4e4), (0x1d4fe, 0x1d4fe), (0x1d518, 0x1d518), (0x1d532, 0x1d532),
   (0x1d54c, 0x1d54c), (0x1d566, 0x1d566), (0x1d580, 0x1d580), (0x1d59a, 0x1d59a),
   (0x1d5b4, 0x1d5b4), (0x1d5ce, 0x1d5ce), (0x1d5e8, 0x1d5e8), (0x1d602, 0x1d602),
   (0x1d61c, 0x1d61c), (0x1d636, 0x1d636), (0x1d650, 0x1d650), (0x1d66a, 0x1d66a),
   (0x1d684, 0x1d684), (0x1d69e, 0x1d69e)]

def spansOfV : List (Nat × Nat) :=
  [(0x1b2, 0x1b2), (0x28b, 0x28b), (0x2c5, 0x2c5), (0x2c7, 0x2c7), (0x2d5, 0x2d5), (0x2d8, 0x2d8),
   (0x2ec, 0x2ec), (0x36e, 0x36e), (0x412, 0x412), (0x432, 0x432), (0x54e, 0x54e), (0x57e, 0x57e),
   (0x5d5, 0x5d5), (0x5f0, 0x5f0), (0x6a4, 0x6a4), (0x6cb, 0x6cb), (0x788, 0x788), (0x935, 0x935),
   (0xa35, 0xa35), (0xab5, 0xab5), (0xbb5, 0xbb5), (0xc35, 0xc35), (0xcb5, 0xcb5), (0xd35, 0xd35),
   (0xdc0, 0xdc0), (0x10a5, 0x10a5), (0x10d5, 0x10d5), (0x13a5, 0x13a5), (0x16a1, 0x16a1),
   (0x179c, 0x179c), (0x1d20, 0x1d20), (0x1d5b, 0x1d5b), (0x1d65, 0x1d65), (0x1d8c, 0x1d8c),
   (0x1e7c, 0x1e7f), (0x2164, 0x2164), (0x2174, 0x2174), (0x21b7, 0x21b7), (0x21ba, 0x21ba),
   (0x24cb, 0x24cb), (0x24e5, 0x24e5), (0x25bc, 0x25bf), (0x2827, 0x2827), (0x312a, 0x312a),
   (0xfb35, 0xfb35), (0xfb4c, 0xfb4c), (0xff36, 0xff36), (0xff56, 0xff56), (0x1d415, 0x1d415),
   (0x1d42f, 0x1d42f), (0x1d449, 0x1d449), (0x1d463, 0x1d463), (0x1d47d, 0x1d47d),
   (0x1d497, 0x1d497), (0x1d4b1, 0x1d4b1), (0x1d4cb, 0x1d4cb), (0x1d4e5, 0x1d4e5),
   (0x1d4ff, 0x1d4ff), (0x1d519, 0x1d519), (0x1d533, 0x1d533), (0x1d54d, 0x1d54d),
   (0x1d567, 0x1d567), (0x1d581, 0x1d581), (0x1d59b, 0x1d59b), (0x1d5b5, 0x1d5b5),
   (0x1d5cf, 0x1d5cf), (0x1d5e9, 0x1d5e9), (0x1d603, 0x1d603), (0x1d61d, 0x1d61d),
   (0x1d637, 0x1d637), (0x1d651, 0x1d651), (0x1d66b, 0x1d66b), (0x1d685, 0x1d685),
   (0x1d69f, 0x1d69f)]

def spansOfW : List (Nat × Nat) :=
  [(0x174, 0x175), (0x19c, 0x19c), (0x1bf, 0x1bf), (0x1f7, 0x1f7), (0x26f, 0x270), (0x28d, 0x28d),
   (0x2b7, 0x2b7), (0x3dc, 0x3dd), (0x552, 0x552), (0x582, 0x582), (0x648, 0x648), (0x651, 0x651),
   (0x6c4, 0x6c4), (0x6ca, 0x6ca), (0x6cf, 0x6cf), (0x718, 0x718), (0x7a5, 0x7a5), (0xe27, 0xe27),
   (0xea7, 0xea7), (0xf5d, 0xf5d), (0xfad, 0xfad), (0xfba, 0xfba), (0x101d, 0x101d),
   (0x10c3, 0x10c3), (0x10f3, 0x10f3), (0x141d, 0x141d), (0x1424, 0x1424), (0x1427, 0x1427),
   (0x16a5, 0x16a5), (0x16b9, 0x16b9), (0x1838, 0x1838), (0x1856, 0x1856), (0x1883, 0x1883),
   (0x1d21, 0x1d21), (0x1d42, 0x1d42), (0x1e80, 0x1e89), (0x1e98, 0x1e98), (0x20a9, 0x20a9),
   (0x24cc, 0x24cc), (0x24e6, 0x24e6), (0x283a, 0x283a), (0xff37, 0xff37), (0xff57, 0xff57),
   (0x1d416, 0x1d416), (0x1d430, 0x1d430), (0x1d44a, 0x1d44a), (0x1d464, 0x1d464),
   (0x1d47e, 0x1d47e), (0x1d498, 0x1d498), (0x1d4b2, 0x1d4b2), (0x1d4cc, 0x1d4cc),
   (0x1d4e6, 0x1d4e6), (0x1d500, 0x1d500), (0x1d51a, 0x1d51a), (0x1d534, 0x1d534),
   (0x1d54e, 0x1d54e), (0x1d568, 0x1d568), (0x1d582, 0x1d582), (0x1d59c, 0x1d59c),
   (0x1d5b6, 0x1d5b6), (0x1d5d0, 0x1d5d0), (0x1d5ea, 0x1d5ea), (0x1d604, 0x1d604),
   (0x1d61e, 0x1d61e), (0x1d638, 0x1d638), (0x1d652, 0x1d652), (0x1d66c, 0x1d66c),
   (0x1d686, 0x1d686), (0x1d6a0, 0x1d6a0)]

def spansOfX : List (Nat × Nat) :=
  [(0xd7, 0xd7), (0x2df, 0x2df), (0x2e3, 0x2e3), (0x36f, 0x36f), (0x3be, 0x3be), (0x745, 0x745),
   (0xfbe, 0xfbe), (0x10be, 0x10be), (0x10ee, 0x10ee), (0x166d, 0x166d), (0x1699, 0x1699),
   (0x16ea, 0x16ea), (0x1882, 0x1882), (0x1d8d, 0x1d8d), (0x1e8a, 0x1e8d), (0x2093, 0x2093),
   (0x2169, 0x2169), (0x2179, 0x2179), (0x24cd, 0x24cd), (0x24e7, 0x24e7), (0x2573, 0x2573),
   (0x282d, 0x282d), (0x2e3c, 0x2e3c), (0x3112, 0x3112), (0xff38, 0xff38), (0xff58, 0xff58),
   (0x1d417, 0x1d417), (0x1d431, 0x1d431), (0x1d44b, 0x1d44b), (0x1d465, 0x1d465),
   (0x1d47f, 0x1d47f), (0x1d499, 0x1d499), (0x1d4b3, 0x1d4b3), (0x1d4cd, 0x1d4cd),
   (0x1d4e7, 0x1d4e7), (0x1d501, 0x1d501), (0x1d51b, 0x1d51b), (0x1d535, 0x1d535),
   (0x1d54f, 0x1d54f), (0x1d569, 0x1d569), (0x1d583, 0x1d583), (0x1d59d, 0x1d59d),
   (0x1d5b7, 0x1d5b7), (0x1d5d1, 0x1d5d1), (0x1d5eb, 0x1d5eb), (0x1d605, 0x1d605),
   (0x1d61f, 0x1d61f), (0x1d639, 0x1d639), (0x1d653, 0x1d653), (0x1d66d, 0x1d66d),
   (0x1d687, 0x1d687), (0x1d6a1, 0x1d6a1)]

def spansOfY : List (Nat × Nat) :=
  [(0xdd, 0xdd), (0xfd, 0xfd), (0xff, 0xff), (0x176, 0x178), (0x1b1, 0x1b1), (0x1b3, 0x1b4),
   (0x21c, 0x21d), (0x232, 0x233), (0x24e, 0x24f), (0x265, 0x265), (0x28e, 0x28f), (0x2b8, 0x2b8),
   (0x42b, 0x42b), (0x44b, 0x44b), (0x474, 0x477), (0x4f8, 0x4f9), (0x545, 0x545), (0x575, 0x575),
   (0x5d9, 0x5d9), (0x64a, 0x64a), (0x6cc, 0x6ce), (0x6d2, 0x6d2), (0x71d, 0x71d), (0x794, 0x794),
   (0x92f, 0x92f), (0x9af, 0x9af), (0xa2f, 0xa2f), (0xb2f, 0xb2f), (0xbaf, 0xbaf), (0xc2f, 0xc2f),
   (0xcaf, 0xcaf), (0xd2f, 0xd2f), (0xdba, 0xdba), (0xe0d, 0xe0d), (0xe22, 0xe22), (0xea2, 0xea2),
   (0xeb6, 0xeb6), (0xf61, 0xf61), (0xfb1, 0xfb1), (0xfbb, 0xfbb), (0x101a, 0x101a),
   (0x10c2, 0x10c2), (0x10f2, 0x10f2), (0x153e, 0x1540), (0x16a4, 0x16a4), (0x1799, 0x1799),
   (0x17b9, 0x17b9), (0x1836, 0x1836), (0x1855, 0x1855), (0x18a7, 0x18a7), (0x1e8e, 0x1e8f),
   (0x1e99, 0x1e99), (0x1ef2, 0x1ef9), (0x24ce, 0x24ce), (0x24e8, 0x24e8), (0x283d, 0x283d),
   (0xfb39, 0xfb39), (0xff39, 0xff39), (0xff59, 0xff59), (0x1d418, 0x1d418), (0x1d432, 0x1d432),
   (0x1d44c, 0x1d44c), (0x1d466, 0x1d466), (0x1d480, 0x1d480), (0x1d49a, 0x1d49a),
   (0x1d4b4, 0x1d4b4), (0x1d4ce, 0x1d4ce), (0x1d4e8, 0x1d4e8), (0x1d502, 0x1d502),
   (0x1d51c, 0x1d51c), (0x1d536, 0x1d536), (0x1d550, 0x1d550), (0x1d56a, 0x1d56a),
   (0x1d584, 0x1d584), (0x1d59e, 0x1d59e), (0x1d5b8, 0x1d5b8), (0x1d5d2, 0x1d5d2),
   (0x1d5ec, 0x1d5ec), (0x1d606, 0x1d606), (0x1d620, 0x1d620), (0x1d63a, 0x1d63a),
   (0x1d654, 0x1d654), (0x1d66e, 0x1d66e), (0x1d688, 0x1d688), (0x1d6a2, 0x1d6a2)]

def spansOfZ : List (Nat × Nat) :=
  [(0x179, 0x17e), (0x1b5, 0x1b6), (0x224, 0x225), (0x240, 0x240), (0x290, 0x293), (0x396, 0x396),
   (0x3b6, 0x3b6), (0x417, 0x417), (0x437, 0x437), (0x4de, 0x4df), (0x536, 0x536), (0x566, 0x566),
   (0x5d6, 0x5d6), (0x632, 0x632), (0x638, 0x638), (0x719, 0x719), (0x792, 0x792), (0x79c, 0x79c),
   (0x7a1, 0x7a1), (0x95b, 0x95b), (0xa5b, 0xa5b), (0xf5f, 0xf5f), (0xfaf, 0xfaf), (0x10a6, 0x10a6),
   (0x10d6, 0x10d6), (0x1140, 0x1140), (0x1146, 0x1146), (0x11eb, 0x11eb), (0x1646, 0x1647),
   (0x168e, 0x168e), (0x16c9, 0x16c9), (0x16ce, 0x16ce), (0x183d, 0x183d), (0x186f, 0x186f),
   (0x1896, 0x1896), (0x18a5, 0x18a5), (0x1d22, 0x1d22), (0x1d76, 0x1d76), (0x1d8e, 0x1d8e),
   (0x1e90, 0x1e95), (0x2124, 0x2124), (0x2128, 0x2128), (0x24cf, 0x24cf), (0x24e9, 0x24e9),
   (0x2835, 0x2835), (0x2c6b, 0x2c6c), (0x3117, 0x3117), (0x317f, 0x317f), (0xfb36, 0xfb36),
   (0xff3a, 0xff3a), (0xff5a, 0xff5a), (0x1d419, 0x1d419), (0x1d433, 0x1d433), (0x1d44d, 0x1d44d),
   (0x1d467, 0x1d467), (0x1d481, 0x1d481), (0x1d49b, 0x1d49b), (0x1d4b5, 0x1d4b5),
   (0x1d4cf, 0x1d4cf), (0x1d4e9, 0x1d4e9), (0x1d503, 0x1d503), (0x1d537, 0x1d537),
   (0x1d56b, 0x1d56b), (0x1d585, 0x1d585), (0x1d59f, 0x1d59f), (0x1d5b9, 0x1d5b9),
   (0x1d5d3, 0x1d5d3), (0x1d5ed, 0x1d5ed), (0x1d607, 0x1d607), (0x1d621, 0x1d621),
   (0x1d63b, 0x1d63b), (0x1d655, 0x1d655), (0x1d66f, 0x1d66f), (0x1d689, 0x1d689),
   (0x1d6a3, 0x1d6a3)]

/-- Every letter with the spans of code points that stand for it. -/
def letterSpans : List (Char × List (Nat × Nat)) :=
  [('a', spansOfA), ('b', spansOfB), ('c', spansOfC), ('d', spansOfD), ('e', spansOfE),
   ('f', spansOfF), ('g', spansOfG), ('h', spansOfH), ('i', spansOfI), ('j', spansOfJ),
   ('k', spansOfK), ('l', spansOfL), ('m', spansOfM), ('n', spansOfN), ('o', spansOfO),
   ('p', spansOfP), ('q', spansOfQ), ('r', spansOfR), ('s', spansOfS), ('t', spansOfT),
   ('u', spansOfU), ('v', spansOfV), ('w', spansOfW), ('x', spansOfX), ('y', spansOfY),
   ('z', spansOfZ)]

/-- The letter of each listed code point. -/
def letterTable : Std.HashMap Nat Char :=
  letterSpans.foldl (fun t entry =>
    entry.2.foldl (fun t s =>
      (List.range' s.1 (s.2 + 1 - s.1)).foldl (fun t n => t.insert n entry.1) t) t) ∅

/-- The ASCII letter that a character outside ASCII stands for, if it stands for one. -/
def letter? (c : Char) : Option Char :=
  letterTable[c.toNat]?

end Karaoke.Text
