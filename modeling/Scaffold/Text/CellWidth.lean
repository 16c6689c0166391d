import Scaffold.Text.Category.Table

/-!
# Cell width

On a terminal of fixed columns a character takes no cell (marks, joiners and control characters),
two cells (East Asian wide characters and emoji) or one.  What is seen as one character may be a
cluster of several: marks go with the character before them, a zero-width joiner takes the next
character into the cluster, and a selector can turn a narrow symbol into a wide emoji.

The data are those of version 17 of the standard.
-/

namespace Scaffold.Text

set_option maxRecDepth 20000 in
/-- Runs of characters of equal width, each written as its first code point followed by one
    hexadecimal digit, the width. -/
def widthRuns : Array Nat := #[
  0x00, 0x201, 0x7f0, 0xa01, 0x3000, 0x3701, 0x4830, 0x48a1, 0x5910, 0x5be1, 0x5bf0, 0x5c01, 0x5c10,
  0x5c31, 0x5c40, 0x5c61, 0x5c70, 0x5c81, 0x6100, 0x61b1, 0x61c0, 0x61d1, 0x64b0, 0x6601, 0x6700,
  0x6711, 0x6d60, 0x6dd1, 0x6df0, 0x6e51, 0x6e70, 0x6e91, 0x6ea0, 0x6ee1, 0x7110, 0x7121, 0x7300,
  0x74b1, 0x7a60, 0x7b11, 0x7eb0, 0x7f41, 0x7fd0, 0x7fe1, 0x8160, 0x81a1, 0x81b0, 0x8241, 0x8250,
  0x8281, 0x8290, 0x82e1, 0x8590, 0x85c1, 0x8970, 0x8a01, 0x8ca0, 0x8e21, 0x8e30, 0x9041, 0x93a0,
  0x93d1, 0x93e0, 0x9501, 0x9510, 0x9581, 0x9620, 0x9641, 0x9810, 0x9841, 0x9bc0, 0x9bd1, 0x9be0,
  0x9c51, 0x9c70, 0x9c91, 0x9cb0, 0x9ce1, 0x9d70, 0x9d81, 0x9e20, 0x9e41, 0x9fe0, 0x9ff1, 0xa010,
  0xa041, 0xa3c0, 0xa3d1, 0xa3e0, 0xa431, 0xa470, 0xa491, 0xa4b0, 0xa4e1, 0xa510, 0xa521, 0xa700,
  0xa721, 0xa750, 0xa761, 0xa810, 0xa841, 0xabc0, 0xabd1, 0xabe0, 0xac61, 0xac70, 0xaca1, 0xacb0,
  0xace1, 0xae20, 0xae41, 0xafa0, 0xb001, 0xb010, 0xb041, 0xb3c0, 0xb3d1, 0xb3e0, 0xb451, 0xb470,
  0xb491, 0xb4b0, 0xb4e1, 0xb550, 0xb581, 0xb620, 0xb641, 0xb820, 0xb831, 0xbbe0, 0xbc31, 0xbc60,
  0xbc91, 0xbca0, 0xbce1, 0xbd70, 0xbd81, 0xc000, 0xc051, 0xc3c0, 0xc3d1, 0xc3e0, 0xc451, 0xc460,
  0xc491, 0xc4a0, 0xc4e1, 0xc550, 0xc571, 0xc620, 0xc641, 0xc810, 0xc841, 0xcbc0, 0xcbd1, 0xcbe0,
  0xcc51, 0xcc60, 0xcc91, 0xcca0, 0xcce1, 0xcd50, 0xcd71, 0xce20, 0xce41, 0xcf30, 0xcf41, 0xd000,
  0xd041, 0xd3b0, 0xd3d1, 0xd3e0, 0xd451, 0xd460, 0xd491, 0xd4a0, 0xd4e1, 0xd570, 0xd581, 0xd620,
  0xd641, 0xd810, 0xd841, 0xdca0, 0xdcb1, 0xdcf0, 0xdd51, 0xdd60, 0xdd71, 0xdd80, 0xde01, 0xdf20,
  0xdf41, 0xe310, 0xe321, 0xe340, 0xe3b1, 0xe470, 0xe4f1, 0xeb10, 0xeb21, 0xeb40, 0xebd1, 0xec80,
  0xecf1, 0xf180, 0xf1a1, 0xf350, 0xf361, 0xf370, 0xf381, 0xf390, 0xf3a1, 0xf3e0, 0xf401, 0xf710,
  0xf851, 0xf860, 0xf881, 0xf8d0, 0xf981, 0xf990, 0xfbd1, 0xfc60, 0xfc71, 0x102b0, 0x103f1, 0x10560,
  0x105a1, 0x105e0, 0x10611, 0x10620, 0x10651, 0x10670, 0x106e1, 0x10710, 0x10751, 0x10820, 0x108e1,
  0x108f0, 0x10901, 0x109a0, 0x109e1, 0x11002, 0x11600, 0x12001, 0x135d0, 0x13601, 0x17120, 0x17161,
  0x17320, 0x17351, 0x17520, 0x17541, 0x17720, 0x17741, 0x17b40, 0x17d41, 0x17dd0, 0x17de1, 0x180b0,
  0x18101, 0x18850, 0x18871, 0x18a90, 0x18aa1, 0x19200, 0x192c1, 0x19300, 0x193c1, 0x1a170, 0x1a1c1,
  0x1a550, 0x1a5f1, 0x1a600, 0x1a7d1, 0x1a7f0, 0x1a801, 0x1ab00, 0x1ade1, 0x1ae00, 0x1aec1, 0x1b000,
  0x1b051, 0x1b340, 0x1b451, 0x1b6b0, 0x1b741, 0x1b800, 0x1b831, 0x1ba10, 0x1bae1, 0x1be60, 0x1bf41,
  0x1c240, 0x1c381, 0x1cd00, 0x1cd31, 0x1cd40, 0x1ce91, 0x1ced0, 0x1cee1, 0x1cf40, 0x1cf51, 0x1cf70,
  0x1cfa1, 0x1dc00, 0x1e001, 0x200b0, 0x20101, 0x20280, 0x202f1, 0x20600, 0x20701, 0x20d00, 0x20f11,
  0x231a2, 0x231c1, 0x23292, 0x232b1, 0x23e92, 0x23ed1, 0x23f02, 0x23f11, 0x23f32, 0x23f41, 0x25fd2,
  0x25ff1, 0x26142, 0x26161, 0x26302, 0x26381, 0x26482, 0x26541, 0x267f2, 0x26801, 0x268a2, 0x26901,
  0x26932, 0x26941, 0x26a12, 0x26a21, 0x26aa2, 0x26ac1, 0x26bd2, 0x26bf1, 0x26c42, 0x26c61, 0x26ce2,
  0x26cf1, 0x26d42, 0x26d51, 0x26ea2, 0x26eb1, 0x26f22, 0x26f41, 0x26f52, 0x26f61, 0x26fa2, 0x26fb1,
  0x26fd2, 0x26fe1, 0x27052, 0x27061, 0x270a2, 0x270c1, 0x27282, 0x27291, 0x274c2, 0x274d1, 0x274e2,
  0x274f1, 0x27532, 0x27561, 0x27572, 0x27581, 0x27952, 0x27981, 0x27b02, 0x27b11, 0x27bf2, 0x27c01,
  0x2b1b2, 0x2b1d1, 0x2b502, 0x2b511, 0x2b552, 0x2b561, 0x2cef0, 0x2cf21, 0x2d7f0, 0x2d801, 0x2de00,
  0x2e001, 0x2e802, 0x2e9a1, 0x2e9b2, 0x2ef41, 0x2f002, 0x2fd61, 0x2ff02, 0x302a0, 0x30302, 0x303f1,
  0x30412, 0x30971, 0x30990, 0x309b2, 0x31001, 0x31052, 0x31301, 0x31312, 0x31640, 0x31652, 0x318f1,
  0x31902, 0x31e61, 0x31ef2, 0x321f1, 0x32202, 0x32481, 0x32502, 0xa48d1, 0xa4902, 0xa4c71, 0xa66f0,
  0xa6731, 0xa6740, 0xa67e1, 0xa69e0, 0xa6a01, 0xa6f00, 0xa6f21, 0xa8020, 0xa8031, 0xa8060, 0xa8071,
  0xa80b0, 0xa80c1, 0xa8230, 0xa8281, 0xa82c0, 0xa82d1, 0xa8800, 0xa8821, 0xa8b40, 0xa8c61, 0xa8e00,
  0xa8f21, 0xa8ff0, 0xa9001, 0xa9260, 0xa92e1, 0xa9470, 0xa9541, 0xa9602, 0xa97d1, 0xa9800, 0xa9841,
  0xa9b30, 0xa9c11, 0xa9e50, 0xa9e61, 0xaa290, 0xaa371, 0xaa430, 0xaa441, 0xaa4c0, 0xaa4e1, 0xaa7b0,
  0xaa7e1, 0xaab00, 0xaab11, 0xaab20, 0xaab51, 0xaab70, 0xaab91, 0xaabe0, 0xaac01, 0xaac10, 0xaac21,
  0xaaeb0, 0xaaf01, 0xaaf50, 0xaaf71, 0xabe30, 0xabeb1, 0xabec0, 0xabee1, 0xac002, 0xd7a41, 0xd7b00,
  0xe0001, 0xf9002, 0xfb001, 0xfb1e0, 0xfb1f1, 0xfe000, 0xfe102, 0xfe1a1, 0xfe200, 0xfe302, 0xfe531,
  0xfe542, 0xfe671, 0xfe682, 0xfe6c1, 0xfeff0, 0xff001, 0xff012, 0xff611, 0xffa00, 0xffa11, 0xffe02,
  0xffe71, 0xfff00, 0xfffc1, 0x101fd0, 0x101fe1, 0x102e00, 0x102e11, 0x103760, 0x1037b1, 0x10a010,
  0x10a041, 0x10a050, 0x10a071, 0x10a0c0, 0x10a101, 0x10a380, 0x10a3b1, 0x10a3f0, 0x10a401,
  0x10ae50, 0x10ae71, 0x10d240, 0x10d281, 0x10d690, 0x10d6e1, 0x10eab0, 0x10ead1, 0x10efa0,
  0x10f001, 0x10f460, 0x10f511, 0x10f820, 0x10f861, 0x110000, 0x110031, 0x110380, 0x110471,
  0x110700, 0x110711, 0x110730, 0x110751, 0x1107f0, 0x110831, 0x110b00, 0x110bb1, 0x110c20,
  0x110c31, 0x111000, 0x111031, 0x111270, 0x111351, 0x111450, 0x111471, 0x111730, 0x111741,
  0x111800, 0x111831, 0x111b30, 0x111c11, 0x111c90, 0x111cd1, 0x111ce0, 0x111d01, 0x1122c0,
  0x112381, 0x1123e0, 0x1123f1, 0x112410, 0x112421, 0x112df0, 0x112eb1, 0x113000, 0x113041,
  0x1133b0, 0x1133d1, 0x1133e0, 0x113451, 0x113470, 0x113491, 0x1134b0, 0x1134e1, 0x113570,
  0x113581, 0x113620, 0x113641, 0x113660, 0x1136d1, 0x113700, 0x113751, 0x113b80, 0x113c11,
  0x113c20, 0x113c31, 0x113c50, 0x113c61, 0x113c70, 0x113cb1, 0x113cc0, 0x113d11, 0x113d20,
  0x113d31, 0x113e10, 0x113e31, 0x114350, 0x114471, 0x1145e0, 0x1145f1, 0x114b00, 0x114c41,
  0x115af0, 0x115b61, 0x115b80, 0x115c11, 0x115dc0, 0x115de1, 0x116300, 0x116411, 0x116ab0,
  0x116b81, 0x1171d0, 0x1172c1, 0x1182c0, 0x1183b1, 0x119300, 0x119361, 0x119370, 0x119391,
  0x1193b0, 0x1193f1, 0x119400, 0x119411, 0x119420, 0x119441, 0x119d10, 0x119d81, 0x119da0,
  0x119e11, 0x119e40, 0x119e51, 0x11a010, 0x11a0b1, 0x11a330, 0x11a3a1, 0x11a3b0, 0x11a3f1,
  0x11a470, 0x11a481, 0x11a510, 0x11a5c1, 0x11a8a0, 0x11a9a1, 0x11b600, 0x11b681, 0x11c2f0,
  0x11c371, 0x11c380, 0x11c401, 0x11c920, 0x11ca81, 0x11ca90, 0x11cb71, 0x11d310, 0x11d371,
  0x11d3a0, 0x11d3b1, 0x11d3c0, 0x11d3e1, 0x11d3f0, 0x11d461, 0x11d470, 0x11d481, 0x11d8a0,
  0x11d8f1, 0x11d900, 0x11d921, 0x11d930, 0x11d981, 0x11ef30, 0x11ef71, 0x11f000, 0x11f021,
  0x11f030, 0x11f041, 0x11f340, 0x11f3b1, 0x11f3e0, 0x11f431, 0x11f5a0, 0x11f5b1, 0x134300,
  0x134411, 0x134470, 0x134561, 0x1611e0, 0x161301, 0x16af00, 0x16af51, 0x16b300, 0x16b371,
  0x16f4f0, 0x16f501, 0x16f510, 0x16f881, 0x16f8f0, 0x16f931, 0x16fe02, 0x16fe40, 0x16fe51,
  0x16ff00, 0x16ff22, 0x16ff71, 0x170002, 0x18cd61, 0x18cff2, 0x18d1f1, 0x18d802, 0x18df31,
  0x1aff02, 0x1aff41, 0x1aff52, 0x1affc1, 0x1affd2, 0x1afff1, 0x1b0002, 0x1b1231, 0x1b1322,
  0x1b1331, 0x1b1502, 0x1b1531, 0x1b1552, 0x1b1561, 0x1b1642, 0x1b1681, 0x1b1702, 0x1b2fc1,
  0x1bc9d0, 0x1bc9f1, 0x1bca00, 0x1bca41, 0x1cf000, 0x1cf2e1, 0x1cf300, 0x1cf471, 0x1d1650,
  0x1d16a1, 0x1d16d0, 0x1d1831, 0x1d1850, 0x1d18c1, 0x1d1aa0, 0x1d1ae1, 0x1d2420, 0x1d2451,
  0x1d3002, 0x1d3571, 0x1d3602, 0x1d3771, 0x1da000, 0x1da371, 0x1da3b0, 0x1da6d1, 0x1da750,
  0x1da761, 0x1da840, 0x1da851, 0x1da9b0, 0x1daa01, 0x1daa10, 0x1dab01, 0x1e0000, 0x1e0071,
  0x1e0080, 0x1e0191, 0x1e01b0, 0x1e0221, 0x1e0230, 0x1e0251, 0x1e0260, 0x1e02b1, 0x1e08f0,
  0x1e0901, 0x1e1300, 0x1e1371, 0x1e2ae0, 0x1e2af1, 0x1e2ec0, 0x1e2f01, 0x1e4ec0, 0x1e4f01,
  0x1e5ee0, 0x1e5f01, 0x1e6e30, 0x1e6e41, 0x1e6e60, 0x1e6e71, 0x1e6ee0, 0x1e6f01, 0x1e6f50,
  0x1e6f61, 0x1e8d00, 0x1e8d71, 0x1e9440, 0x1e94b1, 0x1f0042, 0x1f0051, 0x1f0cf2, 0x1f0d01,
  0x1f18e2, 0x1f18f1, 0x1f1912, 0x1f19b1, 0x1f2002, 0x1f2031, 0x1f2102, 0x1f23c1, 0x1f2402,
  0x1f2491, 0x1f2502, 0x1f2521, 0x1f2602, 0x1f2661, 0x1f3002, 0x1f3211, 0x1f32d2, 0x1f3361,
  0x1f3372, 0x1f37d1, 0x1f37e2, 0x1f3941, 0x1f3a02, 0x1f3cb1, 0x1f3cf2, 0x1f3d41, 0x1f3e02,
  0x1f3f11, 0x1f3f42, 0x1f3f51, 0x1f3f82, 0x1f3fb0, 0x1f4002, 0x1f43f1, 0x1f4402, 0x1f4411,
  0x1f4422, 0x1f4fd1, 0x1f4ff2, 0x1f53e1, 0x1f54b2, 0x1f54f1, 0x1f5502, 0x1f5681, 0x1f57a2,
  0x1f57b1, 0x1f5952, 0x1f5971, 0x1f5a42, 0x1f5a51, 0x1f5fb2, 0x1f6501, 0x1f6802, 0x1f6c61,
  0x1f6cc2, 0x1f6cd1, 0x1f6d02, 0x1f6d31, 0x1f6d52, 0x1f6d91, 0x1f6dc2, 0x1f6e01, 0x1f6eb2,
  0x1f6ed1, 0x1f6f42, 0x1f6fd1, 0x1f7e02, 0x1f7ec1, 0x1f7f02, 0x1f7f11, 0x1f90c2, 0x1f93b1,
  0x1f93c2, 0x1f9461, 0x1f9472, 0x1fa001, 0x1fa702, 0x1fa7d1, 0x1fa802, 0x1fa8b1, 0x1fa8e2,
  0x1fac71, 0x1fac82, 0x1fac91, 0x1facd2, 0x1fadd1, 0x1fadf2, 0x1faeb1, 0x1faef2, 0x1faf91,
  0x200002, 0x2fffe1, 0x300002, 0x3fffe1, 0xe00000, 0xe10001]

/-- The number of cells that a character takes by itself. -/
def cellWidth (c : Char) : Nat :=
  if 32 ≤ c.toNat && c.toNat < 127 then 1
  else widthRuns.getD (floorIndex widthRuns (c.toNat * 16 + 15) 11 0) 1 % 16

/-- Runs of narrow symbols that also have the form of an emoji. -/
def symbolRuns : List (Nat × Nat) := [
  (0x23, 0x23), (0x2a, 0x2a), (0x30, 0x39), (0xa9, 0xa9), (0xae, 0xae), (0x203c, 0x203c),
  (0x2049, 0x2049), (0x2122, 0x2122), (0x2139, 0x2139), (0x2194, 0x2199), (0x21a9, 0x21aa),
  (0x2328, 0x2328), (0x23cf, 0x23cf), (0x23ed, 0x23ef), (0x23f1, 0x23f2), (0x23f8, 0x23fa),
  (0x24c2, 0x24c2), (0x25aa, 0x25ab), (0x25b6, 0x25b6), (0x25c0, 0x25c0), (0x25fb, 0x25fc),
  (0x2600, 0x2604), (0x260e, 0x260e), (0x2611, 0x2611), (0x2618, 0x2618), (0x261d, 0x261d),
  (0x2620, 0x2620), (0x2622, 0x2623), (0x2626, 0x2626), (0x262a, 0x262a), (0x262e, 0x262f),
  (0x2638, 0x263a), (0x2640, 0x2640), (0x2642, 0x2642), (0x265f, 0x2660), (0x2663, 0x2663),
  (0x2665, 0x2666), (0x2668, 0x2668), (0x267b, 0x267b), (0x267e, 0x267e), (0x2692, 0x2692),
  (0x2694, 0x2697), (0x2699, 0x2699), (0x269b, 0x269c), (0x26a0, 0x26a0), (0x26a7, 0x26a7),
  (0x26b0, 0x26b1), (0x26c8, 0x26c8), (0x26cf, 0x26cf), (0x26d1, 0x26d1), (0x26d3, 0x26d3),
  (0x26e9, 0x26e9), (0x26f0, 0x26f1), (0x26f4, 0x26f4), (0x26f7, 0x26f9), (0x2702, 0x2702),
  (0x2708, 0x2709), (0x270c, 0x270d), (0x270f, 0x270f), (0x2712, 0x2712), (0x2714, 0x2714),
  (0x2716, 0x2716), (0x271d, 0x271d), (0x2721, 0x2721), (0x2733, 0x2734), (0x2744, 0x2744),
  (0x2747, 0x2747), (0x2763, 0x2764), (0x27a1, 0x27a1), (0x2934, 0x2935), (0x2b05, 0x2b07),
  (0x1f170, 0x1f171), (0x1f17e, 0x1f17f), (0x1f321, 0x1f321), (0x1f324, 0x1f32c),
  (0x1f336, 0x1f336), (0x1f37d, 0x1f37d), (0x1f396, 0x1f397), (0x1f399, 0x1f39b),
  (0x1f39e, 0x1f39f), (0x1f3cb, 0x1f3ce), (0x1f3d4, 0x1f3df), (0x1f3f3, 0x1f3f3),
  (0x1f3f5, 0x1f3f5), (0x1f3f7, 0x1f3f7), (0x1f43f, 0x1f43f), (0x1f441, 0x1f441),
  (0x1f4fd, 0x1f4fd), (0x1f549, 0x1f54a), (0x1f56f, 0x1f570), (0x1f573, 0x1f579),
  (0x1f587, 0x1f587), (0x1f58a, 0x1f58d), (0x1f590, 0x1f590), (0x1f5a5, 0x1f5a5),
  (0x1f5a8, 0x1f5a8), (0x1f5b1, 0x1f5b2), (0x1f5bc, 0x1f5bc), (0x1f5c2, 0x1f5c4),
  (0x1f5d1, 0x1f5d3), (0x1f5dc, 0x1f5de), (0x1f5e1, 0x1f5e1), (0x1f5e3, 0x1f5e3),
  (0x1f5e8, 0x1f5e8), (0x1f5ef, 0x1f5ef), (0x1f5f3, 0x1f5f3), (0x1f5fa, 0x1f5fa),
  (0x1f6cb, 0x1f6cb), (0x1f6cd, 0x1f6cf), (0x1f6e0, 0x1f6e5), (0x1f6e9, 0x1f6e9),
  (0x1f6f0, 0x1f6f0), (0x1f6f3, 0x1f6f3)]

/-- Whether the emoji selector makes a character wide. -/
def widens (c : Char) : Bool := symbolRuns.any fun run => run.1 ≤ c.toNat && c.toNat ≤ run.2

/-- The character that joins the next one to what is before it. -/
def joiner : Char := '\u200d'

/-- The character that asks for the form of an emoji. -/
def emojiSelector : Char := '\ufe0f'

/-- The number of cells that a text takes; `last` is the character that a selector would be
    about. -/
def cellsFrom (last : Option Char) : List Char → Nat
  | [] => 0
  | [c] => if c = joiner then 0 else if c = emojiSelector then selected else cellWidth c
  | c :: d :: cs =>
    if c = joiner then cellsFrom last cs
    else if c = emojiSelector then selected + cellsFrom none (d :: cs)
    else cellWidth c + cellsFrom (if cellWidth c = 0 then last else some c) (d :: cs)
where
  /-- The cells that a selector adds. -/
  selected : Nat := if last.any widens then 1 else 0

/-- The number of cells that a text takes. -/
def cellsWidth (cs : List Char) : Nat := cellsFrom none cs

/-- What is seen as one character, and the cells that it takes. -/
structure Cluster where
  chars : List Char
  cells : Nat
  deriving DecidableEq, Repr

/-- The cluster with a text of no width of its own behind it. -/
def Cluster.with (k : Cluster) (cs : List Char) : Cluster := { k with chars := k.chars ++ cs }

/-- The clusters of a text; `hand` is the one in hand, and `last` the character that a selector
    would be about. -/
def clustersFrom (hand : Cluster) (last : Option Char) : List Char → List Cluster
  | [] => [hand]
  | [c] =>
    if c = joiner then [hand.with [c]]
    else if c = emojiSelector then [selected]
    else if cellWidth c = 0 then [hand.with [c]]
    else [hand, ⟨[c], cellWidth c⟩]
  | c :: d :: cs =>
    if c = joiner then clustersFrom (hand.with [c, d]) last cs
    else if c = emojiSelector then clustersFrom selected none (d :: cs)
    else if cellWidth c = 0 then clustersFrom (hand.with [c]) last (d :: cs)
    else hand :: clustersFrom ⟨[c], cellWidth c⟩ (some c) (d :: cs)
where
  /-- The cluster in hand with a selector behind it. -/
  selected : Cluster :=
    ⟨hand.chars ++ [emojiSelector], if last.any widens then hand.cells + 1 else hand.cells⟩

/-- The clusters of a text. -/
def clusters : List Char → List Cluster
  | [] => []
  | c :: cs => clustersFrom ⟨[c], cellWidth c⟩ (if cellWidth c = 0 then none else some c) cs

theorem flatMap_clustersFrom (hand : Cluster) (last : Option Char) (cs : List Char) :
    (clustersFrom hand last cs).flatMap Cluster.chars = hand.chars ++ cs := by
  fun_induction clustersFrom hand last cs with
  | case1 => simp
  | case2 => simp [Cluster.with]
  | case3 => simp [clustersFrom.selected]
  | case4 => simp [Cluster.with]
  | case5 => simp
  | case6 _ _ _ _ ih => rw [ih]; simp [Cluster.with]
  | case7 _ _ _ _ _ ih => rw [ih]; simp [clustersFrom.selected]
  | case8 _ _ _ _ _ _ _ _ ih => rw [ih]; simp [Cluster.with]
  | case9 _ _ _ _ _ _ _ _ ih => simp [ih]

/-- The clusters of a text make up the text. -/
theorem flatMap_clusters (cs : List Char) : (clusters cs).flatMap Cluster.chars = cs := by
  cases cs with
  | nil => rfl
  | cons c cs => simp [clusters, flatMap_clustersFrom]

/-- The first `width` cells of some clusters; a wide one that would be cut in half is replaced by
    a space. -/
def takeClusters : Nat → List Cluster → List Char
  | 0, _ => []
  | _, [] => []
  | width, k :: ks =>
    if k.cells ≤ width then k.chars ++ takeClusters (width - k.cells) ks else [' ']

/-- The first `width` cells of a text. -/
def takeCells (width : Nat) (cs : List Char) : List Char := takeClusters width (clusters cs)

/-- `cs` followed by the spaces that bring it to `width` cells. -/
def padCells (width : Nat) (cs : List Char) : List Char :=
  cs ++ List.replicate (width - cellsWidth cs) ' '

end Scaffold.Text
