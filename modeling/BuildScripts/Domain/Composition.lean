import BuildScripts.Text.Basic

namespace BuildScripts.Domain

open BuildScripts.Text

def combiningEdges : List Nat := [
  0x300, 0x371, 0x483, 0x48b, 0x591, 0x5d0, 0x610, 0x620, 0x64b, 0x660, 0x670, 0x671, 0x6d6,
  0x6e5, 0x6e7, 0x6ee, 0x711, 0x712, 0x730, 0x74d, 0x7a6, 0x7b1, 0x7eb, 0x7f4, 0x7fd, 0x800,
  0x816, 0x81a, 0x81b, 0x824, 0x825, 0x828, 0x829, 0x840, 0x859, 0x860, 0x898, 0x8a0, 0x8ca,
  0x904, 0x93a, 0x93d, 0x93e, 0x950, 0x951, 0x960, 0x962, 0x966, 0x981, 0x985, 0x9bc, 0x9bd,
  0x9be, 0x9ce, 0x9d7, 0x9e0, 0x9e2, 0x9e6, 0x9fe, 0xa05, 0xa3c, 0xa5c, 0xa70, 0xa72, 0xa75,
  0xa85, 0xabc, 0xabd, 0xabe, 0xad0, 0xae2, 0xae6, 0xafa, 0xb05, 0xb3c, 0xb3d, 0xb3e, 0xb5f,
  0xb62, 0xb66, 0xb82, 0xb83, 0xbbe, 0xbd0, 0xbd7, 0xbe6, 0xc00, 0xc05, 0xc3c, 0xc3d, 0xc3e,
  0xc58, 0xc62, 0xc66, 0xc81, 0xc85, 0xcbc, 0xcbd, 0xcbe, 0xcdd, 0xce2, 0xce6, 0xd00, 0xd04,
  0xd3b, 0xd3d, 0xd3e, 0xd4e, 0xd57, 0xd5f, 0xd62, 0xd66, 0xd81, 0xd85, 0xdca, 0xde6, 0xdf2,
  0xe01, 0xe31, 0xe32, 0xe34, 0xe40, 0xe47, 0xe50, 0xeb1, 0xeb2, 0xeb4, 0xebd, 0xec8, 0xed0,
  0xf18, 0xf20, 0xf35, 0xf40, 0xf71, 0xf88, 0xf8d, 0x1000, 0x102b, 0x103f, 0x1056, 0x105a, 0x105e,
  0x1061, 0x1062, 0x1065, 0x1067, 0x106e, 0x1071, 0x1075, 0x1082, 0x108e, 0x108f, 0x1090, 0x109a,
  0x10d0, 0x135d, 0x1380, 0x1712, 0x171f, 0x1732, 0x1740, 0x1752, 0x1760, 0x1772, 0x1780, 0x17b6,
  0x17d7, 0x17dd, 0x17e0, 0x1885, 0x1887, 0x18a9, 0x18aa, 0x1920, 0x1946, 0x1a17, 0x1a20, 0x1a55,
  0x1a80, 0x1ab0, 0x1b05, 0x1b34, 0x1b45, 0x1b6b, 0x1b83, 0x1ba1, 0x1bae, 0x1be6, 0x1c00, 0x1c24,
  0x1c40, 0x1cd0, 0x1ce9, 0x1ced, 0x1cee, 0x1cf4, 0x1cf5, 0x1cf7, 0x1cfa, 0x1dc0, 0x1e01, 0x2cef,
  0x2cf3, 0x2d7f, 0x2d80, 0x2de0, 0x2e2f, 0x302a, 0x303c, 0x3099, 0x309d, 0xa66f, 0xa67f, 0xa69e,
  0xa6a0, 0xa6f0, 0xa717, 0xa802, 0xa803, 0xa806, 0xa807, 0xa80b, 0xa80c, 0xa823, 0xa840, 0xa880,
  0xa882, 0xa8b4, 0xa8d0, 0xa8e0, 0xa8f2, 0xa8ff, 0xa900, 0xa926, 0xa930, 0xa947, 0xa984, 0xa9b3,
  0xa9cf, 0xa9e5, 0xa9e6, 0xaa29, 0xaa40, 0xaa43, 0xaa44, 0xaa4c, 0xaa50, 0xaa7b, 0xaa7e, 0xaab0,
  0xaab1, 0xaab2, 0xaab5, 0xaab7, 0xaab9, 0xaabe, 0xaac0, 0xaac1, 0xaac2, 0xaaeb, 0xaaf2, 0xaaf5,
  0xab01, 0xabe3, 0xabf0, 0xfb1e, 0xfe73, 0x101fd, 0x10280, 0x102e0, 0x10300, 0x10376, 0x10380,
  0x10a01, 0x10a10, 0x10a38, 0x10a60, 0x10ae5, 0x10b00, 0x10d24, 0x10d30, 0x10eab, 0x10eb0,
  0x10f46, 0x10f70, 0x10f82, 0x10fb0, 0x11000, 0x11003, 0x11038, 0x11066, 0x11070, 0x11071,
  0x11073, 0x11075, 0x1107f, 0x11083, 0x110b0, 0x110d0, 0x11100, 0x11103, 0x11127, 0x11136,
  0x11145, 0x11147, 0x11173, 0x11176, 0x11180, 0x11183, 0x111b3, 0x111c1, 0x111c9, 0x111d0,
  0x1122c, 0x11280, 0x112df, 0x112f0, 0x11300, 0x11305, 0x1133b, 0x1133d, 0x1133e, 0x11350,
  0x11357, 0x1135d, 0x11362, 0x11400, 0x11435, 0x11447, 0x1145e, 0x1145f, 0x114b0, 0x114c4,
  0x115af, 0x115d8, 0x115dc, 0x11600, 0x11630, 0x11644, 0x116ab, 0x116b8, 0x1171d, 0x11730,
  0x1182c, 0x118c0, 0x11930, 0x1193f, 0x11940, 0x11941, 0x11942, 0x11950, 0x119d1, 0x119e1,
  0x119e4, 0x11a00, 0x11a01, 0x11a0b, 0x11a33, 0x11a3a, 0x11a3b, 0x11a50, 0x11a51, 0x11a5c,
  0x11a8a, 0x11a9d, 0x11c2f, 0x11c40, 0x11c92, 0x11d00, 0x11d31, 0x11d46, 0x11d47, 0x11d50,
  0x11d8a, 0x11d98, 0x11ef3, 0x11fb0, 0x16af0, 0x16b00, 0x16b30, 0x16b40, 0x16f4f, 0x16f50,
  0x16f51, 0x16f93, 0x16fe4, 0x17000, 0x1bc9d, 0x1df00, 0x1e000, 0x1e100, 0x1e130, 0x1e137,
  0x1e2ae, 0x1e2c0, 0x1e2ec, 0x1e2f0, 0x1e8d0, 0x1e922, 0x1e944, 0x1e94b]

def isCombining (c : Char) : Bool :=
  inEdges combiningEdges c.toNat

def classRuns : List (Nat × Nat) := [
  (0x300, 230), (0x315, 232), (0x316, 220), (0x31a, 232), (0x31b, 216), (0x31c, 220), (0x321,
  202), (0x323, 220), (0x327, 202), (0x329, 220), (0x334, 1), (0x339, 220), (0x33d, 230), (0x347,
  220), (0x34a, 230), (0x34d, 220), (0x350, 230), (0x353, 220), (0x357, 230), (0x358, 232),
  (0x359, 220), (0x35b, 230), (0x35c, 233), (0x35d, 234), (0x35f, 233), (0x360, 234), (0x362,
  233), (0x363, 230), (0x371, 0), (0x483, 230), (0x48b, 0), (0x591, 220), (0x592, 230), (0x596,
  220), (0x597, 230), (0x59a, 222), (0x59b, 220), (0x59c, 230), (0x5a2, 220), (0x5a8, 230),
  (0x5aa, 220), (0x5ab, 230), (0x5ad, 222), (0x5ae, 228), (0x5af, 230), (0x5b0, 10), (0x5b1, 11),
  (0x5b2, 12), (0x5b3, 13), (0x5b4, 14), (0x5b5, 15), (0x5b6, 16), (0x5b7, 17), (0x5b8, 18),
  (0x5b9, 19), (0x5bb, 20), (0x5bc, 21), (0x5bd, 22), (0x5bf, 23), (0x5c1, 24), (0x5c2, 25),
  (0x5c4, 230), (0x5c5, 220), (0x5c7, 18), (0x5d0, 0), (0x610, 230), (0x618, 30), (0x619, 31),
  (0x61a, 32), (0x620, 0), (0x64b, 27), (0x64c, 28), (0x64d, 29), (0x64e, 30), (0x64f, 31),
  (0x650, 32), (0x651, 33), (0x652, 34), (0x653, 230), (0x655, 220), (0x657, 230), (0x65c, 220),
  (0x65d, 230), (0x65f, 220), (0x660, 0), (0x670, 35), (0x671, 0), (0x6d6, 230), (0x6e3, 220),
  (0x6e4, 230), (0x6e5, 0), (0x6e7, 230), (0x6ea, 220), (0x6eb, 230), (0x6ed, 220), (0x6ee, 0),
  (0x711, 36), (0x712, 0), (0x730, 230), (0x731, 220), (0x732, 230), (0x734, 220), (0x735, 230),
  (0x737, 220), (0x73a, 230), (0x73b, 220), (0x73d, 230), (0x73e, 220), (0x73f, 230), (0x742,
  220), (0x743, 230), (0x744, 220), (0x745, 230), (0x746, 220), (0x747, 230), (0x748, 220),
  (0x749, 230), (0x74d, 0), (0x7eb, 230), (0x7f2, 220), (0x7f3, 230), (0x7f4, 0), (0x7fd, 220),
  (0x800, 0), (0x816, 230), (0x81a, 0), (0x81b, 230), (0x824, 0), (0x825, 230), (0x828, 0),
  (0x829, 230), (0x840, 0), (0x859, 220), (0x860, 0), (0x898, 230), (0x899, 220), (0x89c, 230),
  (0x8a0, 0), (0x8ca, 230), (0x8cf, 220), (0x8d4, 230), (0x8e3, 220), (0x8e4, 230), (0x8e6, 220),
  (0x8e7, 230), (0x8e9, 220), (0x8ea, 230), (0x8ed, 220), (0x8f0, 27), (0x8f1, 28), (0x8f2, 29),
  (0x8f3, 230), (0x8f6, 220), (0x8f7, 230), (0x8f9, 220), (0x8fb, 230), (0x900, 0), (0x93c, 7),
  (0x93d, 0), (0x94d, 9), (0x94e, 0), (0x951, 230), (0x952, 220), (0x953, 230), (0x955, 0),
  (0x9bc, 7), (0x9bd, 0), (0x9cd, 9), (0x9ce, 0), (0x9fe, 230), (0xa01, 0), (0xa3c, 7), (0xa3e,
  0), (0xa4d, 9), (0xa51, 0), (0xabc, 7), (0xabd, 0), (0xacd, 9), (0xad0, 0), (0xb3c, 7), (0xb3d,
  0), (0xb4d, 9), (0xb55, 0), (0xbcd, 9), (0xbd0, 0), (0xc3c, 7), (0xc3d, 0), (0xc4d, 9), (0xc55,
  84), (0xc56, 91), (0xc58, 0), (0xcbc, 7), (0xcbd, 0), (0xccd, 9), (0xcd5, 0), (0xd3b, 9),
  (0xd3d, 0), (0xd4d, 9), (0xd4e, 0), (0xdca, 9), (0xdcf, 0), (0xe38, 103), (0xe3a, 9), (0xe40,
  0), (0xe48, 107), (0xe4c, 0), (0xeb8, 118), (0xeba, 9), (0xebb, 0), (0xec8, 122), (0xecc, 0),
  (0xf18, 220), (0xf20, 0), (0xf35, 220), (0xf39, 216), (0xf3e, 0), (0xf71, 129), (0xf72, 130),
  (0xf74, 132), (0xf7a, 130), (0xf7e, 0), (0xf80, 130), (0xf82, 230), (0xf84, 9), (0xf86, 230),
  (0xf88, 0), (0xfc6, 220), (0x1000, 0), (0x1037, 7), (0x1038, 0), (0x1039, 9), (0x103b, 0),
  (0x108d, 220), (0x108e, 0), (0x135d, 230), (0x1380, 0), (0x1714, 9), (0x171f, 0), (0x1734, 9),
  (0x1740, 0), (0x17d2, 9), (0x17d3, 0), (0x17dd, 230), (0x17e0, 0), (0x18a9, 228), (0x18aa, 0),
  (0x1939, 222), (0x193a, 230), (0x193b, 220), (0x1946, 0), (0x1a17, 230), (0x1a18, 220), (0x1a19,
  0), (0x1a60, 9), (0x1a61, 0), (0x1a75, 230), (0x1a7f, 220), (0x1a80, 0), (0x1ab0, 230), (0x1ab5,
  220), (0x1abb, 230), (0x1abd, 220), (0x1ac1, 230), (0x1ac3, 220), (0x1ac5, 230), (0x1aca, 220),
  (0x1acb, 230), (0x1b00, 0), (0x1b34, 7), (0x1b35, 0), (0x1b44, 9), (0x1b45, 0), (0x1b6b, 230),
  (0x1b6c, 220), (0x1b6d, 230), (0x1b80, 0), (0x1baa, 9), (0x1bac, 0), (0x1be6, 7), (0x1be7, 0),
  (0x1bf2, 9), (0x1c00, 0), (0x1c37, 7), (0x1c40, 0), (0x1cd0, 230), (0x1cd4, 1), (0x1cd5, 220),
  (0x1cda, 230), (0x1cdc, 220), (0x1ce0, 230), (0x1ce1, 0), (0x1ce2, 1), (0x1ce9, 0), (0x1ced,
  220), (0x1cee, 0), (0x1cf4, 230), (0x1cf5, 0), (0x1cf8, 230), (0x1cfa, 0), (0x1dc0, 230),
  (0x1dc2, 220), (0x1dc3, 230), (0x1dca, 220), (0x1dcb, 230), (0x1dcd, 234), (0x1dce, 214),
  (0x1dcf, 220), (0x1dd0, 202), (0x1dd1, 230), (0x1df6, 232), (0x1df7, 228), (0x1df9, 220),
  (0x1dfa, 218), (0x1dfb, 230), (0x1dfc, 233), (0x1dfd, 220), (0x1dfe, 230), (0x1dff, 220),
  (0x1e01, 0), (0x2cef, 230), (0x2cf3, 0), (0x2d7f, 9), (0x2d80, 0), (0x2de0, 230), (0x2e2f, 0),
  (0x302a, 218), (0x302b, 228), (0x302c, 232), (0x302d, 222), (0x303c, 0), (0x3099, 8), (0x309d,
  0), (0xa66f, 230), (0xa67f, 0), (0xa69e, 230), (0xa6a0, 0), (0xa6f0, 230), (0xa717, 0), (0xa806,
  9), (0xa807, 0), (0xa82c, 9), (0xa840, 0), (0xa8c4, 9), (0xa8c5, 0), (0xa8e0, 230), (0xa8f2, 0),
  (0xa92b, 220), (0xa930, 0), (0xa953, 9), (0xa980, 0), (0xa9b3, 7), (0xa9b4, 0), (0xa9c0, 9),
  (0xa9cf, 0), (0xaab0, 230), (0xaab1, 0), (0xaab2, 230), (0xaab4, 220), (0xaab5, 0), (0xaab7,
  230), (0xaab9, 0), (0xaabe, 230), (0xaac0, 0), (0xaac1, 230), (0xaac2, 0), (0xaaf6, 9), (0xab01,
  0), (0xabed, 9), (0xabf0, 0), (0xfb1e, 26), (0xfe20, 230), (0xfe27, 220), (0xfe2e, 230),
  (0xfe73, 0), (0x101fd, 220), (0x10280, 0), (0x102e0, 220), (0x10300, 0), (0x10376, 230),
  (0x10380, 0), (0x10a0d, 220), (0x10a0e, 0), (0x10a0f, 230), (0x10a10, 0), (0x10a38, 230),
  (0x10a39, 1), (0x10a3a, 220), (0x10a3f, 9), (0x10a60, 0), (0x10ae5, 230), (0x10ae6, 220),
  (0x10b00, 0), (0x10d24, 230), (0x10d30, 0), (0x10eab, 230), (0x10eb0, 0), (0x10f46, 220),
  (0x10f48, 230), (0x10f4b, 220), (0x10f4c, 230), (0x10f4d, 220), (0x10f70, 0), (0x10f82, 230),
  (0x10f83, 220), (0x10f84, 230), (0x10f85, 220), (0x10fb0, 0), (0x11046, 9), (0x11066, 0),
  (0x11070, 9), (0x11071, 0), (0x1107f, 9), (0x11080, 0), (0x110b9, 9), (0x110ba, 7), (0x110c2,
  0), (0x11100, 230), (0x11103, 0), (0x11133, 9), (0x11136, 0), (0x11173, 7), (0x11176, 0),
  (0x111c0, 9), (0x111c1, 0), (0x111ca, 7), (0x111cb, 0), (0x11235, 9), (0x11236, 7), (0x11237,
  0), (0x112e9, 7), (0x112ea, 9), (0x112f0, 0), (0x1133b, 7), (0x1133d, 0), (0x1134d, 9),
  (0x11350, 0), (0x11366, 230), (0x11400, 0), (0x11442, 9), (0x11443, 0), (0x11446, 7), (0x11447,
  0), (0x1145e, 230), (0x1145f, 0), (0x114c2, 9), (0x114c3, 7), (0x114c4, 0), (0x115bf, 9),
  (0x115c0, 7), (0x115d8, 0), (0x1163f, 9), (0x11640, 0), (0x116b6, 9), (0x116b7, 7), (0x116b8,
  0), (0x1172b, 9), (0x11730, 0), (0x11839, 9), (0x1183a, 7), (0x118c0, 0), (0x1193d, 9),
  (0x1193f, 0), (0x11943, 7), (0x11950, 0), (0x119e0, 9), (0x119e1, 0), (0x11a34, 9), (0x11a35,
  0), (0x11a47, 9), (0x11a50, 0), (0x11a99, 9), (0x11a9d, 0), (0x11c3f, 9), (0x11c40, 0),
  (0x11d42, 7), (0x11d43, 0), (0x11d44, 9), (0x11d46, 0), (0x11d97, 9), (0x11d98, 0), (0x16af0,
  1), (0x16b00, 0), (0x16b30, 230), (0x16b40, 0), (0x16ff0, 6), (0x17000, 0), (0x1bc9e, 1),
  (0x1cf00, 0), (0x1e000, 230), (0x1e100, 0), (0x1e130, 230), (0x1e137, 0), (0x1e2ae, 230),
  (0x1e2c0, 0), (0x1e2ec, 230), (0x1e2f0, 0), (0x1e8d0, 220), (0x1e922, 0), (0x1e944, 230),
  (0x1e94a, 7), (0x1e94b, 0)]

def combiningClass (n : Nat) : Nat :=
  (classRuns.takeWhile fun (first, _) => first ≤ n).getLast?.elim 0 (·.2)

structure Composite where
  code : Nat
  base : Nat
  mark : Nat

def composites : List Composite := [
  ⟨0xe0, 0x61, 0x300⟩, ⟨0xe1, 0x61, 0x301⟩, ⟨0xe2, 0x61, 0x302⟩, ⟨0xe3, 0x61, 0x303⟩, ⟨0xe4, 0x61,
  0x308⟩, ⟨0xe5, 0x61, 0x30a⟩, ⟨0xe7, 0x63, 0x327⟩, ⟨0xe8, 0x65, 0x300⟩, ⟨0xe9, 0x65, 0x301⟩,
  ⟨0xea, 0x65, 0x302⟩, ⟨0xeb, 0x65, 0x308⟩, ⟨0xec, 0x69, 0x300⟩, ⟨0xed, 0x69, 0x301⟩, ⟨0xee, 0x69,
  0x302⟩, ⟨0xef, 0x69, 0x308⟩, ⟨0xf1, 0x6e, 0x303⟩, ⟨0xf2, 0x6f, 0x300⟩, ⟨0xf3, 0x6f, 0x301⟩,
  ⟨0xf4, 0x6f, 0x302⟩, ⟨0xf5, 0x6f, 0x303⟩, ⟨0xf6, 0x6f, 0x308⟩, ⟨0xf9, 0x75, 0x300⟩, ⟨0xfa, 0x75,
  0x301⟩, ⟨0xfb, 0x75, 0x302⟩, ⟨0xfc, 0x75, 0x308⟩, ⟨0xfd, 0x79, 0x301⟩, ⟨0xff, 0x79, 0x308⟩,
  ⟨0x101, 0x61, 0x304⟩, ⟨0x103, 0x61, 0x306⟩, ⟨0x105, 0x61, 0x328⟩, ⟨0x107, 0x63, 0x301⟩, ⟨0x109,
  0x63, 0x302⟩, ⟨0x10b, 0x63, 0x307⟩, ⟨0x10d, 0x63, 0x30c⟩, ⟨0x10f, 0x64, 0x30c⟩, ⟨0x113, 0x65,
  0x304⟩, ⟨0x115, 0x65, 0x306⟩, ⟨0x117, 0x65, 0x307⟩, ⟨0x119, 0x65, 0x328⟩, ⟨0x11b, 0x65, 0x30c⟩,
  ⟨0x11d, 0x67, 0x302⟩, ⟨0x11f, 0x67, 0x306⟩, ⟨0x121, 0x67, 0x307⟩, ⟨0x123, 0x67, 0x327⟩, ⟨0x125,
  0x68, 0x302⟩, ⟨0x129, 0x69, 0x303⟩, ⟨0x12b, 0x69, 0x304⟩, ⟨0x12d, 0x69, 0x306⟩, ⟨0x12f, 0x69,
  0x328⟩, ⟨0x135, 0x6a, 0x302⟩, ⟨0x137, 0x6b, 0x327⟩, ⟨0x13a, 0x6c, 0x301⟩, ⟨0x13c, 0x6c, 0x327⟩,
  ⟨0x13e, 0x6c, 0x30c⟩, ⟨0x144, 0x6e, 0x301⟩, ⟨0x146, 0x6e, 0x327⟩, ⟨0x148, 0x6e, 0x30c⟩, ⟨0x14d,
  0x6f, 0x304⟩, ⟨0x14f, 0x6f, 0x306⟩, ⟨0x151, 0x6f, 0x30b⟩, ⟨0x155, 0x72, 0x301⟩, ⟨0x157, 0x72,
  0x327⟩, ⟨0x159, 0x72, 0x30c⟩, ⟨0x15b, 0x73, 0x301⟩, ⟨0x15d, 0x73, 0x302⟩, ⟨0x15f, 0x73, 0x327⟩,
  ⟨0x161, 0x73, 0x30c⟩, ⟨0x163, 0x74, 0x327⟩, ⟨0x165, 0x74, 0x30c⟩, ⟨0x169, 0x75, 0x303⟩, ⟨0x16b,
  0x75, 0x304⟩, ⟨0x16d, 0x75, 0x306⟩, ⟨0x16f, 0x75, 0x30a⟩, ⟨0x171, 0x75, 0x30b⟩, ⟨0x173, 0x75,
  0x328⟩, ⟨0x175, 0x77, 0x302⟩, ⟨0x177, 0x79, 0x302⟩, ⟨0x17a, 0x7a, 0x301⟩, ⟨0x17c, 0x7a, 0x307⟩,
  ⟨0x17e, 0x7a, 0x30c⟩, ⟨0x1a1, 0x6f, 0x31b⟩, ⟨0x1b0, 0x75, 0x31b⟩, ⟨0x1ce, 0x61, 0x30c⟩, ⟨0x1d0,
  0x69, 0x30c⟩, ⟨0x1d2, 0x6f, 0x30c⟩, ⟨0x1d4, 0x75, 0x30c⟩, ⟨0x1d6, 0xfc, 0x304⟩, ⟨0x1d8, 0xfc,
  0x301⟩, ⟨0x1da, 0xfc, 0x30c⟩, ⟨0x1dc, 0xfc, 0x300⟩, ⟨0x1df, 0xe4, 0x304⟩, ⟨0x1e1, 0x227, 0x304⟩,
  ⟨0x1e3, 0xe6, 0x304⟩, ⟨0x1e7, 0x67, 0x30c⟩, ⟨0x1e9, 0x6b, 0x30c⟩, ⟨0x1eb, 0x6f, 0x328⟩, ⟨0x1ed,
  0x1eb, 0x304⟩, ⟨0x1ef, 0x292, 0x30c⟩, ⟨0x1f0, 0x6a, 0x30c⟩, ⟨0x1f5, 0x67, 0x301⟩, ⟨0x1f9, 0x6e,
  0x300⟩, ⟨0x1fb, 0xe5, 0x301⟩, ⟨0x1fd, 0xe6, 0x301⟩, ⟨0x1ff, 0xf8, 0x301⟩, ⟨0x201, 0x61, 0x30f⟩,
  ⟨0x203, 0x61, 0x311⟩, ⟨0x205, 0x65, 0x30f⟩, ⟨0x207, 0x65, 0x311⟩, ⟨0x209, 0x69, 0x30f⟩, ⟨0x20b,
  0x69, 0x311⟩, ⟨0x20d, 0x6f, 0x30f⟩, ⟨0x20f, 0x6f, 0x311⟩, ⟨0x211, 0x72, 0x30f⟩, ⟨0x213, 0x72,
  0x311⟩, ⟨0x215, 0x75, 0x30f⟩, ⟨0x217, 0x75, 0x311⟩, ⟨0x219, 0x73, 0x326⟩, ⟨0x21b, 0x74, 0x326⟩,
  ⟨0x21f, 0x68, 0x30c⟩, ⟨0x227, 0x61, 0x307⟩, ⟨0x229, 0x65, 0x327⟩, ⟨0x22b, 0xf6, 0x304⟩, ⟨0x22d,
  0xf5, 0x304⟩, ⟨0x22f, 0x6f, 0x307⟩, ⟨0x231, 0x22f, 0x304⟩, ⟨0x233, 0x79, 0x304⟩, ⟨0x390, 0x3ca,
  0x301⟩, ⟨0x3ac, 0x3b1, 0x301⟩, ⟨0x3ad, 0x3b5, 0x301⟩, ⟨0x3ae, 0x3b7, 0x301⟩, ⟨0x3af, 0x3b9,
  0x301⟩, ⟨0x3b0, 0x3cb, 0x301⟩, ⟨0x3ca, 0x3b9, 0x308⟩, ⟨0x3cb, 0x3c5, 0x308⟩, ⟨0x3cc, 0x3bf,
  0x301⟩, ⟨0x3cd, 0x3c5, 0x301⟩, ⟨0x3ce, 0x3c9, 0x301⟩, ⟨0x439, 0x438, 0x306⟩, ⟨0x450, 0x435,
  0x300⟩, ⟨0x451, 0x435, 0x308⟩, ⟨0x453, 0x433, 0x301⟩, ⟨0x457, 0x456, 0x308⟩, ⟨0x45c, 0x43a,
  0x301⟩, ⟨0x45d, 0x438, 0x300⟩, ⟨0x45e, 0x443, 0x306⟩, ⟨0x477, 0x475, 0x30f⟩, ⟨0x4c2, 0x436,
  0x306⟩, ⟨0x4d1, 0x430, 0x306⟩, ⟨0x4d3, 0x430, 0x308⟩, ⟨0x4d7, 0x435, 0x306⟩, ⟨0x4db, 0x4d9,
  0x308⟩, ⟨0x4dd, 0x436, 0x308⟩, ⟨0x4df, 0x437, 0x308⟩, ⟨0x4e3, 0x438, 0x304⟩, ⟨0x4e5, 0x438,
  0x308⟩, ⟨0x4e7, 0x43e, 0x308⟩, ⟨0x4eb, 0x4e9, 0x308⟩, ⟨0x4ed, 0x44d, 0x308⟩, ⟨0x4ef, 0x443,
  0x304⟩, ⟨0x4f1, 0x443, 0x308⟩, ⟨0x4f3, 0x443, 0x30b⟩, ⟨0x4f5, 0x447, 0x308⟩, ⟨0x4f9, 0x44b,
  0x308⟩, ⟨0x622, 0x627, 0x653⟩, ⟨0x623, 0x627, 0x654⟩, ⟨0x624, 0x648, 0x654⟩, ⟨0x625, 0x627,
  0x655⟩, ⟨0x626, 0x64a, 0x654⟩, ⟨0x6c0, 0x6d5, 0x654⟩, ⟨0x6c2, 0x6c1, 0x654⟩, ⟨0x6d3, 0x6d2,
  0x654⟩, ⟨0x929, 0x928, 0x93c⟩, ⟨0x931, 0x930, 0x93c⟩, ⟨0x934, 0x933, 0x93c⟩, ⟨0x9cb, 0x9c7,
  0x9be⟩, ⟨0x9cc, 0x9c7, 0x9d7⟩, ⟨0xb48, 0xb47, 0xb56⟩, ⟨0xb4b, 0xb47, 0xb3e⟩, ⟨0xb4c, 0xb47,
  0xb57⟩, ⟨0xb94, 0xb92, 0xbd7⟩, ⟨0xbca, 0xbc6, 0xbbe⟩, ⟨0xbcb, 0xbc7, 0xbbe⟩, ⟨0xbcc, 0xbc6,
  0xbd7⟩, ⟨0xc48, 0xc46, 0xc56⟩, ⟨0xcc0, 0xcbf, 0xcd5⟩, ⟨0xcc7, 0xcc6, 0xcd5⟩, ⟨0xcc8, 0xcc6,
  0xcd6⟩, ⟨0xcca, 0xcc6, 0xcc2⟩, ⟨0xccb, 0xcca, 0xcd5⟩, ⟨0xd4a, 0xd46, 0xd3e⟩, ⟨0xd4b, 0xd47,
  0xd3e⟩, ⟨0xd4c, 0xd46, 0xd57⟩, ⟨0xdda, 0xdd9, 0xdca⟩, ⟨0xddc, 0xdd9, 0xdcf⟩, ⟨0xddd, 0xddc,
  0xdca⟩, ⟨0xdde, 0xdd9, 0xddf⟩, ⟨0x1026, 0x1025, 0x102e⟩, ⟨0x1b06, 0x1b05, 0x1b35⟩, ⟨0x1b08,
  0x1b07, 0x1b35⟩, ⟨0x1b0a, 0x1b09, 0x1b35⟩, ⟨0x1b0c, 0x1b0b, 0x1b35⟩, ⟨0x1b0e, 0x1b0d, 0x1b35⟩,
  ⟨0x1b12, 0x1b11, 0x1b35⟩, ⟨0x1b3b, 0x1b3a, 0x1b35⟩, ⟨0x1b3d, 0x1b3c, 0x1b35⟩, ⟨0x1b40, 0x1b3e,
  0x1b35⟩, ⟨0x1b41, 0x1b3f, 0x1b35⟩, ⟨0x1b43, 0x1b42, 0x1b35⟩, ⟨0x1e01, 0x61, 0x325⟩, ⟨0x1e03,
  0x62, 0x307⟩, ⟨0x1e05, 0x62, 0x323⟩, ⟨0x1e07, 0x62, 0x331⟩, ⟨0x1e09, 0xe7, 0x301⟩, ⟨0x1e0b,
  0x64, 0x307⟩, ⟨0x1e0d, 0x64, 0x323⟩, ⟨0x1e0f, 0x64, 0x331⟩, ⟨0x1e11, 0x64, 0x327⟩, ⟨0x1e13,
  0x64, 0x32d⟩, ⟨0x1e15, 0x113, 0x300⟩, ⟨0x1e17, 0x113, 0x301⟩, ⟨0x1e19, 0x65, 0x32d⟩, ⟨0x1e1b,
  0x65, 0x330⟩, ⟨0x1e1d, 0x229, 0x306⟩, ⟨0x1e1f, 0x66, 0x307⟩, ⟨0x1e21, 0x67, 0x304⟩, ⟨0x1e23,
  0x68, 0x307⟩, ⟨0x1e25, 0x68, 0x323⟩, ⟨0x1e27, 0x68, 0x308⟩, ⟨0x1e29, 0x68, 0x327⟩, ⟨0x1e2b,
  0x68, 0x32e⟩, ⟨0x1e2d, 0x69, 0x330⟩, ⟨0x1e2f, 0xef, 0x301⟩, ⟨0x1e31, 0x6b, 0x301⟩, ⟨0x1e33,
  0x6b, 0x323⟩, ⟨0x1e35, 0x6b, 0x331⟩, ⟨0x1e37, 0x6c, 0x323⟩, ⟨0x1e39, 0x1e37, 0x304⟩, ⟨0x1e3b,
  0x6c, 0x331⟩, ⟨0x1e3d, 0x6c, 0x32d⟩, ⟨0x1e3f, 0x6d, 0x301⟩, ⟨0x1e41, 0x6d, 0x307⟩, ⟨0x1e43,
  0x6d, 0x323⟩, ⟨0x1e45, 0x6e, 0x307⟩, ⟨0x1e47, 0x6e, 0x323⟩, ⟨0x1e49, 0x6e, 0x331⟩, ⟨0x1e4b,
  0x6e, 0x32d⟩, ⟨0x1e4d, 0xf5, 0x301⟩, ⟨0x1e4f, 0xf5, 0x308⟩, ⟨0x1e51, 0x14d, 0x300⟩, ⟨0x1e53,
  0x14d, 0x301⟩, ⟨0x1e55, 0x70, 0x301⟩, ⟨0x1e57, 0x70, 0x307⟩, ⟨0x1e59, 0x72, 0x307⟩, ⟨0x1e5b,
  0x72, 0x323⟩, ⟨0x1e5d, 0x1e5b, 0x304⟩, ⟨0x1e5f, 0x72, 0x331⟩, ⟨0x1e61, 0x73, 0x307⟩, ⟨0x1e63,
  0x73, 0x323⟩, ⟨0x1e65, 0x15b, 0x307⟩, ⟨0x1e67, 0x161, 0x307⟩, ⟨0x1e69, 0x1e63, 0x307⟩, ⟨0x1e6b,
  0x74, 0x307⟩, ⟨0x1e6d, 0x74, 0x323⟩, ⟨0x1e6f, 0x74, 0x331⟩, ⟨0x1e71, 0x74, 0x32d⟩, ⟨0x1e73,
  0x75, 0x324⟩, ⟨0x1e75, 0x75, 0x330⟩, ⟨0x1e77, 0x75, 0x32d⟩, ⟨0x1e79, 0x169, 0x301⟩, ⟨0x1e7b,
  0x16b, 0x308⟩, ⟨0x1e7d, 0x76, 0x303⟩, ⟨0x1e7f, 0x76, 0x323⟩, ⟨0x1e81, 0x77, 0x300⟩, ⟨0x1e83,
  0x77, 0x301⟩, ⟨0x1e85, 0x77, 0x308⟩, ⟨0x1e87, 0x77, 0x307⟩, ⟨0x1e89, 0x77, 0x323⟩, ⟨0x1e8b,
  0x78, 0x307⟩, ⟨0x1e8d, 0x78, 0x308⟩, ⟨0x1e8f, 0x79, 0x307⟩, ⟨0x1e91, 0x7a, 0x302⟩, ⟨0x1e93,
  0x7a, 0x323⟩, ⟨0x1e95, 0x7a, 0x331⟩, ⟨0x1e96, 0x68, 0x331⟩, ⟨0x1e97, 0x74, 0x308⟩, ⟨0x1e98,
  0x77, 0x30a⟩, ⟨0x1e99, 0x79, 0x30a⟩, ⟨0x1ea1, 0x61, 0x323⟩, ⟨0x1ea3, 0x61, 0x309⟩, ⟨0x1ea5,
  0xe2, 0x301⟩, ⟨0x1ea7, 0xe2, 0x300⟩, ⟨0x1ea9, 0xe2, 0x309⟩, ⟨0x1eab, 0xe2, 0x303⟩, ⟨0x1ead,
  0x1ea1, 0x302⟩, ⟨0x1eaf, 0x103, 0x301⟩, ⟨0x1eb1, 0x103, 0x300⟩, ⟨0x1eb3, 0x103, 0x309⟩, ⟨0x1eb5,
  0x103, 0x303⟩, ⟨0x1eb7, 0x1ea1, 0x306⟩, ⟨0x1eb9, 0x65, 0x323⟩, ⟨0x1ebb, 0x65, 0x309⟩, ⟨0x1ebd,
  0x65, 0x303⟩, ⟨0x1ebf, 0xea, 0x301⟩, ⟨0x1ec1, 0xea, 0x300⟩, ⟨0x1ec3, 0xea, 0x309⟩, ⟨0x1ec5,
  0xea, 0x303⟩, ⟨0x1ec7, 0x1eb9, 0x302⟩, ⟨0x1ec9, 0x69, 0x309⟩, ⟨0x1ecb, 0x69, 0x323⟩, ⟨0x1ecd,
  0x6f, 0x323⟩, ⟨0x1ecf, 0x6f, 0x309⟩, ⟨0x1ed1, 0xf4, 0x301⟩, ⟨0x1ed3, 0xf4, 0x300⟩, ⟨0x1ed5,
  0xf4, 0x309⟩, ⟨0x1ed7, 0xf4, 0x303⟩, ⟨0x1ed9, 0x1ecd, 0x302⟩, ⟨0x1edb, 0x1a1, 0x301⟩, ⟨0x1edd,
  0x1a1, 0x300⟩, ⟨0x1edf, 0x1a1, 0x309⟩, ⟨0x1ee1, 0x1a1, 0x303⟩, ⟨0x1ee3, 0x1a1, 0x323⟩, ⟨0x1ee5,
  0x75, 0x323⟩, ⟨0x1ee7, 0x75, 0x309⟩, ⟨0x1ee9, 0x1b0, 0x301⟩, ⟨0x1eeb, 0x1b0, 0x300⟩, ⟨0x1eed,
  0x1b0, 0x309⟩, ⟨0x1eef, 0x1b0, 0x303⟩, ⟨0x1ef1, 0x1b0, 0x323⟩, ⟨0x1ef3, 0x79, 0x300⟩, ⟨0x1ef5,
  0x79, 0x323⟩, ⟨0x1ef7, 0x79, 0x309⟩, ⟨0x1ef9, 0x79, 0x303⟩, ⟨0x1f00, 0x3b1, 0x313⟩, ⟨0x1f01,
  0x3b1, 0x314⟩, ⟨0x1f02, 0x1f00, 0x300⟩, ⟨0x1f03, 0x1f01, 0x300⟩, ⟨0x1f04, 0x1f00, 0x301⟩,
  ⟨0x1f05, 0x1f01, 0x301⟩, ⟨0x1f06, 0x1f00, 0x342⟩, ⟨0x1f07, 0x1f01, 0x342⟩, ⟨0x1f10, 0x3b5,
  0x313⟩, ⟨0x1f11, 0x3b5, 0x314⟩, ⟨0x1f12, 0x1f10, 0x300⟩, ⟨0x1f13, 0x1f11, 0x300⟩, ⟨0x1f14,
  0x1f10, 0x301⟩, ⟨0x1f15, 0x1f11, 0x301⟩, ⟨0x1f20, 0x3b7, 0x313⟩, ⟨0x1f21, 0x3b7, 0x314⟩,
  ⟨0x1f22, 0x1f20, 0x300⟩, ⟨0x1f23, 0x1f21, 0x300⟩, ⟨0x1f24, 0x1f20, 0x301⟩, ⟨0x1f25, 0x1f21,
  0x301⟩, ⟨0x1f26, 0x1f20, 0x342⟩, ⟨0x1f27, 0x1f21, 0x342⟩, ⟨0x1f30, 0x3b9, 0x313⟩, ⟨0x1f31,
  0x3b9, 0x314⟩, ⟨0x1f32, 0x1f30, 0x300⟩, ⟨0x1f33, 0x1f31, 0x300⟩, ⟨0x1f34, 0x1f30, 0x301⟩,
  ⟨0x1f35, 0x1f31, 0x301⟩, ⟨0x1f36, 0x1f30, 0x342⟩, ⟨0x1f37, 0x1f31, 0x342⟩, ⟨0x1f40, 0x3bf,
  0x313⟩, ⟨0x1f41, 0x3bf, 0x314⟩, ⟨0x1f42, 0x1f40, 0x300⟩, ⟨0x1f43, 0x1f41, 0x300⟩, ⟨0x1f44,
  0x1f40, 0x301⟩, ⟨0x1f45, 0x1f41, 0x301⟩, ⟨0x1f50, 0x3c5, 0x313⟩, ⟨0x1f51, 0x3c5, 0x314⟩,
  ⟨0x1f52, 0x1f50, 0x300⟩, ⟨0x1f53, 0x1f51, 0x300⟩, ⟨0x1f54, 0x1f50, 0x301⟩, ⟨0x1f55, 0x1f51,
  0x301⟩, ⟨0x1f56, 0x1f50, 0x342⟩, ⟨0x1f57, 0x1f51, 0x342⟩, ⟨0x1f60, 0x3c9, 0x313⟩, ⟨0x1f61,
  0x3c9, 0x314⟩, ⟨0x1f62, 0x1f60, 0x300⟩, ⟨0x1f63, 0x1f61, 0x300⟩, ⟨0x1f64, 0x1f60, 0x301⟩,
  ⟨0x1f65, 0x1f61, 0x301⟩, ⟨0x1f66, 0x1f60, 0x342⟩, ⟨0x1f67, 0x1f61, 0x342⟩, ⟨0x1f70, 0x3b1,
  0x300⟩, ⟨0x1f72, 0x3b5, 0x300⟩, ⟨0x1f74, 0x3b7, 0x300⟩, ⟨0x1f76, 0x3b9, 0x300⟩, ⟨0x1f78, 0x3bf,
  0x300⟩, ⟨0x1f7a, 0x3c5, 0x300⟩, ⟨0x1f7c, 0x3c9, 0x300⟩, ⟨0x1fb0, 0x3b1, 0x306⟩, ⟨0x1fb1, 0x3b1,
  0x304⟩, ⟨0x1fb6, 0x3b1, 0x342⟩, ⟨0x1fc6, 0x3b7, 0x342⟩, ⟨0x1fd0, 0x3b9, 0x306⟩, ⟨0x1fd1, 0x3b9,
  0x304⟩, ⟨0x1fd2, 0x3ca, 0x300⟩, ⟨0x1fd6, 0x3b9, 0x342⟩, ⟨0x1fd7, 0x3ca, 0x342⟩, ⟨0x1fe0, 0x3c5,
  0x306⟩, ⟨0x1fe1, 0x3c5, 0x304⟩, ⟨0x1fe2, 0x3cb, 0x300⟩, ⟨0x1fe4, 0x3c1, 0x313⟩, ⟨0x1fe5, 0x3c1,
  0x314⟩, ⟨0x1fe6, 0x3c5, 0x342⟩, ⟨0x1fe7, 0x3cb, 0x342⟩, ⟨0x1ff6, 0x3c9, 0x342⟩, ⟨0x304c, 0x304b,
  0x3099⟩, ⟨0x304e, 0x304d, 0x3099⟩, ⟨0x3050, 0x304f, 0x3099⟩, ⟨0x3052, 0x3051, 0x3099⟩, ⟨0x3054,
  0x3053, 0x3099⟩, ⟨0x3056, 0x3055, 0x3099⟩, ⟨0x3058, 0x3057, 0x3099⟩, ⟨0x305a, 0x3059, 0x3099⟩,
  ⟨0x305c, 0x305b, 0x3099⟩, ⟨0x305e, 0x305d, 0x3099⟩, ⟨0x3060, 0x305f, 0x3099⟩, ⟨0x3062, 0x3061,
  0x3099⟩, ⟨0x3065, 0x3064, 0x3099⟩, ⟨0x3067, 0x3066, 0x3099⟩, ⟨0x3069, 0x3068, 0x3099⟩, ⟨0x3070,
  0x306f, 0x3099⟩, ⟨0x3071, 0x306f, 0x309a⟩, ⟨0x3073, 0x3072, 0x3099⟩, ⟨0x3074, 0x3072, 0x309a⟩,
  ⟨0x3076, 0x3075, 0x3099⟩, ⟨0x3077, 0x3075, 0x309a⟩, ⟨0x3079, 0x3078, 0x3099⟩, ⟨0x307a, 0x3078,
  0x309a⟩, ⟨0x307c, 0x307b, 0x3099⟩, ⟨0x307d, 0x307b, 0x309a⟩, ⟨0x3094, 0x3046, 0x3099⟩, ⟨0x309e,
  0x309d, 0x3099⟩, ⟨0x30ac, 0x30ab, 0x3099⟩, ⟨0x30ae, 0x30ad, 0x3099⟩, ⟨0x30b0, 0x30af, 0x3099⟩,
  ⟨0x30b2, 0x30b1, 0x3099⟩, ⟨0x30b4, 0x30b3, 0x3099⟩, ⟨0x30b6, 0x30b5, 0x3099⟩, ⟨0x30b8, 0x30b7,
  0x3099⟩, ⟨0x30ba, 0x30b9, 0x3099⟩, ⟨0x30bc, 0x30bb, 0x3099⟩, ⟨0x30be, 0x30bd, 0x3099⟩, ⟨0x30c0,
  0x30bf, 0x3099⟩, ⟨0x30c2, 0x30c1, 0x3099⟩, ⟨0x30c5, 0x30c4, 0x3099⟩, ⟨0x30c7, 0x30c6, 0x3099⟩,
  ⟨0x30c9, 0x30c8, 0x3099⟩, ⟨0x30d0, 0x30cf, 0x3099⟩, ⟨0x30d1, 0x30cf, 0x309a⟩, ⟨0x30d3, 0x30d2,
  0x3099⟩, ⟨0x30d4, 0x30d2, 0x309a⟩, ⟨0x30d6, 0x30d5, 0x3099⟩, ⟨0x30d7, 0x30d5, 0x309a⟩, ⟨0x30d9,
  0x30d8, 0x3099⟩, ⟨0x30da, 0x30d8, 0x309a⟩, ⟨0x30dc, 0x30db, 0x3099⟩, ⟨0x30dd, 0x30db, 0x309a⟩,
  ⟨0x30f4, 0x30a6, 0x3099⟩, ⟨0x30f7, 0x30ef, 0x3099⟩, ⟨0x30f8, 0x30f0, 0x3099⟩, ⟨0x30f9, 0x30f1,
  0x3099⟩, ⟨0x30fa, 0x30f2, 0x3099⟩, ⟨0x30fe, 0x30fd, 0x3099⟩, ⟨0x1109a, 0x11099, 0x110ba⟩,
  ⟨0x1109c, 0x1109b, 0x110ba⟩, ⟨0x110ab, 0x110a5, 0x110ba⟩, ⟨0x1112e, 0x11131, 0x11127⟩, ⟨0x1112f,
  0x11132, 0x11127⟩, ⟨0x1134b, 0x11347, 0x1133e⟩, ⟨0x1134c, 0x11347, 0x11357⟩, ⟨0x114bb, 0x114b9,
  0x114ba⟩, ⟨0x114bc, 0x114b9, 0x114b0⟩, ⟨0x114be, 0x114b9, 0x114bd⟩, ⟨0x115ba, 0x115b8, 0x115af⟩,
  ⟨0x115bb, 0x115b9, 0x115af⟩, ⟨0x11938, 0x11935, 0x11930⟩]

def syllableBase : Nat := 0xac00
def leadBase : Nat := 0x1100
def vowelBase : Nat := 0x1161
def tailBase : Nat := 0x11a7
def leadCount : Nat := 19
def vowelCount : Nat := 21
def tailCount : Nat := 28

def isSyllable (n : Nat) : Bool :=
  syllableBase ≤ n && n < syllableBase + leadCount * vowelCount * tailCount

def syllableParts (n : Nat) : List Nat :=
  let i := n - syllableBase
  let tail := i % tailCount
  [leadBase + i / (vowelCount * tailCount), vowelBase + i / tailCount % vowelCount] ++
    if tail = 0 then [] else [tailBase + tail]

def parts : Nat → Nat → List Nat
  | 0, n => [n]
  | depth + 1, n =>
    if isSyllable n then syllableParts n
    else
      match composites.find? (·.code == n) with
      | some c => parts depth c.base ++ [c.mark]
      | none => [n]

def deepest : Nat := 2

def insertMark (n : Nat) : List Nat → List Nat
  | [] => [n]
  | m :: ms =>
    if combiningClass n ≠ 0 ∧ combiningClass m ≠ 0 ∧ combiningClass m < combiningClass n then
      m :: insertMark n ms
    else n :: m :: ms

def inClassOrder (ns : List Nat) : List Nat :=
  ns.foldr insertMark []

def composition? (a b : Nat) : Option Nat :=
  if leadBase ≤ a ∧ a < leadBase + leadCount ∧ vowelBase ≤ b ∧ b < vowelBase + vowelCount then
    some (syllableBase + ((a - leadBase) * vowelCount + (b - vowelBase)) * tailCount)
  else if isSyllable a ∧ (a - syllableBase) % tailCount = 0 ∧ tailBase < b ∧
      b < tailBase + tailCount then
    some (a + (b - tailBase))
  else (composites.find? fun c => c.base == a && c.mark == b).map (·.code)

/-- Composes a text from a first character and the marks after it that do not compose with it, in
reverse. A mark is out of reach behind one of its own class or a greater one. -/
def composeFrom (first : Nat) (marks : List Nat) : List Nat → List Nat
  | [] => first :: marks.reverse
  | n :: ns =>
    let blocked := marks.head?.any fun m => combiningClass n ≤ combiningClass m
    match if blocked then none else composition? first n with
    | some c => composeFrom c marks ns
    | none =>
      if combiningClass n = 0 then first :: marks.reverse ++ composeFrom n [] ns
      else composeFrom first (n :: marks) ns

def compose : List Nat → List Nat
  | [] => []
  | n :: ns => composeFrom n [] ns

def isComposed (cs : List Char) : Bool :=
  let codes := cs.map Char.toNat
  compose (inClassOrder (codes.flatMap (parts deepest))) == codes

end BuildScripts.Domain
