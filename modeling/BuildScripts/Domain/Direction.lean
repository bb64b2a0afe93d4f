import BuildScripts.Text.Basic

namespace BuildScripts.Domain

open BuildScripts.Text

inductive Direction
  | left
  | right
  | arabic
  | arabicNumber
  | number
  | separator
  | neutral
  | boundary
  | mark
  deriving DecidableEq, Repr

def rightEdges : List Nat := [
  0x5d0, 0x610, 0x7c0, 0x7eb, 0x7f4, 0x7fd, 0x800, 0x816, 0x81a, 0x81b, 0x824, 0x825, 0x828,
  0x829, 0x840, 0x859, 0x10800, 0x10a01, 0x10a10, 0x10a38, 0x10a60, 0x10ae5, 0x10b00, 0x10d00,
  0x10e80, 0x10eab, 0x10eb0, 0x10f30, 0x10f70, 0x10f82, 0x10fb0, 0x11000, 0x1e800, 0x1e8d0,
  0x1e922, 0x1e944, 0x1e94b, 0x20000]

def arabicEdges : List Nat := [
  0x620, 0x64b, 0x66e, 0x670, 0x671, 0x6d6, 0x6e5, 0x6e7, 0x6ee, 0x6f0, 0x6fa, 0x711, 0x712,
  0x730, 0x74d, 0x7a6, 0x7b1, 0x7c0, 0x860, 0x898, 0x8a0, 0x8ca, 0xfe73, 0x10000, 0x10d00,
  0x10d24, 0x10f30, 0x10f46]

def arabicNumberEdges : List Nat := [
  0x660, 0x66e, 0x10d30, 0x10e80]

def numberEdges : List Nat := [
  0x30, 0x61, 0x6f0, 0x6fa]

def separatorEdges : List Nat := [
  0x2d, 0x30]

def neutralEdges : List Nat := [
  0xb7, 0xdf, 0x2b9, 0x2bb, 0x2c6, 0x2d0, 0x2ec, 0x2ee, 0x375, 0x377, 0x2e2f, 0x3005, 0x30fb,
  0x30fc, 0xa67f, 0xa681, 0xa717, 0xa723, 0xa788, 0xa78c]

def boundaryEdges : List Nat := [
  0x200c, 0x214e]

def markEdges : List Nat := [
  0x300, 0x371, 0x483, 0x48b, 0x591, 0x5d0, 0x610, 0x620, 0x64b, 0x660, 0x670, 0x671, 0x6d6,
  0x6e5, 0x6e7, 0x6ee, 0x711, 0x712, 0x730, 0x74d, 0x7a6, 0x7b1, 0x7eb, 0x7f4, 0x7fd, 0x800,
  0x816, 0x81a, 0x81b, 0x824, 0x825, 0x828, 0x829, 0x840, 0x859, 0x860, 0x898, 0x8a0, 0x8ca,
  0x903, 0x93a, 0x93b, 0x93c, 0x93d, 0x941, 0x949, 0x94d, 0x94e, 0x951, 0x960, 0x962, 0x966,
  0x981, 0x982, 0x9bc, 0x9bd, 0x9c1, 0x9c7, 0x9cd, 0x9ce, 0x9e2, 0x9e6, 0x9fe, 0xa03, 0xa3c,
  0xa3e, 0xa41, 0xa5c, 0xa70, 0xa72, 0xa75, 0xa83, 0xabc, 0xabd, 0xac1, 0xac9, 0xacd, 0xad0,
  0xae2, 0xae6, 0xafa, 0xb02, 0xb3c, 0xb3d, 0xb3f, 0xb40, 0xb41, 0xb47, 0xb4d, 0xb57, 0xb62,
  0xb66, 0xb82, 0xb83, 0xbc0, 0xbc1, 0xbcd, 0xbd0, 0xc00, 0xc01, 0xc04, 0xc05, 0xc3c, 0xc3d,
  0xc3e, 0xc41, 0xc46, 0xc58, 0xc62, 0xc66, 0xc81, 0xc82, 0xcbc, 0xcbd, 0xccc, 0xcd5, 0xce2,
  0xce6, 0xd00, 0xd02, 0xd3b, 0xd3d, 0xd41, 0xd46, 0xd4d, 0xd4e, 0xd62, 0xd66, 0xd81, 0xd82,
  0xdca, 0xdcf, 0xdd2, 0xdd8, 0xe31, 0xe32, 0xe34, 0xe40, 0xe47, 0xe50, 0xeb1, 0xeb2, 0xeb4,
  0xebd, 0xec8, 0xed0, 0xf18, 0xf20, 0xf35, 0xf3e, 0xf71, 0xf7f, 0xf80, 0xf88, 0xf8d, 0x1000,
  0x102d, 0x1031, 0x1032, 0x1038, 0x1039, 0x103b, 0x103d, 0x103f, 0x1058, 0x105a, 0x105e, 0x1061,
  0x1071, 0x1075, 0x1082, 0x1083, 0x1085, 0x1087, 0x108d, 0x108e, 0x109d, 0x10d0, 0x135d, 0x1380,
  0x1712, 0x1715, 0x1732, 0x1734, 0x1752, 0x1760, 0x1772, 0x1780, 0x17b7, 0x17be, 0x17c6, 0x17c7,
  0x17c9, 0x17d7, 0x17dd, 0x17e0, 0x1885, 0x1887, 0x18a9, 0x18aa, 0x1920, 0x1923, 0x1927, 0x1929,
  0x1932, 0x1933, 0x1939, 0x1946, 0x1a17, 0x1a19, 0x1a1b, 0x1a20, 0x1a56, 0x1a57, 0x1a58, 0x1a61,
  0x1a62, 0x1a63, 0x1a65, 0x1a6d, 0x1a73, 0x1a80, 0x1ab0, 0x1b04, 0x1b34, 0x1b35, 0x1b36, 0x1b3b,
  0x1b3c, 0x1b3d, 0x1b42, 0x1b43, 0x1b6b, 0x1b82, 0x1ba2, 0x1ba6, 0x1ba8, 0x1baa, 0x1bab, 0x1bae,
  0x1be6, 0x1be7, 0x1be8, 0x1bea, 0x1bed, 0x1bee, 0x1bef, 0x1bf2, 0x1c2c, 0x1c34, 0x1c36, 0x1c40,
  0x1cd0, 0x1ce1, 0x1ce2, 0x1ce9, 0x1ced, 0x1cee, 0x1cf4, 0x1cf5, 0x1cf8, 0x1cfa, 0x1dc0, 0x1e01,
  0x2cef, 0x2cf3, 0x2d7f, 0x2d80, 0x2de0, 0x2e2f, 0x302a, 0x303c, 0x3099, 0x309d, 0xa66f, 0xa67f,
  0xa69e, 0xa6a0, 0xa6f0, 0xa717, 0xa802, 0xa803, 0xa806, 0xa807, 0xa80b, 0xa80c, 0xa825, 0xa827,
  0xa82c, 0xa840, 0xa8c4, 0xa8d0, 0xa8e0, 0xa8f2, 0xa8ff, 0xa900, 0xa926, 0xa930, 0xa947, 0xa952,
  0xa980, 0xa983, 0xa9b3, 0xa9b4, 0xa9b6, 0xa9ba, 0xa9bc, 0xa9be, 0xa9e5, 0xa9e6, 0xaa29, 0xaa2f,
  0xaa31, 0xaa33, 0xaa35, 0xaa40, 0xaa43, 0xaa44, 0xaa4c, 0xaa4d, 0xaa7c, 0xaa7d, 0xaab0, 0xaab1,
  0xaab2, 0xaab5, 0xaab7, 0xaab9, 0xaabe, 0xaac0, 0xaac1, 0xaac2, 0xaaec, 0xaaee, 0xaaf6, 0xab01,
  0xabe5, 0xabe6, 0xabe8, 0xabe9, 0xabed, 0xabf0, 0xfb1e, 0xfe73, 0x101fd, 0x10280, 0x102e0,
  0x10300, 0x10376, 0x10380, 0x10a01, 0x10a10, 0x10a38, 0x10a60, 0x10ae5, 0x10b00, 0x10d24,
  0x10d30, 0x10eab, 0x10eb0, 0x10f46, 0x10f70, 0x10f82, 0x10fb0, 0x11001, 0x11002, 0x11038,
  0x11066, 0x11070, 0x11071, 0x11073, 0x11075, 0x1107f, 0x11082, 0x110b3, 0x110b7, 0x110b9,
  0x110d0, 0x11100, 0x11103, 0x11127, 0x1112c, 0x1112d, 0x11136, 0x11173, 0x11176, 0x11180,
  0x11182, 0x111b6, 0x111bf, 0x111c9, 0x111ce, 0x111cf, 0x111d0, 0x1122f, 0x11232, 0x11234,
  0x11235, 0x11236, 0x11280, 0x112df, 0x112e0, 0x112e3, 0x112f0, 0x11300, 0x11302, 0x1133b,
  0x1133d, 0x11340, 0x11341, 0x11366, 0x11400, 0x11438, 0x11440, 0x11442, 0x11445, 0x11446,
  0x11447, 0x1145e, 0x1145f, 0x114b3, 0x114b9, 0x114ba, 0x114bb, 0x114bf, 0x114c1, 0x114c2,
  0x114c4, 0x115b2, 0x115b8, 0x115bc, 0x115be, 0x115bf, 0x115d8, 0x115dc, 0x11600, 0x11633,
  0x1163b, 0x1163d, 0x1163e, 0x1163f, 0x11644, 0x116ab, 0x116ac, 0x116ad, 0x116ae, 0x116b0,
  0x116b6, 0x116b7, 0x116b8, 0x1171d, 0x11720, 0x11722, 0x11726, 0x11727, 0x11730, 0x1182f,
  0x11838, 0x11839, 0x118c0, 0x1193b, 0x1193d, 0x1193e, 0x1193f, 0x11943, 0x11950, 0x119d4,
  0x119dc, 0x119e0, 0x119e1, 0x11a01, 0x11a07, 0x11a09, 0x11a0b, 0x11a33, 0x11a39, 0x11a3b,
  0x11a50, 0x11a51, 0x11a57, 0x11a59, 0x11a5c, 0x11a8a, 0x11a97, 0x11a98, 0x11a9d, 0x11c30,
  0x11c3e, 0x11c92, 0x11ca9, 0x11caa, 0x11cb1, 0x11cb2, 0x11cb4, 0x11cb5, 0x11d00, 0x11d31,
  0x11d46, 0x11d47, 0x11d50, 0x11d90, 0x11d93, 0x11d95, 0x11d96, 0x11d97, 0x11d98, 0x11ef3,
  0x11ef5, 0x16af0, 0x16b00, 0x16b30, 0x16b40, 0x16f4f, 0x16f50, 0x16f8f, 0x16f93, 0x16fe4,
  0x16ff0, 0x1bc9d, 0x1df00, 0x1e000, 0x1e100, 0x1e130, 0x1e137, 0x1e2ae, 0x1e2c0, 0x1e2ec,
  0x1e2f0, 0x1e8d0, 0x1e922, 0x1e944, 0x1e94b]

def directionEdges : List (Direction × List Nat) := [
  (.number, numberEdges), (.separator, separatorEdges), (.right, rightEdges),
  (.arabic, arabicEdges), (.arabicNumber, arabicNumberEdges), (.mark, markEdges),
  (.neutral, neutralEdges), (.boundary, boundaryEdges)]

def direction (c : Char) : Direction :=
  ((directionEdges.find? fun (_, edges) => inEdges edges c.toNat).map (·.1)).getD .left

def runsLeftward (d : Direction) : Bool :=
  d == .right || d == .arabic || d == .arabicNumber

def lastDirection (ds : List Direction) : Option Direction :=
  (ds.filter (· != .mark)).getLast?

/-- A label from right to left begins with a letter of that direction, holds none of the other, ends
in a letter or number, and does not mix two kinds of numbers. -/
def isOrderlyLeftward (ds : List Direction) : Bool :=
  ds.head?.any (fun d => d == .right || d == .arabic) && !ds.contains .left &&
    (lastDirection ds).any (fun d => runsLeftward d || d == .number) &&
    !(ds.contains .number && ds.contains .arabicNumber)

def isOrderly (cs : List Char) : Bool :=
  let ds := cs.map direction
  !ds.any runsLeftward || isOrderlyLeftward ds

end BuildScripts.Domain
