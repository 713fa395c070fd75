import Colloquy.Text.Graphic
import Colloquy.Text.Lower

/-! # Characters of host names

The characters that a label of a host name may hold wherever they stand, and what else the rules for
labels ask of a character: whether it is a mark, the class that orders marks behind one letter, the
direction it is written in, and how letters join. The tables follow Unicode 14. They are right for
characters that labels may hold, and say nothing of others.
-/
set_option autoImplicit false

namespace Colloquy.Hostname

/-- Ranges of small letters, digits and marks. What is not graphic, or has a small letter of its
own, is left out of them by `isLetter`. -/
def letterRanges : List (Nat × Nat) := [
    (0x002d, 0x002d), (0x0030, 0x0039), (0x0061, 0x007a), (0x00df, 0x00f6), (0x00f8, 0x012f),
    (0x0131, 0x0131), (0x0135, 0x013e), (0x0142, 0x0148), (0x014b, 0x017e), (0x0180, 0x01c3),
    (0x01ce, 0x01f0), (0x01f5, 0x02af), (0x02b9, 0x02c1), (0x02c6, 0x02d1), (0x02ec, 0x02ec),
    (0x02ee, 0x02ee), (0x0300, 0x033f), (0x0342, 0x0342), (0x0346, 0x034e), (0x0350, 0x0373),
    (0x0377, 0x0377), (0x037b, 0x037d), (0x0390, 0x03ce), (0x03d7, 0x03ef), (0x03f3, 0x03f3),
    (0x03f8, 0x0481), (0x0483, 0x0487), (0x048b, 0x0559), (0x0560, 0x0586), (0x0588, 0x0588),
    (0x0591, 0x05bd), (0x05bf, 0x05bf), (0x05c1, 0x05c2), (0x05c4, 0x05c5), (0x05c7, 0x05f2),
    (0x0610, 0x061a), (0x0620, 0x063f), (0x0641, 0x065f), (0x066e, 0x0674), (0x0679, 0x06d3),
    (0x06d5, 0x06dc), (0x06df, 0x06e8), (0x06ea, 0x06ef), (0x06fa, 0x06ff), (0x0710, 0x07f5),
    (0x07fd, 0x07fd), (0x0800, 0x082d), (0x0840, 0x085b), (0x0860, 0x0887), (0x0889, 0x0957),
    (0x0960, 0x0963), (0x0966, 0x096f), (0x0971, 0x09d7), (0x09e0, 0x09f1), (0x09fc, 0x09fc),
    (0x09fe, 0x0a32), (0x0a35, 0x0a35), (0x0a38, 0x0a51), (0x0a5c, 0x0a5c), (0x0a66, 0x0a75),
    (0x0a81, 0x0aef), (0x0af9, 0x0b57), (0x0b5f, 0x0b6f), (0x0b71, 0x0b71), (0x0b82, 0x0bef),
    (0x0c00, 0x0c6f), (0x0c80, 0x0c83), (0x0c85, 0x0d4e), (0x0d54, 0x0d57), (0x0d5f, 0x0d6f),
    (0x0d7a, 0x0df3), (0x0e01, 0x0e32), (0x0e34, 0x0e3a), (0x0e40, 0x0e4e), (0x0e50, 0x0e59),
    (0x0e81, 0x0eb2), (0x0eb4, 0x0ed9), (0x0ede, 0x0f00), (0x0f0b, 0x0f0b), (0x0f18, 0x0f19),
    (0x0f20, 0x0f29), (0x0f35, 0x0f35), (0x0f37, 0x0f37), (0x0f39, 0x0f39), (0x0f3e, 0x0f42),
    (0x0f44, 0x0f4c), (0x0f4e, 0x0f51), (0x0f53, 0x0f56), (0x0f58, 0x0f5b), (0x0f5d, 0x0f68),
    (0x0f6a, 0x0f72), (0x0f74, 0x0f74), (0x0f7a, 0x0f80), (0x0f82, 0x0f84), (0x0f86, 0x0f92),
    (0x0f94, 0x0f9c), (0x0f9e, 0x0fa1), (0x0fa3, 0x0fa6), (0x0fa8, 0x0fab), (0x0fad, 0x0fb8),
    (0x0fba, 0x0fbc), (0x0fc6, 0x0fc6), (0x1000, 0x1049), (0x1050, 0x109d), (0x10d0, 0x10fa),
    (0x10fd, 0x10ff), (0x1200, 0x135f), (0x1380, 0x138f), (0x1401, 0x166c), (0x166f, 0x169a),
    (0x16a0, 0x16ea), (0x16f1, 0x1734), (0x1740, 0x17b3), (0x17b6, 0x17d3), (0x17d7, 0x17d7),
    (0x17dc, 0x17e9), (0x1810, 0x193b), (0x1946, 0x19d9), (0x1a00, 0x1a1b), (0x1a20, 0x1a99),
    (0x1aa7, 0x1aa7), (0x1ab0, 0x1abd), (0x1abf, 0x1b59), (0x1b6b, 0x1b73), (0x1b80, 0x1bf3),
    (0x1c00, 0x1c37), (0x1c40, 0x1c7d), (0x1cd0, 0x1cd2), (0x1cd4, 0x1d2b), (0x1d2f, 0x1d2f),
    (0x1d3b, 0x1d3b), (0x1d4e, 0x1d4e), (0x1d6b, 0x1d77), (0x1d79, 0x1d9a), (0x1dc0, 0x1e99),
    (0x1e9c, 0x1f70), (0x1f72, 0x1f72), (0x1f74, 0x1f74), (0x1f76, 0x1f76), (0x1f78, 0x1f78),
    (0x1f7a, 0x1f7a), (0x1f7c, 0x1f7c), (0x1fb0, 0x1fb1), (0x1fb6, 0x1fb6), (0x1fc6, 0x1fc6),
    (0x1fd0, 0x1fd2), (0x1fd6, 0x1fd7), (0x1fe0, 0x1fe2), (0x1fe4, 0x1fe7), (0x1ff6, 0x1ff6),
    (0x214e, 0x214e), (0x2184, 0x2184), (0x2c30, 0x2c7b), (0x2c81, 0x2ce4), (0x2cec, 0x2cf3),
    (0x2d00, 0x2d67), (0x2d7f, 0x2dff), (0x2e2f, 0x2e2f), (0x3005, 0x3007), (0x302a, 0x302d),
    (0x303c, 0x303c), (0x3041, 0x309a), (0x309d, 0x309e), (0x30a1, 0x30fa), (0x30fc, 0x30fe),
    (0x3105, 0x312f), (0x31a0, 0x31bf), (0x31f0, 0x31ff), (0x3400, 0x4dbf), (0x4e00, 0xa48c),
    (0xa4d0, 0xa4fd), (0xa500, 0xa60c), (0xa610, 0xa66f), (0xa674, 0xa67d), (0xa67f, 0xa69b),
    (0xa69e, 0xa6e5), (0xa6f0, 0xa6f1), (0xa717, 0xa71f), (0xa723, 0xa76f), (0xa771, 0xa788),
    (0xa78c, 0xa7d9), (0xa7f6, 0xa7f7), (0xa7fa, 0xa827), (0xa82c, 0xa82c), (0xa840, 0xa873),
    (0xa880, 0xa8c5), (0xa8d0, 0xa8f7), (0xa8fb, 0xa8fb), (0xa8fd, 0xa92d), (0xa930, 0xa953),
    (0xa980, 0xa9c0), (0xa9cf, 0xa9d9), (0xa9e0, 0xaa59), (0xaa60, 0xaa76), (0xaa7a, 0xaadd),
    (0xaae0, 0xaaef), (0xaaf2, 0xab5a), (0xab60, 0xab68), (0xabc0, 0xabea), (0xabec, 0xd7a3),
    (0xfa0e, 0xfa0f), (0xfa11, 0xfa11), (0xfa13, 0xfa14), (0xfa1f, 0xfa1f), (0xfa21, 0xfa21),
    (0xfa23, 0xfa24), (0xfa27, 0xfa29), (0xfb1e, 0xfb1e), (0xfe20, 0xfe2f), (0xfe73, 0xfe73),
    (0x10000, 0x100fa), (0x101fd, 0x102e0), (0x10300, 0x1031f), (0x1032d, 0x10340),
    (0x10342, 0x10349), (0x10350, 0x1039d), (0x103a0, 0x103cf), (0x10428, 0x10563),
    (0x10597, 0x10780), (0x10800, 0x10855), (0x10860, 0x10876), (0x10880, 0x1089e),
    (0x108e0, 0x108f5), (0x10900, 0x10915), (0x10920, 0x10939), (0x10980, 0x109b7),
    (0x109be, 0x109bf), (0x10a00, 0x10a3f), (0x10a60, 0x10a7c), (0x10a80, 0x10a9c),
    (0x10ac0, 0x10ac7), (0x10ac9, 0x10ae6), (0x10b00, 0x10b35), (0x10b40, 0x10b55),
    (0x10b60, 0x10b72), (0x10b80, 0x10b91), (0x10c00, 0x10cf2), (0x10d00, 0x10d39),
    (0x10e80, 0x10eac), (0x10eb0, 0x10f1c), (0x10f27, 0x10f50), (0x10f70, 0x10f85),
    (0x10fb0, 0x10fc4), (0x10fe0, 0x11046), (0x11066, 0x110ba), (0x110c2, 0x1113f),
    (0x11144, 0x11173), (0x11176, 0x111c4), (0x111c9, 0x111cc), (0x111ce, 0x111da),
    (0x111dc, 0x111dc), (0x11200, 0x11237), (0x1123e, 0x112a8), (0x112b0, 0x1144a),
    (0x11450, 0x11459), (0x1145e, 0x114c5), (0x114c7, 0x115c0), (0x115d8, 0x11640),
    (0x11644, 0x11659), (0x11680, 0x116b8), (0x116c0, 0x11739), (0x11740, 0x1183a),
    (0x118c0, 0x118e9), (0x118ff, 0x11943), (0x11950, 0x119e1), (0x119e3, 0x11a3e),
    (0x11a47, 0x11a99), (0x11a9d, 0x11a9d), (0x11ab0, 0x11c40), (0x11c50, 0x11c59),
    (0x11c72, 0x11ef6), (0x11fb0, 0x11fb0), (0x12000, 0x12399), (0x12480, 0x12ff0),
    (0x13000, 0x16a69), (0x16a70, 0x16af4), (0x16b00, 0x16b36), (0x16b40, 0x16b43),
    (0x16b50, 0x16b59), (0x16b63, 0x16e7f), (0x16f00, 0x16fe1), (0x16fe3, 0x1bc99),
    (0x1bc9d, 0x1bc9e), (0x1cf00, 0x1cf46), (0x1da00, 0x1da36), (0x1da3b, 0x1da6c),
    (0x1da75, 0x1da75), (0x1da84, 0x1da84), (0x1da9b, 0x1e14e), (0x1e290, 0x1e2f9),
    (0x1e7e0, 0x1e8c4), (0x1e8d0, 0x1e959), (0x20000, 0x2ebe0), (0x30000, 0x3134a)]

def isCherokeeCapital (c : Char) : Bool :=
  '\u13a0' ≤ c && c ≤ '\u13f5'

/-- A character that a label may hold anywhere. -/
def isLetter (c : Char) : Bool :=
  isCherokeeCapital c ||
    (Text.isGraphic c && Text.lowerChar c == c && Text.inRanges letterRanges c.toNat)

/-! ## Marks -/

def markRanges : List (Nat × Nat) := [
    (0x0300, 0x036f), (0x0483, 0x0487), (0x0591, 0x05c7), (0x0610, 0x061a), (0x064b, 0x065f),
    (0x0670, 0x0670), (0x06d6, 0x06e4), (0x06e7, 0x06ed), (0x0711, 0x0711), (0x0730, 0x074a),
    (0x07a6, 0x07b0), (0x07eb, 0x07f3), (0x07fd, 0x07fd), (0x0816, 0x0819), (0x081b, 0x0823),
    (0x0825, 0x0827), (0x0829, 0x082d), (0x0859, 0x085b), (0x0898, 0x089f), (0x08ca, 0x0903),
    (0x093a, 0x093c), (0x093e, 0x094f), (0x0951, 0x0957), (0x0962, 0x0963), (0x0981, 0x0983),
    (0x09bc, 0x09bc), (0x09be, 0x09cd), (0x09d7, 0x09d7), (0x09e2, 0x09e3), (0x09fe, 0x0a03),
    (0x0a3c, 0x0a51), (0x0a70, 0x0a71), (0x0a75, 0x0a83), (0x0abc, 0x0abc), (0x0abe, 0x0acd),
    (0x0ae2, 0x0ae3), (0x0afa, 0x0b03), (0x0b3c, 0x0b3c), (0x0b3e, 0x0b57), (0x0b62, 0x0b63),
    (0x0b82, 0x0b82), (0x0bbe, 0x0bcd), (0x0bd7, 0x0bd7), (0x0c00, 0x0c04), (0x0c3c, 0x0c3c),
    (0x0c3e, 0x0c56), (0x0c62, 0x0c63), (0x0c81, 0x0c83), (0x0cbc, 0x0cbc), (0x0cbe, 0x0cd6),
    (0x0ce2, 0x0ce3), (0x0d00, 0x0d03), (0x0d3b, 0x0d3c), (0x0d3e, 0x0d4d), (0x0d57, 0x0d57),
    (0x0d62, 0x0d63), (0x0d81, 0x0d83), (0x0dca, 0x0ddf), (0x0df2, 0x0df3), (0x0e31, 0x0e31),
    (0x0e34, 0x0e3a), (0x0e47, 0x0e4e), (0x0eb1, 0x0eb1), (0x0eb4, 0x0ebc), (0x0ec8, 0x0ecd),
    (0x0f18, 0x0f19), (0x0f35, 0x0f3f), (0x0f71, 0x0f87), (0x0f8d, 0x0fc6), (0x102b, 0x103e),
    (0x1056, 0x1059), (0x105e, 0x1060), (0x1062, 0x1064), (0x1067, 0x106d), (0x1071, 0x1074),
    (0x1082, 0x108d), (0x108f, 0x108f), (0x109a, 0x109d), (0x135d, 0x135f), (0x1712, 0x1715),
    (0x1732, 0x1734), (0x1752, 0x1753), (0x1772, 0x1773), (0x17b6, 0x17d3), (0x17dd, 0x17dd),
    (0x1885, 0x1886), (0x18a9, 0x18a9), (0x1920, 0x193b), (0x1a17, 0x1a1b), (0x1a55, 0x1a7f),
    (0x1ab0, 0x1b04), (0x1b34, 0x1b44), (0x1b6b, 0x1b82), (0x1ba1, 0x1bad), (0x1be6, 0x1bf3),
    (0x1c24, 0x1c37), (0x1cd0, 0x1ce8), (0x1ced, 0x1ced), (0x1cf4, 0x1cf4), (0x1cf7, 0x1cf9),
    (0x1dc0, 0x1dff), (0x2cef, 0x2cf1), (0x2d7f, 0x2d7f), (0x2de0, 0x2dff), (0x302a, 0x302d),
    (0x3099, 0x309a), (0xa66f, 0xa67d), (0xa69e, 0xa69f), (0xa6f0, 0xa6f1), (0xa802, 0xa802),
    (0xa806, 0xa806), (0xa80b, 0xa80b), (0xa823, 0xa82c), (0xa880, 0xa881), (0xa8b4, 0xa8c5),
    (0xa8e0, 0xa8f1), (0xa8ff, 0xa8ff), (0xa926, 0xa92d), (0xa947, 0xa983), (0xa9b3, 0xa9c0),
    (0xa9e5, 0xa9e5), (0xaa29, 0xaa36), (0xaa43, 0xaa43), (0xaa4c, 0xaa4d), (0xaa7b, 0xaa7d),
    (0xaab0, 0xaab0), (0xaab2, 0xaab4), (0xaab7, 0xaab8), (0xaabe, 0xaabf), (0xaac1, 0xaac1),
    (0xaaeb, 0xaaef), (0xaaf5, 0xaaf6), (0xabe3, 0xabed), (0xfb1e, 0xfe2f), (0x101fd, 0x101fd),
    (0x102e0, 0x102e0), (0x10376, 0x1037a), (0x10a01, 0x10a0f), (0x10a38, 0x10a3f),
    (0x10ae5, 0x10ae6), (0x10d24, 0x10d27), (0x10eab, 0x10eac), (0x10f46, 0x10f50),
    (0x10f82, 0x10f85), (0x11000, 0x11002), (0x11038, 0x11046), (0x11070, 0x11070),
    (0x11073, 0x11074), (0x1107f, 0x11082), (0x110b0, 0x110c2), (0x11100, 0x11102),
    (0x11127, 0x11134), (0x11145, 0x11146), (0x11173, 0x11173), (0x11180, 0x11182),
    (0x111b3, 0x111c0), (0x111c9, 0x111cf), (0x1122c, 0x1123e), (0x112df, 0x112ea),
    (0x11300, 0x11303), (0x1133b, 0x1133c), (0x1133e, 0x1134d), (0x11357, 0x11357),
    (0x11362, 0x11374), (0x11435, 0x11446), (0x1145e, 0x1145e), (0x114b0, 0x114c3),
    (0x115af, 0x115c0), (0x115dc, 0x115dd), (0x11630, 0x11640), (0x116ab, 0x116b7),
    (0x1171d, 0x1172b), (0x1182c, 0x1183a), (0x11930, 0x1193e), (0x11940, 0x11940),
    (0x11942, 0x11943), (0x119d1, 0x119e0), (0x119e4, 0x119e4), (0x11a01, 0x11a0a),
    (0x11a33, 0x11a39), (0x11a3b, 0x11a47), (0x11a51, 0x11a5b), (0x11a8a, 0x11a99),
    (0x11c2f, 0x11c3f), (0x11c92, 0x11cb6), (0x11d31, 0x11d45), (0x11d47, 0x11d47),
    (0x11d8a, 0x11d97), (0x11ef3, 0x11ef6), (0x16af0, 0x16af4), (0x16b30, 0x16b36),
    (0x16f4f, 0x16f4f), (0x16f51, 0x16f92), (0x16fe4, 0x16ff1), (0x1bc9d, 0x1daaf),
    (0x1e000, 0x1e02a), (0x1e130, 0x1e136), (0x1e2ae, 0x1e2ae), (0x1e2ec, 0x1e2ef),
    (0x1e8d0, 0x1e8d6), (0x1e944, 0x1e94a)]

def isMark (c : Char) : Bool :=
  Text.inRanges markRanges c.toNat

/-- A mark that takes no room of its own. -/
def isNonspacing (c : Char) : Bool :=
  isMark c && Text.isCaseIgnored c

/-- Marks from a first to a last, with their class. -/
def orderRuns : List (Nat × Nat × Nat) := [
    (0x0300, 0x0314, 230), (0x0315, 0x0315, 232), (0x0316, 0x0319, 220), (0x031a, 0x031a, 232),
    (0x031b, 0x031b, 216), (0x031c, 0x0320, 220), (0x0321, 0x0322, 202), (0x0323, 0x0326, 220),
    (0x0327, 0x0328, 202), (0x0329, 0x0333, 220), (0x0334, 0x0338, 1), (0x0339, 0x033c, 220),
    (0x033d, 0x0346, 230), (0x0347, 0x0349, 220), (0x034a, 0x034c, 230), (0x034d, 0x034e, 220),
    (0x0350, 0x0352, 230), (0x0353, 0x0356, 220), (0x0357, 0x0357, 230), (0x0358, 0x0358, 232),
    (0x0359, 0x035a, 220), (0x035b, 0x035b, 230), (0x035c, 0x035c, 233), (0x035d, 0x035e, 234),
    (0x035f, 0x035f, 233), (0x0360, 0x0361, 234), (0x0362, 0x0362, 233), (0x0363, 0x0487, 230),
    (0x0591, 0x0591, 220), (0x0592, 0x0595, 230), (0x0596, 0x0596, 220), (0x0597, 0x0599, 230),
    (0x059a, 0x059a, 222), (0x059b, 0x059b, 220), (0x059c, 0x05a1, 230), (0x05a2, 0x05a7, 220),
    (0x05a8, 0x05a9, 230), (0x05aa, 0x05aa, 220), (0x05ab, 0x05ac, 230), (0x05ad, 0x05ad, 222),
    (0x05ae, 0x05ae, 228), (0x05af, 0x05af, 230), (0x05b0, 0x05b0, 10), (0x05b1, 0x05b1, 11),
    (0x05b2, 0x05b2, 12), (0x05b3, 0x05b3, 13), (0x05b4, 0x05b4, 14), (0x05b5, 0x05b5, 15),
    (0x05b6, 0x05b6, 16), (0x05b7, 0x05b7, 17), (0x05b8, 0x05b8, 18), (0x05b9, 0x05ba, 19),
    (0x05bb, 0x05bb, 20), (0x05bc, 0x05bc, 21), (0x05bd, 0x05bd, 22), (0x05bf, 0x05bf, 23),
    (0x05c1, 0x05c1, 24), (0x05c2, 0x05c2, 25), (0x05c4, 0x05c4, 230), (0x05c5, 0x05c5, 220),
    (0x05c7, 0x05c7, 18), (0x0610, 0x0617, 230), (0x0618, 0x0618, 30), (0x0619, 0x0619, 31),
    (0x061a, 0x061a, 32), (0x064b, 0x064b, 27), (0x064c, 0x064c, 28), (0x064d, 0x064d, 29),
    (0x064e, 0x064e, 30), (0x064f, 0x064f, 31), (0x0650, 0x0650, 32), (0x0651, 0x0651, 33),
    (0x0652, 0x0652, 34), (0x0653, 0x0654, 230), (0x0655, 0x0656, 220), (0x0657, 0x065b, 230),
    (0x065c, 0x065c, 220), (0x065d, 0x065e, 230), (0x065f, 0x065f, 220), (0x0670, 0x0670, 35),
    (0x06d6, 0x06e2, 230), (0x06e3, 0x06e3, 220), (0x06e4, 0x06e8, 230), (0x06ea, 0x06ea, 220),
    (0x06eb, 0x06ec, 230), (0x06ed, 0x06ed, 220), (0x0711, 0x0711, 36), (0x0730, 0x0730, 230),
    (0x0731, 0x0731, 220), (0x0732, 0x0733, 230), (0x0734, 0x0734, 220), (0x0735, 0x0736, 230),
    (0x0737, 0x0739, 220), (0x073a, 0x073a, 230), (0x073b, 0x073c, 220), (0x073d, 0x073d, 230),
    (0x073e, 0x073e, 220), (0x073f, 0x0741, 230), (0x0742, 0x0742, 220), (0x0743, 0x0743, 230),
    (0x0744, 0x0744, 220), (0x0745, 0x0745, 230), (0x0746, 0x0746, 220), (0x0747, 0x0747, 230),
    (0x0748, 0x0748, 220), (0x0749, 0x074a, 230), (0x07eb, 0x07f1, 230), (0x07f2, 0x07f2, 220),
    (0x07f3, 0x07f3, 230), (0x07fd, 0x07fd, 220), (0x0816, 0x082d, 230), (0x0859, 0x085b, 220),
    (0x0898, 0x0898, 230), (0x0899, 0x089b, 220), (0x089c, 0x08ce, 230), (0x08cf, 0x08d3, 220),
    (0x08d4, 0x08e1, 230), (0x08e3, 0x08e3, 220), (0x08e4, 0x08e5, 230), (0x08e6, 0x08e6, 220),
    (0x08e7, 0x08e8, 230), (0x08e9, 0x08e9, 220), (0x08ea, 0x08ec, 230), (0x08ed, 0x08ef, 220),
    (0x08f0, 0x08f0, 27), (0x08f1, 0x08f1, 28), (0x08f2, 0x08f2, 29), (0x08f3, 0x08f5, 230),
    (0x08f6, 0x08f6, 220), (0x08f7, 0x08f8, 230), (0x08f9, 0x08fa, 220), (0x08fb, 0x08ff, 230),
    (0x093c, 0x093c, 7), (0x094d, 0x094d, 9), (0x0951, 0x0951, 230), (0x0952, 0x0952, 220),
    (0x0953, 0x0954, 230), (0x09bc, 0x09bc, 7), (0x09cd, 0x09cd, 9), (0x09fe, 0x09fe, 230),
    (0x0a3c, 0x0a3c, 7), (0x0a4d, 0x0a4d, 9), (0x0abc, 0x0abc, 7), (0x0acd, 0x0acd, 9),
    (0x0b3c, 0x0b3c, 7), (0x0b4d, 0x0b4d, 9), (0x0bcd, 0x0bcd, 9), (0x0c3c, 0x0c3c, 7),
    (0x0c4d, 0x0c4d, 9), (0x0c55, 0x0c55, 84), (0x0c56, 0x0c56, 91), (0x0cbc, 0x0cbc, 7),
    (0x0ccd, 0x0ccd, 9), (0x0d3b, 0x0d3c, 9), (0x0d4d, 0x0d4d, 9), (0x0dca, 0x0dca, 9),
    (0x0e38, 0x0e39, 103), (0x0e3a, 0x0e3a, 9), (0x0e48, 0x0e4b, 107), (0x0eb8, 0x0eb9, 118),
    (0x0eba, 0x0eba, 9), (0x0ec8, 0x0ecb, 122), (0x0f18, 0x0f37, 220), (0x0f39, 0x0f39, 216),
    (0x0f71, 0x0f71, 129), (0x0f72, 0x0f72, 130), (0x0f74, 0x0f74, 132), (0x0f7a, 0x0f7d, 130),
    (0x0f80, 0x0f80, 130), (0x0f82, 0x0f83, 230), (0x0f84, 0x0f84, 9), (0x0f86, 0x0f87, 230),
    (0x0fc6, 0x0fc6, 220), (0x1037, 0x1037, 7), (0x1039, 0x103a, 9), (0x108d, 0x108d, 220),
    (0x135d, 0x135f, 230), (0x1714, 0x1715, 9), (0x1734, 0x1734, 9), (0x17d2, 0x17d2, 9),
    (0x17dd, 0x17dd, 230), (0x18a9, 0x18a9, 228), (0x1939, 0x1939, 222), (0x193a, 0x193a, 230),
    (0x193b, 0x193b, 220), (0x1a17, 0x1a17, 230), (0x1a18, 0x1a18, 220), (0x1a60, 0x1a60, 9),
    (0x1a75, 0x1a7c, 230), (0x1a7f, 0x1a7f, 220), (0x1ab0, 0x1ab4, 230), (0x1ab5, 0x1aba, 220),
    (0x1abb, 0x1abc, 230), (0x1abd, 0x1ac0, 220), (0x1ac1, 0x1ac2, 230), (0x1ac3, 0x1ac4, 220),
    (0x1ac5, 0x1ac9, 230), (0x1aca, 0x1aca, 220), (0x1acb, 0x1ace, 230), (0x1b34, 0x1b34, 7),
    (0x1b44, 0x1b44, 9), (0x1b6b, 0x1b6b, 230), (0x1b6c, 0x1b6c, 220), (0x1b6d, 0x1b73, 230),
    (0x1baa, 0x1bab, 9), (0x1be6, 0x1be6, 7), (0x1bf2, 0x1bf3, 9), (0x1c37, 0x1c37, 7),
    (0x1cd0, 0x1cd2, 230), (0x1cd4, 0x1cd4, 1), (0x1cd5, 0x1cd9, 220), (0x1cda, 0x1cdb, 230),
    (0x1cdc, 0x1cdf, 220), (0x1ce0, 0x1ce0, 230), (0x1ce2, 0x1ce8, 1), (0x1ced, 0x1ced, 220),
    (0x1cf4, 0x1cf4, 230), (0x1cf8, 0x1dc1, 230), (0x1dc2, 0x1dc2, 220), (0x1dc3, 0x1dc9, 230),
    (0x1dca, 0x1dca, 220), (0x1dcb, 0x1dcc, 230), (0x1dcd, 0x1dcd, 234), (0x1dce, 0x1dce, 214),
    (0x1dcf, 0x1dcf, 220), (0x1dd0, 0x1dd0, 202), (0x1dd1, 0x1df5, 230), (0x1df6, 0x1df6, 232),
    (0x1df7, 0x1df8, 228), (0x1df9, 0x1df9, 220), (0x1dfa, 0x1dfa, 218), (0x1dfb, 0x1dfb, 230),
    (0x1dfc, 0x1dfc, 233), (0x1dfd, 0x1dfd, 220), (0x1dfe, 0x1dfe, 230), (0x1dff, 0x1dff, 220),
    (0x2cef, 0x2cf1, 230), (0x2d7f, 0x2d7f, 9), (0x2de0, 0x2dff, 230), (0x302a, 0x302a, 218),
    (0x302b, 0x302b, 228), (0x302c, 0x302c, 232), (0x302d, 0x302d, 222), (0x3099, 0x309a, 8),
    (0xa66f, 0xa6f1, 230), (0xa806, 0xa806, 9), (0xa82c, 0xa82c, 9), (0xa8c4, 0xa8c4, 9),
    (0xa8e0, 0xa8f1, 230), (0xa92b, 0xa92d, 220), (0xa953, 0xa953, 9), (0xa9b3, 0xa9b3, 7),
    (0xa9c0, 0xa9c0, 9), (0xaab0, 0xaab3, 230), (0xaab4, 0xaab4, 220), (0xaab7, 0xaac1, 230),
    (0xaaf6, 0xaaf6, 9), (0xabed, 0xabed, 9), (0xfb1e, 0xfb1e, 26), (0xfe20, 0xfe26, 230),
    (0xfe27, 0xfe2d, 220), (0xfe2e, 0xfe2f, 230), (0x101fd, 0x102e0, 220), (0x10376, 0x1037a, 230),
    (0x10a0d, 0x10a0d, 220), (0x10a0f, 0x10a38, 230), (0x10a39, 0x10a39, 1),
    (0x10a3a, 0x10a3a, 220), (0x10a3f, 0x10a3f, 9), (0x10ae5, 0x10ae5, 230),
    (0x10ae6, 0x10ae6, 220), (0x10d24, 0x10eac, 230), (0x10f46, 0x10f47, 220),
    (0x10f48, 0x10f4a, 230), (0x10f4b, 0x10f4b, 220), (0x10f4c, 0x10f4c, 230),
    (0x10f4d, 0x10f50, 220), (0x10f82, 0x10f82, 230), (0x10f83, 0x10f83, 220),
    (0x10f84, 0x10f84, 230), (0x10f85, 0x10f85, 220), (0x11046, 0x11070, 9), (0x1107f, 0x1107f, 9),
    (0x110b9, 0x110b9, 9), (0x110ba, 0x110ba, 7), (0x11100, 0x11102, 230), (0x11133, 0x11134, 9),
    (0x11173, 0x11173, 7), (0x111c0, 0x111c0, 9), (0x111ca, 0x111ca, 7), (0x11235, 0x11235, 9),
    (0x11236, 0x11236, 7), (0x112e9, 0x112e9, 7), (0x112ea, 0x112ea, 9), (0x1133b, 0x1133c, 7),
    (0x1134d, 0x1134d, 9), (0x11366, 0x11374, 230), (0x11442, 0x11442, 9), (0x11446, 0x11446, 7),
    (0x1145e, 0x1145e, 230), (0x114c2, 0x114c2, 9), (0x114c3, 0x114c3, 7), (0x115bf, 0x115bf, 9),
    (0x115c0, 0x115c0, 7), (0x1163f, 0x1163f, 9), (0x116b6, 0x116b6, 9), (0x116b7, 0x116b7, 7),
    (0x1172b, 0x1172b, 9), (0x11839, 0x11839, 9), (0x1183a, 0x1183a, 7), (0x1193d, 0x1193e, 9),
    (0x11943, 0x11943, 7), (0x119e0, 0x119e0, 9), (0x11a34, 0x11a34, 9), (0x11a47, 0x11a47, 9),
    (0x11a99, 0x11a99, 9), (0x11c3f, 0x11c3f, 9), (0x11d42, 0x11d42, 7), (0x11d44, 0x11d45, 9),
    (0x11d97, 0x11d97, 9), (0x16af0, 0x16af4, 1), (0x16b30, 0x16b36, 230), (0x16ff0, 0x16ff1, 6),
    (0x1bc9e, 0x1bc9e, 1), (0x1e000, 0x1e2ef, 230), (0x1e8d0, 0x1e8d6, 220),
    (0x1e944, 0x1e949, 230), (0x1e94a, 0x1e94a, 7)]

def runValue? {α : Type} (runs : List (Nat × Nat × α)) (c : Char) : Option α :=
  (runs.find? fun r => r.1 ≤ c.toNat && c.toNat ≤ r.2.1).map fun r => r.2.2

/-- The class that orders a mark among others behind one letter; zero where the order counts. -/
def orderClass (c : Char) : Nat :=
  if isMark c then (runValue? orderRuns c).getD 0 else 0

def viramaClass : Nat := 9

/-! ## Direction -/

inductive Direction where
  | left
  | right
  | number
  | arabicNumber
  /-- Takes the direction of what is around it. -/
  | neutral
  | mark
deriving DecidableEq, Repr

def directionRuns : List (Nat × Nat × Direction) := [
    (0x002d, 0x002d, .neutral), (0x0030, 0x0039, .number), (0x00b7, 0x00b7, .neutral),
    (0x02b9, 0x02ba, .neutral), (0x02c6, 0x02cf, .neutral), (0x02ec, 0x02ec, .neutral),
    (0x0375, 0x0375, .neutral), (0x05d0, 0x05f4, .right), (0x0620, 0x064a, .right),
    (0x0660, 0x0669, .arabicNumber), (0x066e, 0x066f, .right), (0x0671, 0x06d5, .right),
    (0x06e5, 0x06e6, .right), (0x06ee, 0x06ef, .right), (0x06f0, 0x06f9, .number),
    (0x06fa, 0x0710, .right), (0x0712, 0x072f, .right), (0x074d, 0x07a5, .right),
    (0x07b1, 0x07ea, .right), (0x07f4, 0x07f5, .right), (0x0800, 0x0815, .right),
    (0x081a, 0x081a, .right), (0x0824, 0x0824, .right), (0x0828, 0x0828, .right),
    (0x0840, 0x0858, .right), (0x0860, 0x088e, .right), (0x08a0, 0x08c9, .right),
    (0x200c, 0x200d, .neutral), (0x2e2f, 0x2e2f, .neutral), (0x30fb, 0x30fb, .neutral),
    (0xa67f, 0xa67f, .neutral), (0xa717, 0xa71f, .neutral), (0xa788, 0xa788, .neutral),
    (0xfe73, 0xfe73, .right), (0x10800, 0x10a00, .right), (0x10a10, 0x10a35, .right),
    (0x10a60, 0x10ae4, .right), (0x10b00, 0x10d23, .right), (0x10d30, 0x10d39, .arabicNumber),
    (0x10e80, 0x10ea9, .right), (0x10eb0, 0x10f45, .right), (0x10f70, 0x10f81, .right),
    (0x10fb0, 0x10ff6, .right), (0x1e800, 0x1e8c4, .right), (0x1e922, 0x1e943, .right),
    (0x1e94b, 0x1e959, .right)]

def direction (c : Char) : Direction :=
  if isNonspacing c then .mark else (runValue? directionRuns c).getD .left

/-! ## Joining -/

inductive Joining where
  | left
  | right
  | dual
deriving DecidableEq, Repr

def joiningRuns : List (Nat × Nat × Joining) := [
    (0x0620, 0x0620, .dual), (0x0622, 0x0625, .right), (0x0626, 0x0626, .dual),
    (0x0627, 0x0627, .right), (0x0628, 0x0628, .dual), (0x0629, 0x0629, .right),
    (0x062a, 0x062e, .dual), (0x062f, 0x0632, .right), (0x0633, 0x0647, .dual),
    (0x0648, 0x0648, .right), (0x0649, 0x064a, .dual), (0x066e, 0x066f, .dual),
    (0x0671, 0x0673, .right), (0x0679, 0x0687, .dual), (0x0688, 0x0699, .right),
    (0x069a, 0x06bf, .dual), (0x06c0, 0x06c0, .right), (0x06c1, 0x06c2, .dual),
    (0x06c3, 0x06cb, .right), (0x06cc, 0x06cc, .dual), (0x06cd, 0x06cd, .right),
    (0x06ce, 0x06ce, .dual), (0x06cf, 0x06cf, .right), (0x06d0, 0x06d1, .dual),
    (0x06d2, 0x06d5, .right), (0x06ee, 0x06ef, .right), (0x06fa, 0x06fc, .dual),
    (0x06ff, 0x06ff, .dual), (0x0710, 0x0710, .right), (0x0712, 0x0714, .dual),
    (0x0715, 0x0719, .right), (0x071a, 0x071d, .dual), (0x071e, 0x071e, .right),
    (0x071f, 0x0727, .dual), (0x0728, 0x0728, .right), (0x0729, 0x0729, .dual),
    (0x072a, 0x072a, .right), (0x072b, 0x072b, .dual), (0x072c, 0x072c, .right),
    (0x072d, 0x072e, .dual), (0x072f, 0x074d, .right), (0x074e, 0x0758, .dual),
    (0x0759, 0x075b, .right), (0x075c, 0x076a, .dual), (0x076b, 0x076c, .right),
    (0x076d, 0x0770, .dual), (0x0771, 0x0771, .right), (0x0772, 0x0772, .dual),
    (0x0773, 0x0774, .right), (0x0775, 0x0777, .dual), (0x0778, 0x0779, .right),
    (0x077a, 0x077f, .dual), (0x07ca, 0x07ea, .dual), (0x0840, 0x0840, .right),
    (0x0841, 0x0845, .dual), (0x0846, 0x0847, .right), (0x0848, 0x0848, .dual),
    (0x0849, 0x0849, .right), (0x084a, 0x0853, .dual), (0x0854, 0x0854, .right),
    (0x0855, 0x0855, .dual), (0x0856, 0x0858, .right), (0x0860, 0x0860, .dual),
    (0x0862, 0x0865, .dual), (0x0867, 0x0867, .right), (0x0868, 0x0868, .dual),
    (0x0869, 0x0882, .right), (0x0886, 0x0886, .dual), (0x0889, 0x088d, .dual),
    (0x088e, 0x088e, .right), (0x08a0, 0x08a9, .dual), (0x08aa, 0x08ac, .right),
    (0x08ae, 0x08ae, .right), (0x08af, 0x08b0, .dual), (0x08b1, 0x08b2, .right),
    (0x08b3, 0x08b8, .dual), (0x08b9, 0x08b9, .right), (0x08ba, 0x08c8, .dual),
    (0x1820, 0x1878, .dual), (0x1887, 0x18aa, .dual), (0xa840, 0xa871, .dual),
    (0xa872, 0xa872, .left), (0x10ac0, 0x10ac4, .dual), (0x10ac5, 0x10ac5, .right),
    (0x10ac7, 0x10aca, .right), (0x10acd, 0x10acd, .left), (0x10ace, 0x10ad2, .right),
    (0x10ad3, 0x10ad6, .dual), (0x10ad7, 0x10ad7, .left), (0x10ad8, 0x10adc, .dual),
    (0x10add, 0x10add, .right), (0x10ade, 0x10ae0, .dual), (0x10ae1, 0x10ae1, .right),
    (0x10ae4, 0x10ae4, .right), (0x10b80, 0x10b80, .dual), (0x10b81, 0x10b81, .right),
    (0x10b82, 0x10b82, .dual), (0x10b83, 0x10b85, .right), (0x10b86, 0x10b88, .dual),
    (0x10b89, 0x10b89, .right), (0x10b8a, 0x10b8b, .dual), (0x10b8c, 0x10b8c, .right),
    (0x10b8d, 0x10b8d, .dual), (0x10b8e, 0x10b8f, .right), (0x10b90, 0x10b90, .dual),
    (0x10b91, 0x10b91, .right), (0x10d00, 0x10d00, .left), (0x10d01, 0x10d21, .dual),
    (0x10d22, 0x10d22, .right), (0x10d23, 0x10d23, .dual), (0x10f30, 0x10f32, .dual),
    (0x10f33, 0x10f33, .right), (0x10f34, 0x10f44, .dual), (0x10f70, 0x10f73, .dual),
    (0x10f74, 0x10f75, .right), (0x10f76, 0x10fb0, .dual), (0x10fb2, 0x10fb3, .dual),
    (0x10fb4, 0x10fb6, .right), (0x10fb8, 0x10fb8, .dual), (0x10fb9, 0x10fba, .right),
    (0x10fbb, 0x10fbc, .dual), (0x10fbd, 0x10fbd, .right), (0x10fbe, 0x10fbf, .dual),
    (0x10fc1, 0x10fc1, .dual), (0x10fc2, 0x10fc3, .right), (0x10fc4, 0x10fc4, .dual),
    (0x1e922, 0x1e943, .dual)]

def joining? (c : Char) : Option Joining :=
  runValue? joiningRuns c

/-! ## Scripts -/

def greekRanges : List (Nat × Nat) := [
    (0x0371, 0x03e1), (0x03f3, 0x03fc), (0x1d26, 0x1d2a), (0x1f00, 0x1ff6), (0xab65, 0xab65)]

def hebrewRanges : List (Nat × Nat) := [
    (0x0591, 0x05f4), (0xfb1e, 0xfb1e)]

def japaneseRanges : List (Nat × Nat) := [
    (0x3041, 0x3096), (0x309d, 0x309e), (0x1b001, 0x1b11f), (0x1b150, 0x1b152),
    (0x30a1, 0x30fa), (0x30fd, 0x30fe), (0x31f0, 0x31ff), (0x1aff0, 0x1b000), (0x1b120, 0x1b122),
    (0x1b164, 0x1b167),
    (0x3005, 0x3005), (0x3007, 0x3007), (0x3400, 0x9fff), (0xfa0e, 0xfa29), (0x16fe3, 0x16fe3),
    (0x16ff0, 0x16ff1), (0x20000, 0x3134a)]

end Colloquy.Hostname
