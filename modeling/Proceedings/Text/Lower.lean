import Proceedings.Text.Mark

/-! # Lower case

The full lower-case mapping of the Unicode character database, version 14: each capital has one
small letter, but for a capital I with a dot, whose dot becomes a mark, and a capital sigma, which
has a form of its own at the end of a word.
-/

namespace Proceedings

namespace CodePoint

/-- The runs of capitals with one small letter, ASCII and sigma apart. -/
def smallRuns : List CaseRun :=
  [⟨⟨0xC0, 23, 1⟩, 32⟩, ⟨⟨0xD8, 7, 1⟩, 32⟩, ⟨⟨0x100, 24, 2⟩, 1⟩, ⟨⟨0x132, 3, 2⟩, 1⟩,
   ⟨⟨0x139, 8, 2⟩, 1⟩, ⟨⟨0x14A, 23, 2⟩, 1⟩, ⟨⟨0x178, 1, 1⟩, -121⟩, ⟨⟨0x179, 3, 2⟩, 1⟩,
   ⟨⟨0x181, 1, 1⟩, 210⟩, ⟨⟨0x182, 2, 2⟩, 1⟩, ⟨⟨0x186, 1, 1⟩, 206⟩, ⟨⟨0x187, 1, 1⟩, 1⟩,
   ⟨⟨0x189, 2, 1⟩, 205⟩, ⟨⟨0x18B, 1, 1⟩, 1⟩, ⟨⟨0x18E, 1, 1⟩, 79⟩, ⟨⟨0x18F, 1, 1⟩, 202⟩,
   ⟨⟨0x190, 1, 1⟩, 203⟩, ⟨⟨0x191, 1, 1⟩, 1⟩, ⟨⟨0x193, 1, 1⟩, 205⟩, ⟨⟨0x194, 1, 1⟩, 207⟩,
   ⟨⟨0x196, 1, 1⟩, 211⟩, ⟨⟨0x197, 1, 1⟩, 209⟩, ⟨⟨0x198, 1, 1⟩, 1⟩, ⟨⟨0x19C, 1, 1⟩, 211⟩,
   ⟨⟨0x19D, 1, 1⟩, 213⟩, ⟨⟨0x19F, 1, 1⟩, 214⟩, ⟨⟨0x1A0, 3, 2⟩, 1⟩, ⟨⟨0x1A6, 1, 1⟩, 218⟩,
   ⟨⟨0x1A7, 1, 1⟩, 1⟩, ⟨⟨0x1A9, 1, 1⟩, 218⟩, ⟨⟨0x1AC, 1, 1⟩, 1⟩, ⟨⟨0x1AE, 1, 1⟩, 218⟩,
   ⟨⟨0x1AF, 1, 1⟩, 1⟩, ⟨⟨0x1B1, 2, 1⟩, 217⟩, ⟨⟨0x1B3, 2, 2⟩, 1⟩, ⟨⟨0x1B7, 1, 1⟩, 219⟩,
   ⟨⟨0x1B8, 1, 1⟩, 1⟩, ⟨⟨0x1BC, 1, 1⟩, 1⟩, ⟨⟨0x1C4, 1, 1⟩, 2⟩, ⟨⟨0x1C5, 1, 1⟩, 1⟩,
   ⟨⟨0x1C7, 1, 1⟩, 2⟩, ⟨⟨0x1C8, 1, 1⟩, 1⟩, ⟨⟨0x1CA, 1, 1⟩, 2⟩, ⟨⟨0x1CB, 9, 2⟩, 1⟩,
   ⟨⟨0x1DE, 9, 2⟩, 1⟩, ⟨⟨0x1F1, 1, 1⟩, 2⟩, ⟨⟨0x1F2, 2, 2⟩, 1⟩, ⟨⟨0x1F6, 1, 1⟩, -97⟩,
   ⟨⟨0x1F7, 1, 1⟩, -56⟩, ⟨⟨0x1F8, 20, 2⟩, 1⟩, ⟨⟨0x220, 1, 1⟩, -130⟩, ⟨⟨0x222, 9, 2⟩, 1⟩,
   ⟨⟨0x23A, 1, 1⟩, 10795⟩, ⟨⟨0x23B, 1, 1⟩, 1⟩, ⟨⟨0x23D, 1, 1⟩, -163⟩, ⟨⟨0x23E, 1, 1⟩, 10792⟩,
   ⟨⟨0x241, 1, 1⟩, 1⟩, ⟨⟨0x243, 1, 1⟩, -195⟩, ⟨⟨0x244, 1, 1⟩, 69⟩, ⟨⟨0x245, 1, 1⟩, 71⟩,
   ⟨⟨0x246, 5, 2⟩, 1⟩, ⟨⟨0x370, 2, 2⟩, 1⟩, ⟨⟨0x376, 1, 1⟩, 1⟩, ⟨⟨0x37F, 1, 1⟩, 116⟩,
   ⟨⟨0x386, 1, 1⟩, 38⟩, ⟨⟨0x388, 3, 1⟩, 37⟩, ⟨⟨0x38C, 1, 1⟩, 64⟩, ⟨⟨0x38E, 2, 1⟩, 63⟩,
   ⟨⟨0x391, 17, 1⟩, 32⟩, ⟨⟨0x3A4, 8, 1⟩, 32⟩, ⟨⟨0x3CF, 1, 1⟩, 8⟩, ⟨⟨0x3D8, 12, 2⟩, 1⟩,
   ⟨⟨0x3F4, 1, 1⟩, -60⟩, ⟨⟨0x3F7, 1, 1⟩, 1⟩, ⟨⟨0x3F9, 1, 1⟩, -7⟩, ⟨⟨0x3FA, 1, 1⟩, 1⟩,
   ⟨⟨0x3FD, 3, 1⟩, -130⟩, ⟨⟨0x400, 16, 1⟩, 80⟩, ⟨⟨0x410, 32, 1⟩, 32⟩, ⟨⟨0x460, 17, 2⟩, 1⟩,
   ⟨⟨0x48A, 27, 2⟩, 1⟩, ⟨⟨0x4C0, 1, 1⟩, 15⟩, ⟨⟨0x4C1, 7, 2⟩, 1⟩, ⟨⟨0x4D0, 48, 2⟩, 1⟩,
   ⟨⟨0x531, 38, 1⟩, 48⟩, ⟨⟨0x10A0, 38, 1⟩, 7264⟩, ⟨⟨0x10C7, 1, 1⟩, 7264⟩, ⟨⟨0x10CD, 1, 1⟩, 7264⟩,
   ⟨⟨0x13A0, 80, 1⟩, 38864⟩, ⟨⟨0x13F0, 6, 1⟩, 8⟩, ⟨⟨0x1C90, 43, 1⟩, -3008⟩, ⟨⟨0x1CBD, 3, 1⟩, -3008⟩,
   ⟨⟨0x1E00, 75, 2⟩, 1⟩, ⟨⟨0x1E9E, 1, 1⟩, -7615⟩, ⟨⟨0x1EA0, 48, 2⟩, 1⟩, ⟨⟨0x1F08, 8, 1⟩, -8⟩,
   ⟨⟨0x1F18, 6, 1⟩, -8⟩, ⟨⟨0x1F28, 8, 1⟩, -8⟩, ⟨⟨0x1F38, 8, 1⟩, -8⟩, ⟨⟨0x1F48, 6, 1⟩, -8⟩,
   ⟨⟨0x1F59, 4, 2⟩, -8⟩, ⟨⟨0x1F68, 8, 1⟩, -8⟩, ⟨⟨0x1F88, 8, 1⟩, -8⟩, ⟨⟨0x1F98, 8, 1⟩, -8⟩,
   ⟨⟨0x1FA8, 8, 1⟩, -8⟩, ⟨⟨0x1FB8, 2, 1⟩, -8⟩, ⟨⟨0x1FBA, 2, 1⟩, -74⟩, ⟨⟨0x1FBC, 1, 1⟩, -9⟩,
   ⟨⟨0x1FC8, 4, 1⟩, -86⟩, ⟨⟨0x1FCC, 1, 1⟩, -9⟩, ⟨⟨0x1FD8, 2, 1⟩, -8⟩, ⟨⟨0x1FDA, 2, 1⟩, -100⟩,
   ⟨⟨0x1FE8, 2, 1⟩, -8⟩, ⟨⟨0x1FEA, 2, 1⟩, -112⟩, ⟨⟨0x1FEC, 1, 1⟩, -7⟩, ⟨⟨0x1FF8, 2, 1⟩, -128⟩,
   ⟨⟨0x1FFA, 2, 1⟩, -126⟩, ⟨⟨0x1FFC, 1, 1⟩, -9⟩, ⟨⟨0x2126, 1, 1⟩, -7517⟩, ⟨⟨0x212A, 1, 1⟩, -8383⟩,
   ⟨⟨0x212B, 1, 1⟩, -8262⟩, ⟨⟨0x2132, 1, 1⟩, 28⟩, ⟨⟨0x2160, 16, 1⟩, 16⟩, ⟨⟨0x2183, 1, 1⟩, 1⟩,
   ⟨⟨0x24B6, 26, 1⟩, 26⟩, ⟨⟨0x2C00, 48, 1⟩, 48⟩, ⟨⟨0x2C60, 1, 1⟩, 1⟩, ⟨⟨0x2C62, 1, 1⟩, -10743⟩,
   ⟨⟨0x2C63, 1, 1⟩, -3814⟩, ⟨⟨0x2C64, 1, 1⟩, -10727⟩, ⟨⟨0x2C67, 3, 2⟩, 1⟩, ⟨⟨0x2C6D, 1, 1⟩, -10780⟩,
   ⟨⟨0x2C6E, 1, 1⟩, -10749⟩, ⟨⟨0x2C6F, 1, 1⟩, -10783⟩, ⟨⟨0x2C70, 1, 1⟩, -10782⟩,
   ⟨⟨0x2C72, 1, 1⟩, 1⟩, ⟨⟨0x2C75, 1, 1⟩, 1⟩, ⟨⟨0x2C7E, 2, 1⟩, -10815⟩, ⟨⟨0x2C80, 50, 2⟩, 1⟩,
   ⟨⟨0x2CEB, 2, 2⟩, 1⟩, ⟨⟨0x2CF2, 1, 1⟩, 1⟩, ⟨⟨0xA640, 23, 2⟩, 1⟩, ⟨⟨0xA680, 14, 2⟩, 1⟩,
   ⟨⟨0xA722, 7, 2⟩, 1⟩, ⟨⟨0xA732, 31, 2⟩, 1⟩, ⟨⟨0xA779, 2, 2⟩, 1⟩, ⟨⟨0xA77D, 1, 1⟩, -35332⟩,
   ⟨⟨0xA77E, 5, 2⟩, 1⟩, ⟨⟨0xA78B, 1, 1⟩, 1⟩, ⟨⟨0xA78D, 1, 1⟩, -42280⟩, ⟨⟨0xA790, 2, 2⟩, 1⟩,
   ⟨⟨0xA796, 10, 2⟩, 1⟩, ⟨⟨0xA7AA, 1, 1⟩, -42308⟩, ⟨⟨0xA7AB, 1, 1⟩, -42319⟩,
   ⟨⟨0xA7AC, 1, 1⟩, -42315⟩, ⟨⟨0xA7AD, 1, 1⟩, -42305⟩, ⟨⟨0xA7AE, 1, 1⟩, -42308⟩,
   ⟨⟨0xA7B0, 1, 1⟩, -42258⟩, ⟨⟨0xA7B1, 1, 1⟩, -42282⟩, ⟨⟨0xA7B2, 1, 1⟩, -42261⟩,
   ⟨⟨0xA7B3, 1, 1⟩, 928⟩, ⟨⟨0xA7B4, 8, 2⟩, 1⟩, ⟨⟨0xA7C4, 1, 1⟩, -48⟩, ⟨⟨0xA7C5, 1, 1⟩, -42307⟩,
   ⟨⟨0xA7C6, 1, 1⟩, -35384⟩, ⟨⟨0xA7C7, 2, 2⟩, 1⟩, ⟨⟨0xA7D0, 1, 1⟩, 1⟩, ⟨⟨0xA7D6, 2, 2⟩, 1⟩,
   ⟨⟨0xA7F5, 1, 1⟩, 1⟩, ⟨⟨0xFF21, 26, 1⟩, 32⟩, ⟨⟨0x10400, 40, 1⟩, 40⟩, ⟨⟨0x104B0, 36, 1⟩, 40⟩,
   ⟨⟨0x10570, 11, 1⟩, 39⟩, ⟨⟨0x1057C, 15, 1⟩, 39⟩, ⟨⟨0x1058C, 7, 1⟩, 39⟩, ⟨⟨0x10594, 2, 1⟩, 39⟩,
   ⟨⟨0x10C80, 51, 1⟩, 64⟩, ⟨⟨0x118A0, 32, 1⟩, 32⟩, ⟨⟨0x16E40, 32, 1⟩, 32⟩, ⟨⟨0x1E900, 34, 1⟩, 34⟩]

/-- The letters that have a case. -/
def casedLetters : List (Nat × Nat) :=
  [(0x41, 0x5A), (0x61, 0x7A), (0xAA, 0xAA), (0xB5, 0xB5), (0xBA, 0xBA), (0xC0, 0xD6), (0xD8, 0xF6),
   (0xF8, 0x1BA), (0x1BC, 0x1BF), (0x1C4, 0x293), (0x295, 0x2AF), (0x370, 0x373), (0x376, 0x377),
   (0x37B, 0x37D), (0x37F, 0x37F), (0x386, 0x386), (0x388, 0x38A), (0x38C, 0x38C), (0x38E, 0x3A1),
   (0x3A3, 0x3F5), (0x3F7, 0x481), (0x48A, 0x52F), (0x531, 0x556), (0x560, 0x588), (0x10A0, 0x10C5),
   (0x10C7, 0x10C7), (0x10CD, 0x10CD), (0x10D0, 0x10FA), (0x10FD, 0x10FF), (0x13A0, 0x13F5),
   (0x13F8, 0x13FD), (0x1C80, 0x1C88), (0x1C90, 0x1CBA), (0x1CBD, 0x1CBF), (0x1D00, 0x1D2B),
   (0x1D6B, 0x1D77), (0x1D79, 0x1D9A), (0x1E00, 0x1F15), (0x1F18, 0x1F1D), (0x1F20, 0x1F45),
   (0x1F48, 0x1F4D), (0x1F50, 0x1F57), (0x1F59, 0x1F59), (0x1F5B, 0x1F5B), (0x1F5D, 0x1F5D),
   (0x1F5F, 0x1F7D), (0x1F80, 0x1FB4), (0x1FB6, 0x1FBC), (0x1FBE, 0x1FBE), (0x1FC2, 0x1FC4),
   (0x1FC6, 0x1FCC), (0x1FD0, 0x1FD3), (0x1FD6, 0x1FDB), (0x1FE0, 0x1FEC), (0x1FF2, 0x1FF4),
   (0x1FF6, 0x1FFC), (0x2102, 0x2102), (0x2107, 0x2107), (0x210A, 0x2113), (0x2115, 0x2115),
   (0x2119, 0x211D), (0x2124, 0x2124), (0x2126, 0x2126), (0x2128, 0x2128), (0x212A, 0x212D),
   (0x212F, 0x2134), (0x2139, 0x2139), (0x213C, 0x213F), (0x2145, 0x2149), (0x214E, 0x214E),
   (0x2160, 0x217F), (0x2183, 0x2184), (0x24B6, 0x24E9), (0x2C00, 0x2C7B), (0x2C7E, 0x2CE4),
   (0x2CEB, 0x2CEE), (0x2CF2, 0x2CF3), (0x2D00, 0x2D25), (0x2D27, 0x2D27), (0x2D2D, 0x2D2D),
   (0xA640, 0xA66D), (0xA680, 0xA69B), (0xA722, 0xA76F), (0xA771, 0xA787), (0xA78B, 0xA78E),
   (0xA790, 0xA7CA), (0xA7D0, 0xA7D1), (0xA7D3, 0xA7D3), (0xA7D5, 0xA7D9), (0xA7F5, 0xA7F6),
   (0xA7FA, 0xA7FA), (0xAB30, 0xAB5A), (0xAB60, 0xAB68), (0xAB70, 0xABBF), (0xFB00, 0xFB06),
   (0xFB13, 0xFB17), (0xFF21, 0xFF3A), (0xFF41, 0xFF5A), (0x10400, 0x1044F), (0x104B0, 0x104D3),
   (0x104D8, 0x104FB), (0x10570, 0x1057A), (0x1057C, 0x1058A), (0x1058C, 0x10592),
   (0x10594, 0x10595), (0x10597, 0x105A1), (0x105A3, 0x105B1), (0x105B3, 0x105B9),
   (0x105BB, 0x105BC), (0x10C80, 0x10CB2), (0x10CC0, 0x10CF2), (0x118A0, 0x118DF),
   (0x16E40, 0x16E7F), (0x1D400, 0x1D454), (0x1D456, 0x1D49C), (0x1D49E, 0x1D49F),
   (0x1D4A2, 0x1D4A2), (0x1D4A5, 0x1D4A6), (0x1D4A9, 0x1D4AC), (0x1D4AE, 0x1D4B9),
   (0x1D4BB, 0x1D4BB), (0x1D4BD, 0x1D4C3), (0x1D4C5, 0x1D505), (0x1D507, 0x1D50A),
   (0x1D50D, 0x1D514), (0x1D516, 0x1D51C), (0x1D51E, 0x1D539), (0x1D53B, 0x1D53E),
   (0x1D540, 0x1D544), (0x1D546, 0x1D546), (0x1D54A, 0x1D550), (0x1D552, 0x1D6A5),
   (0x1D6A8, 0x1D6C0), (0x1D6C2, 0x1D6DA), (0x1D6DC, 0x1D6FA), (0x1D6FC, 0x1D714),
   (0x1D716, 0x1D734), (0x1D736, 0x1D74E), (0x1D750, 0x1D76E), (0x1D770, 0x1D788),
   (0x1D78A, 0x1D7A8), (0x1D7AA, 0x1D7C2), (0x1D7C4, 0x1D7CB), (0x1DF00, 0x1DF09),
   (0x1DF0B, 0x1DF1E), (0x1E900, 0x1E943), (0x1F130, 0x1F149), (0x1F150, 0x1F169),
   (0x1F170, 0x1F189)]

/-- What is passed over when words are told apart by their cased letters, marks without space
apart. -/
def caseIgnorables : List (Nat × Nat) :=
  [(0x27, 0x27), (0x2E, 0x2E), (0x3A, 0x3A), (0x5E, 0x5E), (0x60, 0x60), (0xA8, 0xA8), (0xAD, 0xAD),
   (0xAF, 0xAF), (0xB4, 0xB4), (0xB7, 0xB8), (0x2B0, 0x2FF), (0x374, 0x375), (0x37A, 0x37A),
   (0x384, 0x385), (0x387, 0x387), (0x559, 0x559), (0x55F, 0x55F), (0x5F4, 0x5F4), (0x600, 0x605),
   (0x61C, 0x61C), (0x640, 0x640), (0x6DD, 0x6DD), (0x6E5, 0x6E6), (0x70F, 0x70F), (0x7F4, 0x7F5),
   (0x7FA, 0x7FA), (0x81A, 0x81A), (0x824, 0x824), (0x828, 0x828), (0x888, 0x888), (0x890, 0x891),
   (0x8C9, 0x8C9), (0x8E2, 0x8E2), (0x971, 0x971), (0xE46, 0xE46), (0xEC6, 0xEC6), (0x10FC, 0x10FC),
   (0x17D7, 0x17D7), (0x180E, 0x180E), (0x1843, 0x1843), (0x1AA7, 0x1AA7), (0x1C78, 0x1C7D),
   (0x1D2C, 0x1D6A), (0x1D78, 0x1D78), (0x1D9B, 0x1DBF), (0x1FBD, 0x1FBD), (0x1FBF, 0x1FC1),
   (0x1FCD, 0x1FCF), (0x1FDD, 0x1FDF), (0x1FED, 0x1FEF), (0x1FFD, 0x1FFE), (0x200B, 0x200F),
   (0x2018, 0x2019), (0x2024, 0x2024), (0x2027, 0x2027), (0x202A, 0x202E), (0x2060, 0x2064),
   (0x2066, 0x206F), (0x2071, 0x2071), (0x207F, 0x207F), (0x2090, 0x209C), (0x2C7C, 0x2C7D),
   (0x2D6F, 0x2D6F), (0x2E2F, 0x2E2F), (0x3005, 0x3005), (0x3031, 0x3035), (0x303B, 0x303B),
   (0x309B, 0x309E), (0x30FC, 0x30FE), (0xA015, 0xA015), (0xA4F8, 0xA4FD), (0xA60C, 0xA60C),
   (0xA67F, 0xA67F), (0xA69C, 0xA69D), (0xA700, 0xA721), (0xA770, 0xA770), (0xA788, 0xA78A),
   (0xA7F2, 0xA7F4), (0xA7F8, 0xA7F9), (0xA9CF, 0xA9CF), (0xA9E6, 0xA9E6), (0xAA70, 0xAA70),
   (0xAADD, 0xAADD), (0xAAF3, 0xAAF4), (0xAB5B, 0xAB5F), (0xAB69, 0xAB6B), (0xFBB2, 0xFBC2),
   (0xFE13, 0xFE13), (0xFE52, 0xFE52), (0xFE55, 0xFE55), (0xFEFF, 0xFEFF), (0xFF07, 0xFF07),
   (0xFF0E, 0xFF0E), (0xFF1A, 0xFF1A), (0xFF3E, 0xFF3E), (0xFF40, 0xFF40), (0xFF70, 0xFF70),
   (0xFF9E, 0xFF9F), (0xFFE3, 0xFFE3), (0xFFF9, 0xFFFB), (0x10780, 0x10785), (0x10787, 0x107B0),
   (0x107B2, 0x107BA), (0x110BD, 0x110BD), (0x110CD, 0x110CD), (0x13430, 0x13438),
   (0x16B40, 0x16B43), (0x16F93, 0x16F9F), (0x16FE0, 0x16FE1), (0x16FE3, 0x16FE3),
   (0x1AFF0, 0x1AFF3), (0x1AFF5, 0x1AFFB), (0x1AFFD, 0x1AFFE), (0x1BCA0, 0x1BCA3),
   (0x1D173, 0x1D17A), (0x1E137, 0x1E13D), (0x1E94B, 0x1E94B), (0x1F3FB, 0x1F3FF),
   (0xE0001, 0xE0001), (0xE0020, 0xE007F)]

def isCased (p : CodePoint) : Bool := p.isIn casedLetters

/-- What stands inside a word without counting as a letter. -/
def isCaseIgnorable (p : CodePoint) : Bool := p.isNonspacingMark || p.isIn caseIgnorables

def toLower (p : CodePoint) : Text :=
  let n := p.toNat
  if n < 0x80 then
    if 0x41 ≤ n && n ≤ 0x5A then [ofNat (n + 0x20)] else [p]
  else if n = 0x130 then [ofNat 0x69, ofNat 0x307]
  else [(p.otherCase? smallRuns).getD p]

end CodePoint

namespace Text

/-- Whether a letter with a case comes first. -/
def startsCased (t : Text) : Bool :=
  (t.dropWhile CodePoint.isCaseIgnorable).head?.any CodePoint.isCased

/-- The lower case of a text behind another, which is given from its end. A capital sigma with a
letter before it and none behind it takes its final form. -/
def lowerBehind : Text → Text → Text
  | _, [] => []
  | before, p :: rest =>
    let small :=
      if p.toNat = 0x3A3 then
        [CodePoint.ofNat (if startsCased before && !startsCased rest then 0x3C2 else 0x3C3)]
      else p.toLower
    small ++ lowerBehind (p :: before) rest

def toLower (t : Text) : Text := lowerBehind [] t

end Text

end Proceedings
