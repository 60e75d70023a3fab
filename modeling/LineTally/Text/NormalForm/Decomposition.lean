import LineTally.Text.Basic

namespace LineTally.Text

/-!
# Decompositions of characters

What a character is made of: the letters and marks of an accented letter, and
the plain characters of a ligature, a width, a style or a square.  The tables
are those of version 3.2 of the Unicode character database, on which the names
of domains rest; a character that came later is made of itself.
-/

/--
The characters that are made of others: the first and the last of a range, and
what the characters of the range are made of, each of an equal share of the text.
-/
def decompositions : List (Nat × Nat × String) :=
  [ (0xA0, 0xA0, " "), (0xA8, 0xA8, " \u0308"), (0xAA, 0xAA, "a"), (0xAF, 0xAF, " \u0304"),
    (0xB2, 0xB3, "23"), (0xB4, 0xB4, " \u0301"), (0xB5, 0xB5, "μ"), (0xB8, 0xB8, " \u0327"),
    (0xB9, 0xBA, "1o"), (0xBC, 0xBE, "1⁄41⁄23⁄4"),
    (0xC0, 0xC5, "A\u0300A\u0301A\u0302A\u0303A\u0308A\u030a"),
    (0xC7, 0xCF, "C\u0327E\u0300E\u0301E\u0302E\u0308I\u0300I\u0301I\u0302I\u0308"),
    (0xD1, 0xD6, "N\u0303O\u0300O\u0301O\u0302O\u0303O\u0308"),
    (0xD9, 0xDD, "U\u0300U\u0301U\u0302U\u0308Y\u0301"),
    (0xE0, 0xE5, "a\u0300a\u0301a\u0302a\u0303a\u0308a\u030a"),
    (0xE7, 0xEF, "c\u0327e\u0300e\u0301e\u0302e\u0308i\u0300i\u0301i\u0302i\u0308"),
    (0xF1, 0xF6, "n\u0303o\u0300o\u0301o\u0302o\u0303o\u0308"),
    (0xF9, 0xFD, "u\u0300u\u0301u\u0302u\u0308y\u0301"),
    (0xFF, 0x10F,
      "y\u0308A\u0304a\u0304A\u0306a\u0306A\u0328a\u0328C\u0301c\u0301C\u0302c\u0302C\u0307"
      ++ "c\u0307C\u030cc\u030cD\u030cd\u030c"),
    (0x112, 0x125,
      "E\u0304e\u0304E\u0306e\u0306E\u0307e\u0307E\u0328e\u0328E\u030ce\u030cG\u0302g\u0302"
      ++ "G\u0306g\u0306G\u0307g\u0307G\u0327g\u0327H\u0302h\u0302"),
    (0x128, 0x130, "I\u0303i\u0303I\u0304i\u0304I\u0306i\u0306I\u0328i\u0328I\u0307"),
    (0x132, 0x137, "IJijJ\u0302j\u0302K\u0327k\u0327"),
    (0x139, 0x140, "L\u0301l\u0301L\u0327l\u0327L\u030cl\u030cL·l·"),
    (0x143, 0x149, "N\u0301n\u0301N\u0327n\u0327N\u030cn\u030cʼn"),
    (0x14C, 0x151, "O\u0304o\u0304O\u0306o\u0306O\u030bo\u030b"),
    (0x154, 0x165,
      "R\u0301r\u0301R\u0327r\u0327R\u030cr\u030cS\u0301s\u0301S\u0302s\u0302S\u0327s\u0327"
      ++ "S\u030cs\u030cT\u0327t\u0327T\u030ct\u030c"),
    (0x168, 0x17E,
      "U\u0303u\u0303U\u0304u\u0304U\u0306u\u0306U\u030au\u030aU\u030bu\u030bU\u0328u\u0328"
      ++ "W\u0302w\u0302Y\u0302y\u0302Y\u0308Z\u0301z\u0301Z\u0307z\u0307Z\u030cz\u030c"),
    (0x17F, 0x17F, "s"), (0x1A0, 0x1A1, "O\u031bo\u031b"), (0x1AF, 0x1B0, "U\u031bu\u031b"),
    (0x1C4, 0x1C6, "DZ\u030cDz\u030cdz\u030c"),
    (0x1C7, 0x1D4, "LJLjljNJNjnjA\u030ca\u030cI\u030ci\u030cO\u030co\u030cU\u030cu\u030c"),
    (0x1D5, 0x1DC,
      "U\u0308\u0304u\u0308\u0304U\u0308\u0301u\u0308\u0301U\u0308\u030cu\u0308\u030cU"
      ++ "\u0308\u0300u\u0308\u0300"),
    (0x1DE, 0x1E1, "A\u0308\u0304a\u0308\u0304A\u0307\u0304a\u0307\u0304"),
    (0x1E2, 0x1E3, "Æ\u0304æ\u0304"), (0x1E6, 0x1EB, "G\u030cg\u030cK\u030ck\u030cO\u0328o\u0328"),
    (0x1EC, 0x1ED, "O\u0328\u0304o\u0328\u0304"),
    (0x1EE, 0x1F5, "Ʒ\u030cʒ\u030cj\u030cDZDzdzG\u0301g\u0301"), (0x1F8, 0x1F9, "N\u0300n\u0300"),
    (0x1FA, 0x1FB, "A\u030a\u0301a\u030a\u0301"),
    (0x1FC, 0x21B,
      "Æ\u0301æ\u0301Ø\u0301ø\u0301A\u030fa\u030fA\u0311a\u0311E\u030fe\u030fE\u0311e\u0311"
      ++ "I\u030fi\u030fI\u0311i\u0311O\u030fo\u030fO\u0311o\u0311R\u030fr\u030fR\u0311r\u0311U"
      ++ "\u030fu\u030fU\u0311u\u0311S\u0326s\u0326T\u0326t\u0326"),
    (0x21E, 0x21F, "H\u030ch\u030c"), (0x226, 0x229, "A\u0307a\u0307E\u0327e\u0327"),
    (0x22A, 0x22D, "O\u0308\u0304o\u0308\u0304O\u0303\u0304o\u0303\u0304"),
    (0x22E, 0x22F, "O\u0307o\u0307"), (0x230, 0x231, "O\u0307\u0304o\u0307\u0304"),
    (0x232, 0x233, "Y\u0304y\u0304"), (0x2B0, 0x2B8, "hɦjrɹɻʁwy"),
    (0x2D8, 0x2DD, " \u0306 \u0307 \u030a \u0328 \u0303 \u030b"), (0x2E0, 0x2E4, "ɣlsxʕ"),
    (0x340, 0x341, "\u0300\u0301"), (0x343, 0x343, "\u0313"), (0x344, 0x344, "\u0308\u0301"),
    (0x374, 0x374, "ʹ"), (0x37A, 0x37A, " \u0345"), (0x37E, 0x37E, ";"), (0x384, 0x384, " \u0301"),
    (0x385, 0x385, " \u0308\u0301"), (0x386, 0x386, "Α\u0301"), (0x387, 0x387, "·"),
    (0x388, 0x38A, "Ε\u0301Η\u0301Ι\u0301"), (0x38C, 0x38C, "Ο\u0301"),
    (0x38E, 0x38F, "Υ\u0301Ω\u0301"), (0x390, 0x390, "ι\u0308\u0301"),
    (0x3AA, 0x3AF, "Ι\u0308Υ\u0308α\u0301ε\u0301η\u0301ι\u0301"), (0x3B0, 0x3B0, "υ\u0308\u0301"),
    (0x3CA, 0x3CE, "ι\u0308υ\u0308ο\u0301υ\u0301ω\u0301"), (0x3D0, 0x3D2, "βθΥ"),
    (0x3D3, 0x3D4, "Υ\u0301Υ\u0308"), (0x3D5, 0x3D6, "φπ"), (0x3F0, 0x3F2, "κρς"),
    (0x3F4, 0x3F5, "Θε"), (0x400, 0x401, "Е\u0300Е\u0308"), (0x403, 0x403, "Г\u0301"),
    (0x407, 0x407, "І\u0308"), (0x40C, 0x40E, "К\u0301И\u0300У\u0306"), (0x419, 0x419, "И\u0306"),
    (0x439, 0x439, "и\u0306"), (0x450, 0x451, "е\u0300е\u0308"), (0x453, 0x453, "г\u0301"),
    (0x457, 0x457, "і\u0308"), (0x45C, 0x45E, "к\u0301и\u0300у\u0306"),
    (0x476, 0x477, "Ѵ\u030fѵ\u030f"), (0x4C1, 0x4C2, "Ж\u0306ж\u0306"),
    (0x4D0, 0x4D3, "А\u0306а\u0306А\u0308а\u0308"), (0x4D6, 0x4D7, "Е\u0306е\u0306"),
    (0x4DA, 0x4DF, "Ә\u0308ә\u0308Ж\u0308ж\u0308З\u0308з\u0308"),
    (0x4E2, 0x4E7, "И\u0304и\u0304И\u0308и\u0308О\u0308о\u0308"),
    (0x4EA, 0x4F5,
      "Ө\u0308ө\u0308Э\u0308э\u0308У\u0304у\u0304У\u0308у\u0308У\u030bу\u030bЧ\u0308ч\u0308"),
    (0x4F8, 0x4F9, "Ы\u0308ы\u0308"), (0x587, 0x587, "եւ"),
    (0x622, 0x626, "\u0627\u0653\u0627\u0654\u0648\u0654\u0627\u0655\u064a\u0654"),
    (0x675, 0x678, "\u0627\u0674\u0648\u0674\u06c7\u0674\u064a\u0674"),
    (0x6C0, 0x6C0, "\u06d5\u0654"), (0x6C2, 0x6C2, "\u06c1\u0654"), (0x6D3, 0x6D3, "\u06d2\u0654"),
    (0x929, 0x929, "न\u093c"), (0x931, 0x931, "र\u093c"), (0x934, 0x934, "ळ\u093c"),
    (0x958, 0x95F, "क\u093cख\u093cग\u093cज\u093cड\u093cढ\u093cफ\u093cय\u093c"),
    (0x9CB, 0x9CC, "\u09c7\u09be\u09c7\u09d7"), (0x9DC, 0x9DD, "ড\u09bcঢ\u09bc"),
    (0x9DF, 0x9DF, "য\u09bc"), (0xA33, 0xA33, "ਲ\u0a3c"), (0xA36, 0xA36, "ਸ\u0a3c"),
    (0xA59, 0xA5B, "ਖ\u0a3cਗ\u0a3cਜ\u0a3c"), (0xA5E, 0xA5E, "ਫ\u0a3c"),
    (0xB48, 0xB48, "\u0b47\u0b56"), (0xB4B, 0xB4C, "\u0b47\u0b3e\u0b47\u0b57"),
    (0xB5C, 0xB5D, "ଡ\u0b3cଢ\u0b3c"), (0xB94, 0xB94, "ஒ\u0bd7"),
    (0xBCA, 0xBCC, "\u0bc6\u0bbe\u0bc7\u0bbe\u0bc6\u0bd7"), (0xC48, 0xC48, "\u0c46\u0c56"),
    (0xCC0, 0xCC0, "\u0cbf\u0cd5"), (0xCC7, 0xCC8, "\u0cc6\u0cd5\u0cc6\u0cd6"),
    (0xCCA, 0xCCA, "\u0cc6\u0cc2"), (0xCCB, 0xCCB, "\u0cc6\u0cc2\u0cd5"),
    (0xD4A, 0xD4C, "\u0d46\u0d3e\u0d47\u0d3e\u0d46\u0d57"), (0xDDA, 0xDDA, "\u0dd9\u0dca"),
    (0xDDC, 0xDDC, "\u0dd9\u0dcf"), (0xDDD, 0xDDD, "\u0dd9\u0dcf\u0dca"),
    (0xDDE, 0xDDE, "\u0dd9\u0ddf"), (0xE33, 0xE33, "\u0e4dา"), (0xEB3, 0xEB3, "\u0ecdາ"),
    (0xEDC, 0xEDD, "ຫນຫມ"), (0xF0C, 0xF0C, "་"), (0xF43, 0xF43, "ག\u0fb7"),
    (0xF4D, 0xF4D, "ཌ\u0fb7"), (0xF52, 0xF52, "ད\u0fb7"), (0xF57, 0xF57, "བ\u0fb7"),
    (0xF5C, 0xF5C, "ཛ\u0fb7"), (0xF69, 0xF69, "ཀ\u0fb5"), (0xF73, 0xF73, "\u0f71\u0f72"),
    (0xF75, 0xF76, "\u0f71\u0f74\u0fb2\u0f80"), (0xF77, 0xF77, "\u0fb2\u0f71\u0f80"),
    (0xF78, 0xF78, "\u0fb3\u0f80"), (0xF79, 0xF79, "\u0fb3\u0f71\u0f80"),
    (0xF81, 0xF81, "\u0f71\u0f80"), (0xF93, 0xF93, "\u0f92\u0fb7"), (0xF9D, 0xF9D, "\u0f9c\u0fb7"),
    (0xFA2, 0xFA2, "\u0fa1\u0fb7"), (0xFA7, 0xFA7, "\u0fa6\u0fb7"), (0xFAC, 0xFAC, "\u0fab\u0fb7"),
    (0xFB9, 0xFB9, "\u0f90\u0fb5"), (0x1026, 0x1026, "ဥ\u102e"),
    (0x1E00, 0x1E07, "A\u0325a\u0325B\u0307b\u0307B\u0323b\u0323B\u0331b\u0331"),
    (0x1E08, 0x1E09, "C\u0327\u0301c\u0327\u0301"),
    (0x1E0A, 0x1E13, "D\u0307d\u0307D\u0323d\u0323D\u0331d\u0331D\u0327d\u0327D\u032dd\u032d"),
    (0x1E14, 0x1E17, "E\u0304\u0300e\u0304\u0300E\u0304\u0301e\u0304\u0301"),
    (0x1E18, 0x1E1B, "E\u032de\u032dE\u0330e\u0330"),
    (0x1E1C, 0x1E1D, "E\u0327\u0306e\u0327\u0306"),
    (0x1E1E, 0x1E2D,
      "F\u0307f\u0307G\u0304g\u0304H\u0307h\u0307H\u0323h\u0323H\u0308h\u0308H\u0327h\u0327"
      ++ "H\u032eh\u032eI\u0330i\u0330"),
    (0x1E2E, 0x1E2F, "I\u0308\u0301i\u0308\u0301"),
    (0x1E30, 0x1E37, "K\u0301k\u0301K\u0323k\u0323K\u0331k\u0331L\u0323l\u0323"),
    (0x1E38, 0x1E39, "L\u0323\u0304l\u0323\u0304"),
    (0x1E3A, 0x1E4B,
      "L\u0331l\u0331L\u032dl\u032dM\u0301m\u0301M\u0307m\u0307M\u0323m\u0323N\u0307n\u0307"
      ++ "N\u0323n\u0323N\u0331n\u0331N\u032dn\u032d"),
    (0x1E4C, 0x1E53,
      "O\u0303\u0301o\u0303\u0301O\u0303\u0308o\u0303\u0308O\u0304\u0300o\u0304\u0300O"
      ++ "\u0304\u0301o\u0304\u0301"),
    (0x1E54, 0x1E5B, "P\u0301p\u0301P\u0307p\u0307R\u0307r\u0307R\u0323r\u0323"),
    (0x1E5C, 0x1E5D, "R\u0323\u0304r\u0323\u0304"),
    (0x1E5E, 0x1E63, "R\u0331r\u0331S\u0307s\u0307S\u0323s\u0323"),
    (0x1E64, 0x1E69,
      "S\u0301\u0307s\u0301\u0307S\u030c\u0307s\u030c\u0307S\u0323\u0307s\u0323\u0307"),
    (0x1E6A, 0x1E77,
      "T\u0307t\u0307T\u0323t\u0323T\u0331t\u0331T\u032dt\u032dU\u0324u\u0324U\u0330u\u0330"
      ++ "U\u032du\u032d"),
    (0x1E78, 0x1E7B, "U\u0303\u0301u\u0303\u0301U\u0304\u0308u\u0304\u0308"),
    (0x1E7C, 0x1E9B,
      "V\u0303v\u0303V\u0323v\u0323W\u0300w\u0300W\u0301w\u0301W\u0308w\u0308W\u0307w\u0307"
      ++ "W\u0323w\u0323X\u0307x\u0307X\u0308x\u0308Y\u0307y\u0307Z\u0302z\u0302Z\u0323z\u0323Z"
      ++ "\u0331z\u0331h\u0331t\u0308w\u030ay\u030aaʾs\u0307"),
    (0x1EA0, 0x1EA3, "A\u0323a\u0323A\u0309a\u0309"),
    (0x1EA4, 0x1EB7,
      "A\u0302\u0301a\u0302\u0301A\u0302\u0300a\u0302\u0300A\u0302\u0309a\u0302\u0309A"
      ++ "\u0302\u0303a\u0302\u0303A\u0323\u0302a\u0323\u0302A\u0306\u0301a\u0306\u0301A\u0306"
      ++ "\u0300a\u0306\u0300A\u0306\u0309a\u0306\u0309A\u0306\u0303a\u0306\u0303A\u0323\u0306a"
      ++ "\u0323\u0306"),
    (0x1EB8, 0x1EBD, "E\u0323e\u0323E\u0309e\u0309E\u0303e\u0303"),
    (0x1EBE, 0x1EC7,
      "E\u0302\u0301e\u0302\u0301E\u0302\u0300e\u0302\u0300E\u0302\u0309e\u0302\u0309E"
      ++ "\u0302\u0303e\u0302\u0303E\u0323\u0302e\u0323\u0302"),
    (0x1EC8, 0x1ECF, "I\u0309i\u0309I\u0323i\u0323O\u0323o\u0323O\u0309o\u0309"),
    (0x1ED0, 0x1EE3,
      "O\u0302\u0301o\u0302\u0301O\u0302\u0300o\u0302\u0300O\u0302\u0309o\u0302\u0309O"
      ++ "\u0302\u0303o\u0302\u0303O\u0323\u0302o\u0323\u0302O\u031b\u0301o\u031b\u0301O\u031b"
      ++ "\u0300o\u031b\u0300O\u031b\u0309o\u031b\u0309O\u031b\u0303o\u031b\u0303O\u031b\u0323o"
      ++ "\u031b\u0323"),
    (0x1EE4, 0x1EE7, "U\u0323u\u0323U\u0309u\u0309"),
    (0x1EE8, 0x1EF1,
      "U\u031b\u0301u\u031b\u0301U\u031b\u0300u\u031b\u0300U\u031b\u0309u\u031b\u0309U"
      ++ "\u031b\u0303u\u031b\u0303U\u031b\u0323u\u031b\u0323"),
    (0x1EF2, 0x1EF9, "Y\u0300y\u0300Y\u0323y\u0323Y\u0309y\u0309Y\u0303y\u0303"),
    (0x1F00, 0x1F01, "α\u0313α\u0314"),
    (0x1F02, 0x1F07,
      "α\u0313\u0300α\u0314\u0300α\u0313\u0301α\u0314\u0301α\u0313\u0342α\u0314\u0342"),
    (0x1F08, 0x1F09, "Α\u0313Α\u0314"),
    (0x1F0A, 0x1F0F,
      "Α\u0313\u0300Α\u0314\u0300Α\u0313\u0301Α\u0314\u0301Α\u0313\u0342Α\u0314\u0342"),
    (0x1F10, 0x1F11, "ε\u0313ε\u0314"),
    (0x1F12, 0x1F15, "ε\u0313\u0300ε\u0314\u0300ε\u0313\u0301ε\u0314\u0301"),
    (0x1F18, 0x1F19, "Ε\u0313Ε\u0314"),
    (0x1F1A, 0x1F1D, "Ε\u0313\u0300Ε\u0314\u0300Ε\u0313\u0301Ε\u0314\u0301"),
    (0x1F20, 0x1F21, "η\u0313η\u0314"),
    (0x1F22, 0x1F27,
      "η\u0313\u0300η\u0314\u0300η\u0313\u0301η\u0314\u0301η\u0313\u0342η\u0314\u0342"),
    (0x1F28, 0x1F29, "Η\u0313Η\u0314"),
    (0x1F2A, 0x1F2F,
      "Η\u0313\u0300Η\u0314\u0300Η\u0313\u0301Η\u0314\u0301Η\u0313\u0342Η\u0314\u0342"),
    (0x1F30, 0x1F31, "ι\u0313ι\u0314"),
    (0x1F32, 0x1F37,
      "ι\u0313\u0300ι\u0314\u0300ι\u0313\u0301ι\u0314\u0301ι\u0313\u0342ι\u0314\u0342"),
    (0x1F38, 0x1F39, "Ι\u0313Ι\u0314"),
    (0x1F3A, 0x1F3F,
      "Ι\u0313\u0300Ι\u0314\u0300Ι\u0313\u0301Ι\u0314\u0301Ι\u0313\u0342Ι\u0314\u0342"),
    (0x1F40, 0x1F41, "ο\u0313ο\u0314"),
    (0x1F42, 0x1F45, "ο\u0313\u0300ο\u0314\u0300ο\u0313\u0301ο\u0314\u0301"),
    (0x1F48, 0x1F49, "Ο\u0313Ο\u0314"),
    (0x1F4A, 0x1F4D, "Ο\u0313\u0300Ο\u0314\u0300Ο\u0313\u0301Ο\u0314\u0301"),
    (0x1F50, 0x1F51, "υ\u0313υ\u0314"),
    (0x1F52, 0x1F57,
      "υ\u0313\u0300υ\u0314\u0300υ\u0313\u0301υ\u0314\u0301υ\u0313\u0342υ\u0314\u0342"),
    (0x1F59, 0x1F59, "Υ\u0314"), (0x1F5B, 0x1F5B, "Υ\u0314\u0300"),
    (0x1F5D, 0x1F5D, "Υ\u0314\u0301"), (0x1F5F, 0x1F5F, "Υ\u0314\u0342"),
    (0x1F60, 0x1F61, "ω\u0313ω\u0314"),
    (0x1F62, 0x1F67,
      "ω\u0313\u0300ω\u0314\u0300ω\u0313\u0301ω\u0314\u0301ω\u0313\u0342ω\u0314\u0342"),
    (0x1F68, 0x1F69, "Ω\u0313Ω\u0314"),
    (0x1F6A, 0x1F6F,
      "Ω\u0313\u0300Ω\u0314\u0300Ω\u0313\u0301Ω\u0314\u0301Ω\u0313\u0342Ω\u0314\u0342"),
    (0x1F70, 0x1F7D,
      "α\u0300α\u0301ε\u0300ε\u0301η\u0300η\u0301ι\u0300ι\u0301ο\u0300ο\u0301υ\u0300υ\u0301"
      ++ "ω\u0300ω\u0301"),
    (0x1F80, 0x1F81, "α\u0313\u0345α\u0314\u0345"),
    (0x1F82, 0x1F87,
      "α\u0313\u0300\u0345α\u0314\u0300\u0345α\u0313\u0301\u0345α\u0314\u0301\u0345α\u0313"
      ++ "\u0342\u0345α\u0314\u0342\u0345"),
    (0x1F88, 0x1F89, "Α\u0313\u0345Α\u0314\u0345"),
    (0x1F8A, 0x1F8F,
      "Α\u0313\u0300\u0345Α\u0314\u0300\u0345Α\u0313\u0301\u0345Α\u0314\u0301\u0345Α\u0313"
      ++ "\u0342\u0345Α\u0314\u0342\u0345"),
    (0x1F90, 0x1F91, "η\u0313\u0345η\u0314\u0345"),
    (0x1F92, 0x1F97,
      "η\u0313\u0300\u0345η\u0314\u0300\u0345η\u0313\u0301\u0345η\u0314\u0301\u0345η\u0313"
      ++ "\u0342\u0345η\u0314\u0342\u0345"),
    (0x1F98, 0x1F99, "Η\u0313\u0345Η\u0314\u0345"),
    (0x1F9A, 0x1F9F,
      "Η\u0313\u0300\u0345Η\u0314\u0300\u0345Η\u0313\u0301\u0345Η\u0314\u0301\u0345Η\u0313"
      ++ "\u0342\u0345Η\u0314\u0342\u0345"),
    (0x1FA0, 0x1FA1, "ω\u0313\u0345ω\u0314\u0345"),
    (0x1FA2, 0x1FA7,
      "ω\u0313\u0300\u0345ω\u0314\u0300\u0345ω\u0313\u0301\u0345ω\u0314\u0301\u0345ω\u0313"
      ++ "\u0342\u0345ω\u0314\u0342\u0345"),
    (0x1FA8, 0x1FA9, "Ω\u0313\u0345Ω\u0314\u0345"),
    (0x1FAA, 0x1FAF,
      "Ω\u0313\u0300\u0345Ω\u0314\u0300\u0345Ω\u0313\u0301\u0345Ω\u0314\u0301\u0345Ω\u0313"
      ++ "\u0342\u0345Ω\u0314\u0342\u0345"),
    (0x1FB0, 0x1FB1, "α\u0306α\u0304"), (0x1FB2, 0x1FB2, "α\u0300\u0345"),
    (0x1FB3, 0x1FB3, "α\u0345"), (0x1FB4, 0x1FB4, "α\u0301\u0345"), (0x1FB6, 0x1FB6, "α\u0342"),
    (0x1FB7, 0x1FB7, "α\u0342\u0345"),
    (0x1FB8, 0x1FBD, "Α\u0306Α\u0304Α\u0300Α\u0301Α\u0345 \u0313"), (0x1FBE, 0x1FBE, "ι"),
    (0x1FBF, 0x1FC0, " \u0313 \u0342"), (0x1FC1, 0x1FC2, " \u0308\u0342η\u0300\u0345"),
    (0x1FC3, 0x1FC3, "η\u0345"), (0x1FC4, 0x1FC4, "η\u0301\u0345"), (0x1FC6, 0x1FC6, "η\u0342"),
    (0x1FC7, 0x1FC7, "η\u0342\u0345"), (0x1FC8, 0x1FCC, "Ε\u0300Ε\u0301Η\u0300Η\u0301Η\u0345"),
    (0x1FCD, 0x1FCF, " \u0313\u0300 \u0313\u0301 \u0313\u0342"), (0x1FD0, 0x1FD1, "ι\u0306ι\u0304"),
    (0x1FD2, 0x1FD3, "ι\u0308\u0300ι\u0308\u0301"), (0x1FD6, 0x1FD6, "ι\u0342"),
    (0x1FD7, 0x1FD7, "ι\u0308\u0342"), (0x1FD8, 0x1FDB, "Ι\u0306Ι\u0304Ι\u0300Ι\u0301"),
    (0x1FDD, 0x1FDF, " \u0314\u0300 \u0314\u0301 \u0314\u0342"), (0x1FE0, 0x1FE1, "υ\u0306υ\u0304"),
    (0x1FE2, 0x1FE3, "υ\u0308\u0300υ\u0308\u0301"), (0x1FE4, 0x1FE6, "ρ\u0313ρ\u0314υ\u0342"),
    (0x1FE7, 0x1FE7, "υ\u0308\u0342"), (0x1FE8, 0x1FEC, "Υ\u0306Υ\u0304Υ\u0300Υ\u0301Ρ\u0314"),
    (0x1FED, 0x1FEE, " \u0308\u0300 \u0308\u0301"), (0x1FEF, 0x1FEF, "`"),
    (0x1FF2, 0x1FF2, "ω\u0300\u0345"), (0x1FF3, 0x1FF3, "ω\u0345"),
    (0x1FF4, 0x1FF4, "ω\u0301\u0345"), (0x1FF6, 0x1FF6, "ω\u0342"),
    (0x1FF7, 0x1FF7, "ω\u0342\u0345"),
    (0x1FF8, 0x1FFE, "Ο\u0300Ο\u0301Ω\u0300Ω\u0301Ω\u0345 \u0301 \u0314"),
    (0x2000, 0x200A, "           "), (0x2011, 0x2011, "‐"), (0x2017, 0x2017, " \u0333"),
    (0x2024, 0x2024, "."), (0x2025, 0x2025, ".."), (0x2026, 0x2026, "..."), (0x202F, 0x202F, " "),
    (0x2033, 0x2033, "′′"), (0x2034, 0x2034, "′′′"), (0x2036, 0x2036, "‵‵"),
    (0x2037, 0x2037, "‵‵‵"), (0x203C, 0x203C, "!!"), (0x203E, 0x203E, " \u0305"),
    (0x2047, 0x2049, "???!!?"), (0x2057, 0x2057, "′′′′"), (0x205F, 0x205F, " "),
    (0x2070, 0x2071, "0i"), (0x2074, 0x208E, "456789+−=()n0123456789+−=()"), (0x20A8, 0x20A8, "Rs"),
    (0x2100, 0x2101, "a/ca/s"), (0x2102, 0x2102, "C"), (0x2103, 0x2103, "°C"),
    (0x2105, 0x2106, "c/oc/u"), (0x2107, 0x2107, "Ɛ"), (0x2109, 0x2109, "°F"),
    (0x210A, 0x2113, "gHHHhħIILl"), (0x2115, 0x2115, "N"), (0x2116, 0x2116, "No"),
    (0x2119, 0x211D, "PQRRR"), (0x2120, 0x2120, "SM"), (0x2121, 0x2121, "TEL"),
    (0x2122, 0x2122, "TM"), (0x2124, 0x2124, "Z"), (0x2126, 0x2126, "Ω"), (0x2128, 0x2128, "Z"),
    (0x212A, 0x212A, "K"), (0x212B, 0x212B, "A\u030a"), (0x212C, 0x212D, "BC"),
    (0x212F, 0x2131, "eEF"), (0x2133, 0x2139, "Mo\u05d0\u05d1\u05d2\u05d3i"),
    (0x213D, 0x2140, "γΓΠ∑"), (0x2145, 0x2149, "Ddeij"),
    (0x2153, 0x215E, "1⁄32⁄31⁄52⁄53⁄54⁄51⁄65⁄61⁄83⁄85⁄87⁄8"), (0x215F, 0x215F, "1⁄"),
    (0x2160, 0x2160, "I"), (0x2161, 0x2161, "II"), (0x2162, 0x2162, "III"), (0x2163, 0x2163, "IV"),
    (0x2164, 0x2164, "V"), (0x2165, 0x2165, "VI"), (0x2166, 0x2166, "VII"),
    (0x2167, 0x2167, "VIII"), (0x2168, 0x2168, "IX"), (0x2169, 0x2169, "X"), (0x216A, 0x216A, "XI"),
    (0x216B, 0x216B, "XII"), (0x216C, 0x2170, "LCDMi"), (0x2171, 0x2171, "ii"),
    (0x2172, 0x2172, "iii"), (0x2173, 0x2173, "iv"), (0x2174, 0x2174, "v"), (0x2175, 0x2175, "vi"),
    (0x2176, 0x2176, "vii"), (0x2177, 0x2177, "viii"), (0x2178, 0x2178, "ix"),
    (0x2179, 0x2179, "x"), (0x217A, 0x217A, "xi"), (0x217B, 0x217B, "xii"),
    (0x217C, 0x217F, "lcdm"), (0x219A, 0x219B, "←\u0338→\u0338"), (0x21AE, 0x21AE, "↔\u0338"),
    (0x21CD, 0x21CF, "⇐\u0338⇔\u0338⇒\u0338"), (0x2204, 0x2204, "∃\u0338"),
    (0x2209, 0x2209, "∈\u0338"), (0x220C, 0x220C, "∋\u0338"), (0x2224, 0x2224, "∣\u0338"),
    (0x2226, 0x2226, "∥\u0338"), (0x222C, 0x222C, "∫∫"), (0x222D, 0x222D, "∫∫∫"),
    (0x222F, 0x222F, "∮∮"), (0x2230, 0x2230, "∮∮∮"), (0x2241, 0x2241, "∼\u0338"),
    (0x2244, 0x2244, "≃\u0338"), (0x2247, 0x2247, "≅\u0338"), (0x2249, 0x2249, "≈\u0338"),
    (0x2260, 0x2260, "=\u0338"), (0x2262, 0x2262, "≡\u0338"),
    (0x226D, 0x2271, "≍\u0338<\u0338>\u0338≤\u0338≥\u0338"), (0x2274, 0x2275, "≲\u0338≳\u0338"),
    (0x2278, 0x2279, "≶\u0338≷\u0338"), (0x2280, 0x2281, "≺\u0338≻\u0338"),
    (0x2284, 0x2285, "⊂\u0338⊃\u0338"), (0x2288, 0x2289, "⊆\u0338⊇\u0338"),
    (0x22AC, 0x22AF, "⊢\u0338⊨\u0338⊩\u0338⊫\u0338"),
    (0x22E0, 0x22E3, "≼\u0338≽\u0338⊑\u0338⊒\u0338"),
    (0x22EA, 0x22ED, "⊲\u0338⊳\u0338⊴\u0338⊵\u0338"), (0x2329, 0x232A, "〈〉"),
    (0x2460, 0x2468, "123456789"), (0x2469, 0x2473, "1011121314151617181920"),
    (0x2474, 0x247C, "(1)(2)(3)(4)(5)(6)(7)(8)(9)"),
    (0x247D, 0x2487, "(10)(11)(12)(13)(14)(15)(16)(17)(18)(19)(20)"),
    (0x2488, 0x2490, "1.2.3.4.5.6.7.8.9."),
    (0x2491, 0x24B5,
      "10.11.12.13.14.15.16.17.18.19.20.(a)(b)(c)(d)(e)(f)(g)(h)(i)(j)(k)(l)(m)(n)(o)(p)(q)"
      ++ "(r)(s)(t)(u)(v)(w)(x)(y)(z)"),
    (0x24B6, 0x24EA, "ABCDEFGHIJKLMNOPQRSTUVWXYZabcdefghijklmnopqrstuvwxyz0"),
    (0x2A0C, 0x2A0C, "∫∫∫∫"), (0x2A74, 0x2A74, "::="), (0x2A75, 0x2A75, "=="),
    (0x2A76, 0x2A76, "==="), (0x2ADC, 0x2ADC, "⫝\u0338"), (0x2E9F, 0x2E9F, "母"),
    (0x2EF3, 0x2EF3, "龟"),
    (0x2F00, 0x2FD5,
      "一丨丶丿乙亅二亠人儿入八冂冖冫几凵刀力勹匕匚匸十卜卩厂厶又口囗土士夂夊夕大女子宀寸小尢尸屮山巛工己巾干幺广廴廾弋弓彐彡彳心戈戶手支攴文斗斤方无日曰月木欠止歹殳毋比毛氏气"
      ++ "水火爪父爻爿片牙牛犬玄玉瓜瓦甘生用田疋疒癶白皮皿目矛矢石示禸禾穴立竹米糸缶网羊羽老而耒耳聿肉臣自至臼舌舛舟艮色艸虍虫血行衣襾見角言谷豆豕豸貝赤走足身車辛辰辵邑酉釆里金長門阜隶隹"
      ++ "雨靑非面革韋韭音頁風飛食首香馬骨高髟鬥鬯鬲鬼魚鳥鹵鹿麥麻黃黍黑黹黽鼎鼓鼠鼻齊齒龍龜龠"),
    (0x3000, 0x3000, " "), (0x3036, 0x3036, "〒"), (0x3038, 0x303A, "十卄卅"),
    (0x304C, 0x304C, "か\u3099"), (0x304E, 0x304E, "き\u3099"), (0x3050, 0x3050, "く\u3099"),
    (0x3052, 0x3052, "け\u3099"), (0x3054, 0x3054, "こ\u3099"), (0x3056, 0x3056, "さ\u3099"),
    (0x3058, 0x3058, "し\u3099"), (0x305A, 0x305A, "す\u3099"), (0x305C, 0x305C, "せ\u3099"),
    (0x305E, 0x305E, "そ\u3099"), (0x3060, 0x3060, "た\u3099"), (0x3062, 0x3062, "ち\u3099"),
    (0x3065, 0x3065, "つ\u3099"), (0x3067, 0x3067, "て\u3099"), (0x3069, 0x3069, "と\u3099"),
    (0x3070, 0x3071, "は\u3099は\u309a"), (0x3073, 0x3074, "ひ\u3099ひ\u309a"),
    (0x3076, 0x3077, "ふ\u3099ふ\u309a"), (0x3079, 0x307A, "へ\u3099へ\u309a"),
    (0x307C, 0x307D, "ほ\u3099ほ\u309a"), (0x3094, 0x3094, "う\u3099"),
    (0x309B, 0x309C, " \u3099 \u309a"), (0x309E, 0x309F, "ゝ\u3099より"), (0x30AC, 0x30AC, "カ\u3099"),
    (0x30AE, 0x30AE, "キ\u3099"), (0x30B0, 0x30B0, "ク\u3099"), (0x30B2, 0x30B2, "ケ\u3099"),
    (0x30B4, 0x30B4, "コ\u3099"), (0x30B6, 0x30B6, "サ\u3099"), (0x30B8, 0x30B8, "シ\u3099"),
    (0x30BA, 0x30BA, "ス\u3099"), (0x30BC, 0x30BC, "セ\u3099"), (0x30BE, 0x30BE, "ソ\u3099"),
    (0x30C0, 0x30C0, "タ\u3099"), (0x30C2, 0x30C2, "チ\u3099"), (0x30C5, 0x30C5, "ツ\u3099"),
    (0x30C7, 0x30C7, "テ\u3099"), (0x30C9, 0x30C9, "ト\u3099"), (0x30D0, 0x30D1, "ハ\u3099ハ\u309a"),
    (0x30D3, 0x30D4, "ヒ\u3099ヒ\u309a"), (0x30D6, 0x30D7, "フ\u3099フ\u309a"),
    (0x30D9, 0x30DA, "ヘ\u3099ヘ\u309a"), (0x30DC, 0x30DD, "ホ\u3099ホ\u309a"),
    (0x30F4, 0x30F4, "ウ\u3099"), (0x30F7, 0x30FA, "ワ\u3099ヰ\u3099ヱ\u3099ヲ\u3099"),
    (0x30FE, 0x30FF, "ヽ\u3099コト"),
    (0x3131, 0x318E,
      "\u1100\u1101\u11aa\u1102\u11ac\u11ad\u1103\u1104\u1105\u11b0\u11b1\u11b2\u11b3\u11b4"
      ++ "\u11b5\u111a\u1106\u1107\u1108\u1121\u1109\u110a\u110b\u110c\u110d\u110e\u110f\u1110"
      ++ "\u1111\u1112\u1161\u1162\u1163\u1164\u1165\u1166\u1167\u1168\u1169\u116a\u116b\u116c"
      ++ "\u116d\u116e\u116f\u1170\u1171\u1172\u1173\u1174\u1175\u1160\u1114\u1115\u11c7\u11c8"
      ++ "\u11cc\u11ce\u11d3\u11d7\u11d9\u111c\u11dd\u11df\u111d\u111e\u1120\u1122\u1123\u1127"
      ++ "\u1129\u112b\u112c\u112d\u112e\u112f\u1132\u1136\u1140\u1147\u114c\u11f1\u11f2\u1157"
      ++ "\u1158\u1159\u1184\u1185\u1188\u1191\u1192\u1194\u119e\u11a1"),
    (0x3192, 0x319F, "一二三四上中下甲乙丙丁天地人"),
    (0x3200, 0x320D,
      "(\u1100)(\u1102)(\u1103)(\u1105)(\u1106)(\u1107)(\u1109)(\u110b)(\u110c)(\u110e)("
      ++ "\u110f)(\u1110)(\u1111)(\u1112)"),
    (0x320E, 0x321C,
      "(\u1100\u1161)(\u1102\u1161)(\u1103\u1161)(\u1105\u1161)(\u1106\u1161)(\u1107\u1161)"
      ++ "(\u1109\u1161)(\u110b\u1161)(\u110c\u1161)(\u110e\u1161)(\u110f\u1161)(\u1110\u1161)("
      ++ "\u1111\u1161)(\u1112\u1161)(\u110c\u116e)"),
    (0x3220, 0x3243,
      "(一)(二)(三)(四)(五)(六)(七)(八)(九)(十)(月)(火)(水)(木)(金)(土)(日)(株)(有)(社)(名)(特)(財)(祝)(労)(代)(呼)(学)"
      ++ "(監)(企)(資)(協)(祭)(休)(自)(至)"),
    (0x3251, 0x325F, "212223242526272829303132333435"),
    (0x3260, 0x326D,
      "\u1100\u1102\u1103\u1105\u1106\u1107\u1109\u110b\u110c\u110e\u110f\u1110\u1111\u1112"),
    (0x326E, 0x327B,
      "\u1100\u1161\u1102\u1161\u1103\u1161\u1105\u1161\u1106\u1161\u1107\u1161\u1109\u1161"
      ++ "\u110b\u1161\u110c\u1161\u110e\u1161\u110f\u1161\u1110\u1161\u1111\u1161\u1112\u1161"),
    (0x3280, 0x32B0, "一二三四五六七八九十月火水木金土日株有社名特財祝労秘男女適優印注項休写正上中下左右医宗学監企資協夜"),
    (0x32B1, 0x32C8, "3637383940414243444546474849501月2月3月4月5月6月7月8月9月"),
    (0x32C9, 0x32CB, "10月11月12月"),
    (0x32D0, 0x32FE, "アイウエオカキクケコサシスセソタチツテトナニヌネノハヒフヘホマミムメモヤユヨラリルレロワヰヱヲ"),
    (0x3300, 0x3300, "アハ\u309aート"), (0x3301, 0x3301, "アルファ"), (0x3302, 0x3302, "アンヘ\u309aア"),
    (0x3303, 0x3303, "アール"), (0x3304, 0x3304, "イニンク\u3099"), (0x3305, 0x3306, "インチウォン"),
    (0x3307, 0x3307, "エスクート\u3099"), (0x3308, 0x3308, "エーカー"), (0x3309, 0x330B, "オンスオームカイリ"),
    (0x330C, 0x3312, "カラットカロリーカ\u3099ロンカ\u3099ンマキ\u3099カ\u3099キ\u3099ニーキュリー"),
    (0x3313, 0x3313, "キ\u3099ルタ\u3099ー"), (0x3314, 0x3314, "キロ"),
    (0x3315, 0x3316, "キロク\u3099ラムキロメートル"), (0x3317, 0x3317, "キロワット"), (0x3318, 0x3318, "ク\u3099ラム"),
    (0x3319, 0x331A, "ク\u3099ラムトンクルセ\u3099イロ"), (0x331B, 0x331B, "クローネ"),
    (0x331C, 0x331D, "ケースコルナ"), (0x331E, 0x331F, "コーホ\u309aサイクル"),
    (0x3320, 0x3321, "サンチームシリンク\u3099"), (0x3322, 0x3323, "センチセント"), (0x3324, 0x3324, "タ\u3099ース"),
    (0x3325, 0x3326, "テ\u3099シト\u3099ル"), (0x3327, 0x3328, "トンナノ"), (0x3329, 0x332A, "ノットハイツ"),
    (0x332B, 0x332B, "ハ\u309aーセント"), (0x332C, 0x332C, "ハ\u309aーツ"), (0x332D, 0x332D, "ハ\u3099ーレル"),
    (0x332E, 0x332E, "ヒ\u309aアストル"), (0x332F, 0x332F, "ヒ\u309aクル"),
    (0x3330, 0x3331, "ヒ\u309aコヒ\u3099ル"), (0x3332, 0x3332, "ファラット\u3099"), (0x3333, 0x3333, "フィート"),
    (0x3334, 0x3334, "フ\u3099ッシェル"), (0x3335, 0x3335, "フラン"), (0x3336, 0x3336, "ヘクタール"),
    (0x3337, 0x3337, "ヘ\u309aソ"), (0x3338, 0x3338, "ヘ\u309aニヒ"), (0x3339, 0x3339, "ヘルツ"),
    (0x333A, 0x333A, "ヘ\u309aンス"), (0x333B, 0x333B, "ヘ\u309aーシ\u3099"),
    (0x333C, 0x333C, "ヘ\u3099ータ"), (0x333D, 0x333D, "ホ\u309aイント"), (0x333E, 0x333E, "ホ\u3099ルト"),
    (0x333F, 0x333F, "ホン"), (0x3340, 0x3340, "ホ\u309aント\u3099"), (0x3341, 0x3342, "ホールホーン"),
    (0x3343, 0x3343, "マイクロ"), (0x3344, 0x3346, "マイルマッハマルク"), (0x3347, 0x3347, "マンション"),
    (0x3348, 0x3348, "ミクロン"), (0x3349, 0x3349, "ミリ"), (0x334A, 0x334A, "ミリハ\u3099ール"),
    (0x334B, 0x334B, "メカ\u3099"), (0x334C, 0x334C, "メカ\u3099トン"), (0x334D, 0x334E, "メートルヤート\u3099"),
    (0x334F, 0x3350, "ヤールユアン"), (0x3351, 0x3351, "リットル"), (0x3352, 0x3352, "リラ"),
    (0x3353, 0x3353, "ルヒ\u309aー"), (0x3354, 0x3354, "ルーフ\u3099ル"), (0x3355, 0x3355, "レム"),
    (0x3356, 0x3356, "レントケ\u3099ン"), (0x3357, 0x3357, "ワット"),
    (0x3358, 0x3361, "0点1点2点3点4点5点6点7点8点9点"),
    (0x3362, 0x3371, "10点11点12点13点14点15点16点17点18点19点20点21点22点23点24点hPa"), (0x3372, 0x3373, "daAU"),
    (0x3374, 0x3374, "bar"), (0x3375, 0x3376, "oVpc"), (0x337B, 0x337E, "平成昭和大正明治"),
    (0x337F, 0x337F, "株式会社"), (0x3380, 0x3387, "pAnAμAmAkAKBMBGB"), (0x3388, 0x3388, "cal"),
    (0x3389, 0x3389, "kcal"), (0x338A, 0x3390, "pFnFμFμgmgkgHz"), (0x3391, 0x3394, "kHzMHzGHzTHz"),
    (0x3395, 0x339E, "μlmldlklfmnmμmmmcmkm"), (0x339F, 0x33A0, "mm2cm2"), (0x33A1, 0x33A1, "m2"),
    (0x33A2, 0x33A4, "km2mm3cm3"), (0x33A5, 0x33A5, "m3"), (0x33A6, 0x33A7, "km3m∕s"),
    (0x33A8, 0x33A8, "m∕s2"), (0x33A9, 0x33A9, "Pa"), (0x33AA, 0x33AD, "kPaMPaGParad"),
    (0x33AE, 0x33AE, "rad∕s"), (0x33AF, 0x33AF, "rad∕s2"),
    (0x33B0, 0x33C1, "psnsμsmspVnVμVmVkVMVpWnWμWmWkWMWkΩMΩ"), (0x33C2, 0x33C2, "a.m."),
    (0x33C3, 0x33C5, "Bqcccd"), (0x33C6, 0x33C6, "C∕kg"), (0x33C7, 0x33C7, "Co."),
    (0x33C8, 0x33D1, "dBGyhaHPinKKKMktlmln"), (0x33D2, 0x33D2, "log"), (0x33D3, 0x33D4, "lxmb"),
    (0x33D5, 0x33D6, "milmol"), (0x33D7, 0x33D7, "PH"), (0x33D8, 0x33D8, "p.m."),
    (0x33D9, 0x33D9, "PPM"), (0x33DA, 0x33DD, "PRsrSvWb"), (0x33E0, 0x33E8, "1日2日3日4日5日6日7日8日9日"),
    (0x33E9, 0x33FE, "10日11日12日13日14日15日16日17日18日19日20日21日22日23日24日25日26日27日28日29日30日31日"),
    (0xF900, 0xFA0D,
      "豈更車賈滑串句龜龜契金喇奈懶癩羅蘿螺裸邏樂洛烙珞落酪駱亂卵欄爛蘭鸞嵐濫藍襤拉臘蠟廊朗浪狼郎來冷勞擄櫓爐盧老蘆虜路露魯鷺碌祿綠菉錄鹿論壟弄籠聾牢磊賂雷壘屢樓淚漏累縷陋勒肋"
      ++ "凜凌稜綾菱陵讀拏樂諾丹寧怒率異北磻便復不泌數索參塞省葉說殺辰沈拾若掠略亮兩凉梁糧良諒量勵呂女廬旅濾礪閭驪麗黎力曆歷轢年憐戀撚漣煉璉秊練聯輦蓮連鍊列劣咽烈裂說廉念捻殮簾獵令囹寧嶺"
      ++ "怜玲瑩羚聆鈴零靈領例禮醴隸惡了僚寮尿料樂燎療蓼遼龍暈阮劉杻柳流溜琉留硫紐類六戮陸倫崙淪輪律慄栗率隆利吏履易李梨泥理痢罹裏裡里離匿溺吝燐璘藺隣鱗麟林淋臨立笠粒狀炙識什茶刺切度拓糖"
      ++ "宅洞暴輻行降見廓兀嗀"),
    (0xFA10, 0xFA10, "塚"), (0xFA12, 0xFA12, "晴"), (0xFA15, 0xFA1E, "凞猪益礼神祥福靖精羽"),
    (0xFA20, 0xFA20, "蘒"), (0xFA22, 0xFA22, "諸"), (0xFA25, 0xFA26, "逸都"), (0xFA2A, 0xFA2D, "飯飼館鶴"),
    (0xFA30, 0xFA6A, "侮僧免勉勤卑喝嘆器塀墨層屮悔慨憎懲敏既暑梅海渚漢煮爫琢碑社祉祈祐祖祝禍禎穀突節練縉繁署者臭艹艹著褐視謁謹賓贈辶逸難響頻"),
    (0xFB00, 0xFB02, "fffifl"), (0xFB03, 0xFB04, "ffiffl"), (0xFB05, 0xFB06, "stst"),
    (0xFB13, 0xFB17, "մնմեմիվնմխ"), (0xFB1D, 0xFB1D, "\u05d9\u05b4"),
    (0xFB1F, 0xFB1F, "\u05f2\u05b7"),
    (0xFB20, 0xFB29, "\u05e2\u05d0\u05d3\u05d4\u05db\u05dc\u05dd\u05e8\u05ea+"),
    (0xFB2A, 0xFB2B, "\u05e9\u05c1\u05e9\u05c2"),
    (0xFB2C, 0xFB2D, "\u05e9\u05bc\u05c1\u05e9\u05bc\u05c2"),
    (0xFB2E, 0xFB36,
      "\u05d0\u05b7\u05d0\u05b8\u05d0\u05bc\u05d1\u05bc\u05d2\u05bc\u05d3\u05bc\u05d4\u05bc"
      ++ "\u05d5\u05bc\u05d6\u05bc"),
    (0xFB38, 0xFB3C, "\u05d8\u05bc\u05d9\u05bc\u05da\u05bc\u05db\u05bc\u05dc\u05bc"),
    (0xFB3E, 0xFB3E, "\u05de\u05bc"), (0xFB40, 0xFB41, "\u05e0\u05bc\u05e1\u05bc"),
    (0xFB43, 0xFB44, "\u05e3\u05bc\u05e4\u05bc"),
    (0xFB46, 0xFB4F,
      "\u05e6\u05bc\u05e7\u05bc\u05e8\u05bc\u05e9\u05bc\u05ea\u05bc\u05d5\u05b9\u05d1\u05bf"
      ++ "\u05db\u05bf\u05e4\u05bf\u05d0\u05dc"),
    (0xFB50, 0xFBA3,
      "\u0671\u0671\u067b\u067b\u067b\u067b\u067e\u067e\u067e\u067e\u0680\u0680\u0680\u0680"
      ++ "\u067a\u067a\u067a\u067a\u067f\u067f\u067f\u067f\u0679\u0679\u0679\u0679\u06a4\u06a4"
      ++ "\u06a4\u06a4\u06a6\u06a6\u06a6\u06a6\u0684\u0684\u0684\u0684\u0683\u0683\u0683\u0683"
      ++ "\u0686\u0686\u0686\u0686\u0687\u0687\u0687\u0687\u068d\u068d\u068c\u068c\u068e\u068e"
      ++ "\u0688\u0688\u0698\u0698\u0691\u0691\u06a9\u06a9\u06a9\u06a9\u06af\u06af\u06af\u06af"
      ++ "\u06b3\u06b3\u06b3\u06b3\u06b1\u06b1\u06b1\u06b1\u06ba\u06ba\u06bb\u06bb\u06bb\u06bb"),
    (0xFBA4, 0xFBA5, "\u06d5\u0654\u06d5\u0654"),
    (0xFBA6, 0xFBAF, "\u06c1\u06c1\u06c1\u06c1\u06be\u06be\u06be\u06be\u06d2\u06d2"),
    (0xFBB0, 0xFBB1, "\u06d2\u0654\u06d2\u0654"),
    (0xFBD3, 0xFBDC, "\u06ad\u06ad\u06ad\u06ad\u06c7\u06c7\u06c6\u06c6\u06c8\u06c8"),
    (0xFBDD, 0xFBDD, "\u06c7\u0674"),
    (0xFBDE, 0xFBE9,
      "\u06cb\u06cb\u06c5\u06c5\u06c9\u06c9\u06d0\u06d0\u06d0\u06d0\u0649\u0649"),
    (0xFBEA, 0xFBFB,
      "\u064a\u0654\u0627\u064a\u0654\u0627\u064a\u0654\u06d5\u064a\u0654\u06d5\u064a\u0654"
      ++ "\u0648\u064a\u0654\u0648\u064a\u0654\u06c7\u064a\u0654\u06c7\u064a\u0654\u06c6\u064a"
      ++ "\u0654\u06c6\u064a\u0654\u06c8\u064a\u0654\u06c8\u064a\u0654\u06d0\u064a\u0654\u06d0"
      ++ "\u064a\u0654\u06d0\u064a\u0654\u0649\u064a\u0654\u0649\u064a\u0654\u0649"),
    (0xFBFC, 0xFBFF, "\u06cc\u06cc\u06cc\u06cc"),
    (0xFC00, 0xFC04,
      "\u064a\u0654\u062c\u064a\u0654\u062d\u064a\u0654\u0645\u064a\u0654\u0649\u064a\u0654"
      ++ "\u064a"),
    (0xFC05, 0xFC5D,
      "\u0628\u062c\u0628\u062d\u0628\u062e\u0628\u0645\u0628\u0649\u0628\u064a\u062a\u062c"
      ++ "\u062a\u062d\u062a\u062e\u062a\u0645\u062a\u0649\u062a\u064a\u062b\u062c\u062b\u0645"
      ++ "\u062b\u0649\u062b\u064a\u062c\u062d\u062c\u0645\u062d\u062c\u062d\u0645\u062e\u062c"
      ++ "\u062e\u062d\u062e\u0645\u0633\u062c\u0633\u062d\u0633\u062e\u0633\u0645\u0635\u062d"
      ++ "\u0635\u0645\u0636\u062c\u0636\u062d\u0636\u062e\u0636\u0645\u0637\u062d\u0637\u0645"
      ++ "\u0638\u0645\u0639\u062c\u0639\u0645\u063a\u062c\u063a\u0645\u0641\u062c\u0641\u062d"
      ++ "\u0641\u062e\u0641\u0645\u0641\u0649\u0641\u064a\u0642\u062d\u0642\u0645\u0642\u0649"
      ++ "\u0642\u064a\u0643\u0627\u0643\u062c\u0643\u062d\u0643\u062e\u0643\u0644\u0643\u0645"
      ++ "\u0643\u0649\u0643\u064a\u0644\u062c\u0644\u062d\u0644\u062e\u0644\u0645\u0644\u0649"
      ++ "\u0644\u064a\u0645\u062c\u0645\u062d\u0645\u062e\u0645\u0645\u0645\u0649\u0645\u064a"
      ++ "\u0646\u062c\u0646\u062d\u0646\u062e\u0646\u0645\u0646\u0649\u0646\u064a\u0647\u062c"
      ++ "\u0647\u0645\u0647\u0649\u0647\u064a\u064a\u062c\u064a\u062d\u064a\u062e\u064a\u0645"
      ++ "\u064a\u0649\u064a\u064a\u0630\u0670\u0631\u0670\u0649\u0670"),
    (0xFC5E, 0xFC69,
      " \u064c\u0651 \u064d\u0651 \u064e\u0651 \u064f\u0651 \u0650\u0651 \u0651\u0670\u064a"
      ++ "\u0654\u0631\u064a\u0654\u0632\u064a\u0654\u0645\u064a\u0654\u0646\u064a\u0654\u0649"
      ++ "\u064a\u0654\u064a"),
    (0xFC6A, 0xFC96,
      "\u0628\u0631\u0628\u0632\u0628\u0645\u0628\u0646\u0628\u0649\u0628\u064a\u062a\u0631"
      ++ "\u062a\u0632\u062a\u0645\u062a\u0646\u062a\u0649\u062a\u064a\u062b\u0631\u062b\u0632"
      ++ "\u062b\u0645\u062b\u0646\u062b\u0649\u062b\u064a\u0641\u0649\u0641\u064a\u0642\u0649"
      ++ "\u0642\u064a\u0643\u0627\u0643\u0644\u0643\u0645\u0643\u0649\u0643\u064a\u0644\u0645"
      ++ "\u0644\u0649\u0644\u064a\u0645\u0627\u0645\u0645\u0646\u0631\u0646\u0632\u0646\u0645"
      ++ "\u0646\u0646\u0646\u0649\u0646\u064a\u0649\u0670\u064a\u0631\u064a\u0632\u064a\u0645"
      ++ "\u064a\u0646\u064a\u0649\u064a\u064a"),
    (0xFC97, 0xFC9B,
      "\u064a\u0654\u062c\u064a\u0654\u062d\u064a\u0654\u062e\u064a\u0654\u0645\u064a\u0654"
      ++ "\u0647"),
    (0xFC9C, 0xFCDE,
      "\u0628\u062c\u0628\u062d\u0628\u062e\u0628\u0645\u0628\u0647\u062a\u062c\u062a\u062d"
      ++ "\u062a\u062e\u062a\u0645\u062a\u0647\u062b\u0645\u062c\u062d\u062c\u0645\u062d\u062c"
      ++ "\u062d\u0645\u062e\u062c\u062e\u0645\u0633\u062c\u0633\u062d\u0633\u062e\u0633\u0645"
      ++ "\u0635\u062d\u0635\u062e\u0635\u0645\u0636\u062c\u0636\u062d\u0636\u062e\u0636\u0645"
      ++ "\u0637\u062d\u0638\u0645\u0639\u062c\u0639\u0645\u063a\u062c\u063a\u0645\u0641\u062c"
      ++ "\u0641\u062d\u0641\u062e\u0641\u0645\u0642\u062d\u0642\u0645\u0643\u062c\u0643\u062d"
      ++ "\u0643\u062e\u0643\u0644\u0643\u0645\u0644\u062c\u0644\u062d\u0644\u062e\u0644\u0645"
      ++ "\u0644\u0647\u0645\u062c\u0645\u062d\u0645\u062e\u0645\u0645\u0646\u062c\u0646\u062d"
      ++ "\u0646\u062e\u0646\u0645\u0646\u0647\u0647\u062c\u0647\u0645\u0647\u0670\u064a\u062c"
      ++ "\u064a\u062d\u064a\u062e\u064a\u0645\u064a\u0647"),
    (0xFCDF, 0xFCE0, "\u064a\u0654\u0645\u064a\u0654\u0647"),
    (0xFCE1, 0xFCF1,
      "\u0628\u0645\u0628\u0647\u062a\u0645\u062a\u0647\u062b\u0645\u062b\u0647\u0633\u0645"
      ++ "\u0633\u0647\u0634\u0645\u0634\u0647\u0643\u0644\u0643\u0645\u0644\u0645\u0646\u0645"
      ++ "\u0646\u0647\u064a\u0645\u064a\u0647"),
    (0xFCF2, 0xFCF4, "\u0640\u064e\u0651\u0640\u064f\u0651\u0640\u0650\u0651"),
    (0xFCF5, 0xFD3D,
      "\u0637\u0649\u0637\u064a\u0639\u0649\u0639\u064a\u063a\u0649\u063a\u064a\u0633\u0649"
      ++ "\u0633\u064a\u0634\u0649\u0634\u064a\u062d\u0649\u062d\u064a\u062c\u0649\u062c\u064a"
      ++ "\u062e\u0649\u062e\u064a\u0635\u0649\u0635\u064a\u0636\u0649\u0636\u064a\u0634\u062c"
      ++ "\u0634\u062d\u0634\u062e\u0634\u0645\u0634\u0631\u0633\u0631\u0635\u0631\u0636\u0631"
      ++ "\u0637\u0649\u0637\u064a\u0639\u0649\u0639\u064a\u063a\u0649\u063a\u064a\u0633\u0649"
      ++ "\u0633\u064a\u0634\u0649\u0634\u064a\u062d\u0649\u062d\u064a\u062c\u0649\u062c\u064a"
      ++ "\u062e\u0649\u062e\u064a\u0635\u0649\u0635\u064a\u0636\u0649\u0636\u064a\u0634\u062c"
      ++ "\u0634\u062d\u0634\u062e\u0634\u0645\u0634\u0631\u0633\u0631\u0635\u0631\u0636\u0631"
      ++ "\u0634\u062c\u0634\u062d\u0634\u062e\u0634\u0645\u0633\u0647\u0634\u0647\u0637\u0645"
      ++ "\u0633\u062c\u0633\u062d\u0633\u062e\u0634\u062c\u0634\u062d\u0634\u062e\u0637\u0645"
      ++ "\u0638\u0645\u0627\u064b\u0627\u064b"),
    (0xFD50, 0xFD8F,
      "\u062a\u062c\u0645\u062a\u062d\u062c\u062a\u062d\u062c\u062a\u062d\u0645\u062a\u062e"
      ++ "\u0645\u062a\u0645\u062c\u062a\u0645\u062d\u062a\u0645\u062e\u062c\u0645\u062d\u062c"
      ++ "\u0645\u062d\u062d\u0645\u064a\u062d\u0645\u0649\u0633\u062d\u062c\u0633\u062c\u062d"
      ++ "\u0633\u062c\u0649\u0633\u0645\u062d\u0633\u0645\u062d\u0633\u0645\u062c\u0633\u0645"
      ++ "\u0645\u0633\u0645\u0645\u0635\u062d\u062d\u0635\u062d\u062d\u0635\u0645\u0645\u0634"
      ++ "\u062d\u0645\u0634\u062d\u0645\u0634\u062c\u064a\u0634\u0645\u062e\u0634\u0645\u062e"
      ++ "\u0634\u0645\u0645\u0634\u0645\u0645\u0636\u062d\u0649\u0636\u062e\u0645\u0636\u062e"
      ++ "\u0645\u0637\u0645\u062d\u0637\u0645\u062d\u0637\u0645\u0645\u0637\u0645\u064a\u0639"
      ++ "\u062c\u0645\u0639\u0645\u0645\u0639\u0645\u0645\u0639\u0645\u0649\u063a\u0645\u0645"
      ++ "\u063a\u0645\u064a\u063a\u0645\u0649\u0641\u062e\u0645\u0641\u062e\u0645\u0642\u0645"
      ++ "\u062d\u0642\u0645\u0645\u0644\u062d\u0645\u0644\u062d\u064a\u0644\u062d\u0649\u0644"
      ++ "\u062c\u062c\u0644\u062c\u062c\u0644\u062e\u0645\u0644\u062e\u0645\u0644\u0645\u062d"
      ++ "\u0644\u0645\u062d\u0645\u062d\u062c\u0645\u062d\u0645\u0645\u062d\u064a\u0645\u062c"
      ++ "\u062d\u0645\u062c\u0645\u0645\u062e\u062c\u0645\u062e\u0645"),
    (0xFD92, 0xFDC7,
      "\u0645\u062c\u062e\u0647\u0645\u062c\u0647\u0645\u0645\u0646\u062d\u0645\u0646\u062d"
      ++ "\u0649\u0646\u062c\u0645\u0646\u062c\u0645\u0646\u062c\u0649\u0646\u0645\u064a\u0646"
      ++ "\u0645\u0649\u064a\u0645\u0645\u064a\u0645\u0645\u0628\u062e\u064a\u062a\u062c\u064a"
      ++ "\u062a\u062c\u0649\u062a\u062e\u064a\u062a\u062e\u0649\u062a\u0645\u064a\u062a\u0645"
      ++ "\u0649\u062c\u0645\u064a\u062c\u062d\u0649\u062c\u0645\u0649\u0633\u062e\u0649\u0635"
      ++ "\u062d\u064a\u0634\u062d\u064a\u0636\u062d\u064a\u0644\u062c\u064a\u0644\u0645\u064a"
      ++ "\u064a\u062d\u064a\u064a\u062c\u064a\u064a\u0645\u064a\u0645\u0645\u064a\u0642\u0645"
      ++ "\u064a\u0646\u062d\u064a\u0642\u0645\u062d\u0644\u062d\u0645\u0639\u0645\u064a\u0643"
      ++ "\u0645\u064a\u0646\u062c\u062d\u0645\u062e\u064a\u0644\u062c\u0645\u0643\u0645\u0645"
      ++ "\u0644\u062c\u0645\u0646\u062c\u062d\u062c\u062d\u064a\u062d\u062c\u064a\u0645\u062c"
      ++ "\u064a\u0641\u0645\u064a\u0628\u062d\u064a\u0643\u0645\u0645\u0639\u062c\u0645\u0635"
      ++ "\u0645\u0645\u0633\u062e\u064a\u0646\u062c\u064a"),
    (0xFDF0, 0xFDF1, "\u0635\u0644\u06d2\u0642\u0644\u06d2"),
    (0xFDF2, 0xFDF8,
      "\u0627\u0644\u0644\u0647\u0627\u0643\u0628\u0631\u0645\u062d\u0645\u062f\u0635\u0644"
      ++ "\u0639\u0645\u0631\u0633\u0648\u0644\u0639\u0644\u064a\u0647\u0648\u0633\u0644\u0645"),
    (0xFDF9, 0xFDF9, "\u0635\u0644\u0649"),
    (0xFDFA, 0xFDFA,
      "\u0635\u0644\u0649 \u0627\u0644\u0644\u0647 \u0639\u0644\u064a\u0647 \u0648\u0633"
      ++ "\u0644\u0645"),
    (0xFDFB, 0xFDFB, "\u062c\u0644 \u062c\u0644\u0627\u0644\u0647"),
    (0xFDFC, 0xFDFC, "\u0631\u06cc\u0627\u0644"), (0xFE30, 0xFE30, ".."),
    (0xFE31, 0xFE44, "—–__()\x7b\x7d〔〕【】《》〈〉「」『』"),
    (0xFE49, 0xFE4C, " \u0305 \u0305 \u0305 \u0305"), (0xFE4D, 0xFE52, "___,、."),
    (0xFE54, 0xFE66, ";:?!—()\x7b\x7d〔〕#&*+-<>="), (0xFE68, 0xFE6B, "\\$%@"),
    (0xFE70, 0xFE72, " \u064b\u0640\u064b \u064c"), (0xFE74, 0xFE74, " \u064d"),
    (0xFE76, 0xFE7F,
      " \u064e\u0640\u064e \u064f\u0640\u064f \u0650\u0640\u0650 \u0651\u0640\u0651 \u0652"
      ++ "\u0640\u0652"),
    (0xFE80, 0xFE80, "\u0621"),
    (0xFE81, 0xFE8C,
      "\u0627\u0653\u0627\u0653\u0627\u0654\u0627\u0654\u0648\u0654\u0648\u0654\u0627\u0655"
      ++ "\u0627\u0655\u064a\u0654\u064a\u0654\u064a\u0654\u064a\u0654"),
    (0xFE8D, 0xFEF4,
      "\u0627\u0627\u0628\u0628\u0628\u0628\u0629\u0629\u062a\u062a\u062a\u062a\u062b\u062b"
      ++ "\u062b\u062b\u062c\u062c\u062c\u062c\u062d\u062d\u062d\u062d\u062e\u062e\u062e\u062e"
      ++ "\u062f\u062f\u0630\u0630\u0631\u0631\u0632\u0632\u0633\u0633\u0633\u0633\u0634\u0634"
      ++ "\u0634\u0634\u0635\u0635\u0635\u0635\u0636\u0636\u0636\u0636\u0637\u0637\u0637\u0637"
      ++ "\u0638\u0638\u0638\u0638\u0639\u0639\u0639\u0639\u063a\u063a\u063a\u063a\u0641\u0641"
      ++ "\u0641\u0641\u0642\u0642\u0642\u0642\u0643\u0643\u0643\u0643\u0644\u0644\u0644\u0644"
      ++ "\u0645\u0645\u0645\u0645\u0646\u0646\u0646\u0646\u0647\u0647\u0647\u0647\u0648\u0648"
      ++ "\u0649\u0649\u064a\u064a\u064a\u064a"),
    (0xFEF5, 0xFEFA,
      "\u0644\u0627\u0653\u0644\u0627\u0653\u0644\u0627\u0654\u0644\u0627\u0654\u0644\u0627"
      ++ "\u0655\u0644\u0627\u0655"),
    (0xFEFB, 0xFEFC, "\u0644\u0627\u0644\u0627"),
    (0xFF01, 0xFFBE,
      "!\"#$%&'()*+,-./0123456789:;<=>?@ABCDEFGHIJKLMNOPQRSTUVWXYZ[\\]^_`abcdefghijklmnopqr"
      ++ "stuvwxyz\x7b|\x7d~⦅⦆。「」、・ヲァィゥェォャュョッーアイウエオカキクケコサシスセソタチツテトナニヌネノハヒフヘホマミムメモヤユヨラリルレロワン\u3099"
      ++ "\u309a\u1160\u1100\u1101\u11aa\u1102\u11ac\u11ad\u1103\u1104\u1105\u11b0\u11b1\u11b2"
      ++ "\u11b3\u11b4\u11b5\u111a\u1106\u1107\u1108\u1121\u1109\u110a\u110b\u110c\u110d\u110e"
      ++ "\u110f\u1110\u1111\u1112"),
    (0xFFC2, 0xFFC7, "\u1161\u1162\u1163\u1164\u1165\u1166"),
    (0xFFCA, 0xFFCF, "\u1167\u1168\u1169\u116a\u116b\u116c"),
    (0xFFD2, 0xFFD7, "\u116d\u116e\u116f\u1170\u1171\u1172"),
    (0xFFDA, 0xFFDC, "\u1173\u1174\u1175"), (0xFFE0, 0xFFE2, "¢£¬"), (0xFFE3, 0xFFE3, " \u0304"),
    (0xFFE4, 0xFFE6, "¦¥₩"), (0xFFE8, 0xFFEE, "│←↑→↓■○"), (0x1D15E, 0x1D15F, "𝅗𝅥𝅘𝅥"),
    (0x1D160, 0x1D164, "𝅘𝅥𝅮𝅘𝅥𝅯𝅘𝅥𝅰𝅘𝅥𝅱𝅘𝅥𝅲"), (0x1D1BB, 0x1D1BC, "𝆹𝅥𝆺𝅥"),
    (0x1D1BD, 0x1D1C0, "𝆹𝅥𝅮𝆺𝅥𝅮𝆹𝅥𝅯𝆺𝅥𝅯"),
    (0x1D400, 0x1D454,
      "ABCDEFGHIJKLMNOPQRSTUVWXYZabcdefghijklmnopqrstuvwxyzABCDEFGHIJKLMNOPQRSTUVWXYZabcdef"
      ++ "g"),
    (0x1D456, 0x1D49C,
      "ijklmnopqrstuvwxyzABCDEFGHIJKLMNOPQRSTUVWXYZabcdefghijklmnopqrstuvwxyzA"),
    (0x1D49E, 0x1D49F, "CD"), (0x1D4A2, 0x1D4A2, "G"), (0x1D4A5, 0x1D4A6, "JK"),
    (0x1D4A9, 0x1D4AC, "NOPQ"), (0x1D4AE, 0x1D4B9, "STUVWXYZabcd"), (0x1D4BB, 0x1D4BB, "f"),
    (0x1D4BD, 0x1D4C0, "hijk"), (0x1D4C2, 0x1D4C3, "mn"),
    (0x1D4C5, 0x1D505, "pqrstuvwxyzABCDEFGHIJKLMNOPQRSTUVWXYZabcdefghijklmnopqrstuvwxyzAB"),
    (0x1D507, 0x1D50A, "DEFG"), (0x1D50D, 0x1D514, "JKLMNOPQ"), (0x1D516, 0x1D51C, "STUVWXY"),
    (0x1D51E, 0x1D539, "abcdefghijklmnopqrstuvwxyzAB"), (0x1D53B, 0x1D53E, "DEFG"),
    (0x1D540, 0x1D544, "IJKLM"), (0x1D546, 0x1D546, "O"), (0x1D54A, 0x1D550, "STUVWXY"),
    (0x1D552, 0x1D6A3,
      "abcdefghijklmnopqrstuvwxyzABCDEFGHIJKLMNOPQRSTUVWXYZabcdefghijklmnopqrstuvwxyzABCDEF"
      ++ "GHIJKLMNOPQRSTUVWXYZabcdefghijklmnopqrstuvwxyzABCDEFGHIJKLMNOPQRSTUVWXYZabcdefghijklmnop"
      ++ "qrstuvwxyzABCDEFGHIJKLMNOPQRSTUVWXYZabcdefghijklmnopqrstuvwxyzABCDEFGHIJKLMNOPQRSTUVWXYZ"
      ++ "abcdefghijklmnopqrstuvwxyzABCDEFGHIJKLMNOPQRSTUVWXYZabcdefghijklmnopqrstuvwxyz"),
    (0x1D6A8, 0x1D7C9,
      "ΑΒΓΔΕΖΗΘΙΚΛΜΝΞΟΠΡΘΣΤΥΦΧΨΩ∇αβγδεζηθικλμνξοπρςστυφχψω∂εθκφρπΑΒΓΔΕΖΗΘΙΚΛΜΝΞΟΠΡΘΣΤΥΦΧΨΩ∇"
      ++ "αβγδεζηθικλμνξοπρςστυφχψω∂εθκφρπΑΒΓΔΕΖΗΘΙΚΛΜΝΞΟΠΡΘΣΤΥΦΧΨΩ∇αβγδεζηθικλμνξοπρςστυφχψω∂εθκφ"
      ++ "ρπΑΒΓΔΕΖΗΘΙΚΛΜΝΞΟΠΡΘΣΤΥΦΧΨΩ∇αβγδεζηθικλμνξοπρςστυφχψω∂εθκφρπΑΒΓΔΕΖΗΘΙΚΛΜΝΞΟΠΡΘΣΤΥΦΧΨΩ∇αβ"
      ++ "γδεζηθικλμνξοπρςστυφχψω∂εθκφρπ"),
    (0x1D7CE, 0x1D7FF, "01234567890123456789012345678901234567890123456789"),
    (0x2F800, 0x2FA1D,
      "丽丸乁𠄢你侮侻倂偺備僧像㒞𠘺免兔兤具𠔜㒹內再𠕋冗冤仌冬况𩇟凵刃㓟刻剆割剷㔕勇勉勤勺包匆北卉卑博即卽卿卿卿𠨬灰及叟𠭣叫叱吆咞吸呈周咢哶唐啓啣善善喙喫喳嗂圖嘆圗噑噴切壮城埴"
      ++ "堍型堲報墬𡓤売壷夆多夢奢𡚨𡛪姬娛娧姘婦㛮𡍪嬈嬾嬾𡧈寃寘寧寳𡬘寿将弳尢㞁屠屮峀岍𡷤嵃𡷦嵮嵫嵼巡巢㠯巽帨帽幩㡢𢆃㡼庰庳庶廊𪎒廾𢌱𢌱舁弢弢㣇𣊸𦇚形彫㣣徚忍志忹悁㤺㤜悔𢛔惇慈慌慎慌慺憎"
      ++ "憲憤憯懞懲懶成戛扝抱拔捐𢬌挽拼捨掃揤𢯱搢揅掩㨮摩摾撝摷㩬敏敬𣀊旣書晉㬙暑㬈㫤冒冕最暜肭䏙朗望朡杞杓𣏃㭉柺枅桒梅𣑭梎栟椔㮝楂榣槪檨𣚣櫛㰘次𣢧歔㱎歲殟殺殻𣪍𡴋𣫺汎𣲼沿泍汧洖派海流浩"
      ++ "浸涅𣴞洴港湮㴳滋滇𣻑淹潮𣽞𣾎濆瀹瀞瀛㶖灊災灷炭𠔥煅𤉣熜䎫爨爵牐𤘈犀犕𤜵𤠔獺王㺬玥㺸㺸瑇瑜瑱璅瓊㼛甤𤰶甾𤲒異𢆟瘐𤾡𤾸𥁄㿼䀈直𥃳𥃲𥄙𥄳眞真真睊䀹瞋䁆䂖𥐝硎碌磌䃣𥘦祖𥚚𥛅福秫䄯穀穊穏"
      ++ "𥥼𥪧𥪧窮䈂𥮫篆築䈧𥲀糒䊠糨糣紀𥾆絣䌁緇縂繅䌴𦈨𦉇䍙𦋙罺𦌾羕翺者𦓚𦔣聠𦖨聰𣍟䏕育脃䐋脾媵𦞧𦞵𣎓𣎜舁舄辞䑫芑芋芝劳花芳芽苦𦬼若茝荣莭茣莽菧著荓菊菌菜𦰶𦵫𦳕䔫蓱蓳蔖𧏊蕤𦼬䕝䕡𦾱𧃒䕫虐"
      ++ "虜虧虩蚩蚈蜎蛢蝹蜨蝫螆䵗蟡蠁䗹衠衣𧙧裗裞䘵裺㒻𧢮𧥦䚾䛇誠諭變豕𧲨貫賁贛起𧼯𠠄跋趼跰𠣞軔輸𨗒𨗭邔郱鄑𨜮鄛鈸鋗鋘鉼鏹鐕𨯺開䦕閷𨵷䧦雃嶲霣𩅅𩈚䩮䩶韠𩐊䪲𩒖頋頋頩𩖶飢䬳餩馧駂駾䯎𩬰鬒鱀"
      ++ "鳽䳎䳭鵧𪃎䳸𪄅𪈎𪊑麻䵖黹黾鼅鼏鼖鼻𪘀") ]

/-- The first Hangul syllable. -/
def firstSyllable : Nat := 0xAC00

/-- The number of Hangul syllables. -/
def syllableCount : Nat := 11172

/-- The leading consonant, the vowel and perhaps the trailing consonant of a syllable. -/
def syllableParts
    (place : Nat) :
    Text :=
  let lead := Char.ofNat (0x1100 + place / 588)
  let vowel := Char.ofNat (0x1161 + place % 588 / 28)
  if place % 28 = 0 then [lead, vowel] else [lead, vowel, Char.ofNat (0x11A7 + place % 28)]

/-- What a character is made of in the end. -/
def decompose
    (c : Char) :
    Text :=
  let code := c.toNat
  if firstSyllable ≤ code && code < firstSyllable + syllableCount then
    syllableParts (code - firstSyllable)
  else
    match decompositions.find? fun range => range.1 ≤ code && code ≤ range.2.1 with
    | some (first, last, text) =>
        let share := text.length / (last - first + 1)
        (text.toList.drop ((code - first) * share)).take share
    | none => [c]

end LineTally.Text
