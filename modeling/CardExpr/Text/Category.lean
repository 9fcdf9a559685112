import CardExpr.Text.CategoryTable
import CardExpr.Text.LatestTable

/-! Character classes made of general categories, by the latest version of Unicode. -/

namespace CardExpr.Text

open Category

def isLetter (c : Char) : Bool :=
  [uppercaseLetter, lowercaseLetter, titlecaseLetter, modifierLetter, otherLetter,
    Latest.letter].any (contains · c)

def isMark (c : Char) : Bool :=
  [nonspacingMark, spacingMark, enclosingMark, Latest.nonspacingMark, Latest.spacingMark].any
    (contains · c)

def isNumeral (c : Char) : Bool :=
  [decimalNumber, letterNumber, otherNumber, Latest.numeral].any (contains · c)

def isPunctuation (c : Char) : Bool :=
  [connectorPunctuation, dashPunctuation, openPunctuation, closePunctuation, initialPunctuation,
    finalPunctuation, otherPunctuation, Latest.punctuation].any (contains · c)

def isSymbol (c : Char) : Bool :=
  [mathSymbol, currencySymbol, modifierSymbol, otherSymbol, Latest.symbol].any (contains · c)

/-- The space, and every character with a glyph of its own. -/
def isPrintable (c : Char) : Bool :=
  if c.toNat < 127 then decide (32 ≤ c.toNat)
  else isLetter c || isMark c || isNumeral c || isPunctuation c || isSymbol c

/-- Characters that join the preceding one although they are not nonspacing marks. -/
def otherExtenders : List Range := [
  (0x9be,0x9be,1), (0x9d7,0x9d7,1), (0xb3e,0xb3e,1), (0xb57,0xb57,1), (0xbbe,0xbbe,1),
  (0xbd7,0xbd7,1), (0xcc0,0xcc2,2), (0xcc7,0xcc8,1), (0xcca,0xccb,1), (0xcd5,0xcd6,1),
  (0xd3e,0xd3e,1), (0xd57,0xd57,1), (0xdcf,0xdcf,1), (0xddf,0xddf,1), (0x1715,0x1715,1),
  (0x1734,0x1734,1), (0x1b35,0x1b35,1), (0x1b3b,0x1b3d,2), (0x1b43,0x1b44,1), (0x1baa,0x1baa,1),
  (0x1bf2,0x1bf3,1), (0x200c,0x200c,1), (0x302e,0x302f,1), (0xa953,0xa953,1), (0xa9c0,0xa9c0,1),
  (0xff9e,0xff9f,1), (0x111c0,0x111c0,1), (0x11235,0x11235,1), (0x1133e,0x1133e,1),
  (0x1134d,0x1134d,1), (0x11357,0x11357,1), (0x113b8,0x113b8,1), (0x113c2,0x113c2,1),
  (0x113c5,0x113c5,1), (0x113c7,0x113c9,1), (0x113cf,0x113cf,1), (0x114b0,0x114b0,1),
  (0x114bd,0x114bd,1), (0x115af,0x115af,1), (0x116b6,0x116b6,1), (0x11930,0x11930,1),
  (0x1193d,0x1193d,1), (0x11f41,0x11f41,1), (0x16ff0,0x16ff1,1), (0x1d165,0x1d166,1),
  (0x1d16d,0x1d172,1), (0xe0020,0xe007f,1)]

def extendsGrapheme (c : Char) : Bool :=
  decide (127 < c.toNat) &&
    [nonspacingMark, enclosingMark, otherExtenders, Latest.nonspacingMark].any (contains · c)

def otherIgnorable : List Range := [
  (0x27,0x27,1), (0x2e,0x2e,1), (0x3a,0x3a,1), (0xb7,0xb7,1), (0x387,0x387,1), (0x55f,0x55f,1),
  (0x5f4,0x5f4,1), (0x2018,0x2019,1), (0x2024,0x2024,1), (0x2027,0x2027,1), (0xfe13,0xfe13,1),
  (0xfe52,0xfe52,1), (0xfe55,0xfe55,1), (0xff07,0xff07,1), (0xff0e,0xff0e,1), (0xff1a,0xff1a,1)]

def isCaseIgnorable (c : Char) : Bool :=
  [nonspacingMark, enclosingMark, Category.format, modifierLetter, modifierSymbol, otherIgnorable,
    Latest.caseIgnorable].any (contains · c)

def otherCased : List Range := [
  (0xaa,0xaa,1), (0xba,0xba,1), (0x2b0,0x2b8,1), (0x2c0,0x2c1,1), (0x2e0,0x2e4,1), (0x345,0x345,1),
  (0x37a,0x37a,1), (0x10fc,0x10fc,1), (0x1d2c,0x1d6a,1), (0x1d78,0x1d78,1), (0x1d9b,0x1dbf,1),
  (0x2071,0x2071,1), (0x207f,0x207f,1), (0x2090,0x209c,1), (0x2160,0x217f,1), (0x24b6,0x24e9,1),
  (0x2c7c,0x2c7d,1), (0xa69c,0xa69d,1), (0xa770,0xa770,1), (0xa7f2,0xa7f4,1), (0xa7f8,0xa7f9,1),
  (0xab5c,0xab5f,1), (0xab69,0xab69,1), (0x10780,0x10780,1), (0x10783,0x10785,1),
  (0x10787,0x107b0,1), (0x107b2,0x107ba,1), (0x1e030,0x1e06d,1), (0x1f130,0x1f149,1),
  (0x1f150,0x1f169,1), (0x1f170,0x1f189,1)]

/-- The property Cased, which a letter for a sound of the throat has lost. -/
def isCased (c : Char) : Bool :=
  c != '\u0295' &&
    [uppercaseLetter, lowercaseLetter, titlecaseLetter, otherCased, Latest.cased].any (contains · c)

end CardExpr.Text
