import CardExpr.Text.Property

/-!
The classes of characters between which graphemes, words and sentences end, by the values of the
Unicode properties for such boundaries.
-/

namespace CardExpr.Text.Boundary

open Category PropertyTable Property

def extend : CodeSet := graphemeExtend.union emojiModifier

/-- Marks that stand behind a character without being part of its grapheme, and two vowels. -/
def spacing : CodeSet :=
  ((CodeSet.ofRows spacingMark).union (.ofHex "E33 EB3")).diff (extend.union (.ofHex
    "102B-102C 1038 1062-1064 1067-106D 1083 1087-108C 108F 109A-109C 1A61 1A63-1A64 AA7B AA7D
      11720-11721"))

def prepend : CodeSet := prependedConcatenationMark.union
  (.ofHex "70F D4E 111C2-111C3 113D1 1193F 11941 11A3A 11A84-11A89 11D46 11F02")

def controls : CodeSet :=
  (CodeSet.unions [lineSeparator, paragraphSeparator, control, .ofRows Category.format,
    unassigned.inter defaultIgnorable]).diff
    (.unions [.ofHex "A D 200C-200D", prepend, extend])

/-- Syllables without a final consonant: every 28th one. -/
def openSyllable : CodeSet := .ofCodes ((List.range 399).map fun k => 0xAC00 + 28 * k)

def grapheme : Named := [
  (["cr"], .ofHex "D"),
  (["control", "cn"], controls),
  (["extend", "ex"], extend),
  (["l"], .ofHex "1100-115F A960-A97C"),
  (["lf"], .ofHex "A"),
  (["lv"], openSyllable),
  (["lvt"], (CodeSet.range 0xAC00 0xD7A3).diff openSyllable),
  (["prepend", "pp"], prepend),
  (["regionalindicator", "ri"], regionalIndicator),
  (["spacingmark", "sm"], spacing),
  (["t"], .ofHex "11A8-11FF D7CB-D7FB"),
  (["v"], .ofHex "1160-11A7 D7B0-D7C6 16D63 16D67-16D6A"),
  (["zwj"], .ofHex "200D")]

def wordExtend : CodeSet := extend.union (.ofRows spacingMark)

/-- Marks in front of numbers count as parts of them. -/
def numeric : CodeSet := .unions
  [.ofRows decimalNumber, prependedConcatenationMark.diff (.ofHex "70F"), .ofHex "66B"]

def formats (kept : CodeSet) : CodeSet :=
  (CodeSet.ofRows Category.format).diff (.unions [extend, prepend, kept])

def hebrewLetter : CodeSet := ((script? "hebr").getD .empty).inter (.ofRows otherLetter)

def katakana : CodeSet :=
  ((script? "kana").getD .empty).union (.ofHex "3031-3035 309B-309C 30A0 30FC FF70")

/-- Letters of scripts that write no blanks between words. -/
def unspacedLetter : CodeSet := .ofHex
  "E01-E30 E32-E33 E40-E46 E81-E82 E84 E86-E8A E8C-EA3 EA5 EA7-EB0 EB2-EB3 EBD EC0-EC4 EC6 EDC-EDF
    1000-102A 103F 1050-1055 105A-105D 1061 1065-1066 106E-1070 1075-1081 108E 1780-17B3 17D7 17DC
    1950-196D 1970-1974 1980-19AB 19B0-19C9 1A20-1A54 1AA7 A9E0-A9E4 A9E6-A9EF A9FA-A9FE AA60-AA76
    AA7A AA7E-AAAF AAB1 AAB5-AAB6 AAB9-AABD AAC0 AAC2 AADB-AADD 11700-1171A 11740-11746"

def wordLetter : CodeSet :=
  (alphabetic.union (.ofHex
    "2C2-2C5 2D2-2D7 2DE-2DF 2E5-2EB 2ED 2EF-2FF 55A-55C 55E 58A 5F3 70F A708-A716 A720-A721
      A789-A78A AB5B")).diff
    (.unions [ideographic, katakana, hebrewLetter, wordExtend, (script? "hira").getD .empty,
      unspacedLetter])

def word : Named := [
  (["aletter", "le"], wordLetter),
  (["cr"], .ofHex "D"),
  (["doublequote", "dq"], .ofHex "22"),
  (["extend"], wordExtend),
  (["extendnumlet", "ex"], .ofHex "5F 202F 203F-2040 2054 FE33-FE34 FE4D-FE4F FF3F"),
  (["format", "fo"], formats (.ofHex "200B-200D")),
  (["hebrewletter", "hl"], hebrewLetter),
  (["katakana", "ka"], katakana),
  (["lf"], .ofHex "A"),
  (["midletter", "ml"], .ofHex "3A B7 387 55F 5F4 2027 FE13 FE55 FF1A"),
  (["midnum", "mn"], .ofHex "2C 3B 37E 589 60C-60D 66C 7F8 2044 FE10 FE14 FE50 FE54 FF0C FF1B"),
  (["midnumlet", "mb"], .ofHex "2E 2018-2019 2024 FE52 FF07 FF0E"),
  (["newline", "nl"], .ofHex "B-C 85 2028-2029"),
  (["numeric", "nu"], numeric),
  (["regionalindicator", "ri"], regionalIndicator),
  (["singlequote", "sq"], .ofHex "27"),
  (["wsegspace"], .ofHex "20 1680 2000-2006 2008-200A 205F 3000"),
  (["zwj"], .ofHex "200D")]

def sentenceExtend : CodeSet := .unions [graphemeExtend, .ofRows spacingMark, .ofHex "200D"]

def sentenceLower : CodeSet := lowercase.diff (graphemeExtend.union (.ofHex "10D0-10FA 10FD-10FF"))

def sentenceUpper : CodeSet :=
  (uppercase.union (.ofRows titlecaseLetter)).diff (.ofHex "1C90-1CBA 1CBD-1CBF")

def pointTerm : CodeSet := .ofHex "2E 2024 FE52 FF0E"

def close : CodeSet := .unions
  [.ofRows (openPunctuation ++ closePunctuation ++ initialPunctuation ++ finalPunctuation),
    .ofHex "22 27 275B-2760 2E00-2E01 2E06-2E08 2E0B 1F676-1F678"]

def sentence : Named := [
  (["aterm", "at"], pointTerm),
  (["cr"], .ofHex "D"),
  (["close", "cl"], close),
  (["extend", "ex"], sentenceExtend),
  (["format", "fo"], formats (.ofHex "200C-200D")),
  (["lf"], .ofHex "A"),
  (["lower", "lo"], sentenceLower),
  (["numeric", "nu"], numeric.union (.ofHex "66C")),
  (["oletter", "le"],
    (alphabetic.union (.ofHex "5F3 70F")).diff
      (.unions [sentenceLower, sentenceUpper, sentenceExtend])),
  (["scontinue", "sc"], .ofHex
    "2C-2D 3A-3B 37E 55D 60C-60D 7F8 1802 1808 2013-2014 3001 FE10-FE11 FE13-FE14 FE31-FE32 FE50-FE51
      FE54-FE55 FE58 FE63 FF0C-FF0D FF1A-FF1B FF64"),
  (["sterm", "st"], sentenceTerminal.diff pointTerm),
  (["sep", "se"], .ofHex "85 2028-2029"),
  (["sp"], .ofHex "9 B-C 20 A0 1680 2000-200A 202F 205F 3000"),
  (["upper", "up"], sentenceUpper)]

end CardExpr.Text.Boundary
