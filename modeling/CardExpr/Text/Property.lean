import CardExpr.Text.AgeTable
import CardExpr.Text.CaseTable
import CardExpr.Text.Category
import CardExpr.Text.PropertyTable
import CardExpr.Text.ScriptTable

/-!
The Unicode properties of characters as sets, by name: general categories, scripts, ages, and the
properties that a character has or lacks. Those that follow from others are computed from them.
-/

namespace CardExpr.Text.Property

open Category PropertyTable

/-- Names with what each of them stands for. -/
abbrev Named := List (List String × CodeSet)

def Named.lookup? (entries : Named) (name : String) : Option CodeSet :=
  (entries.find? fun entry => entry.1.contains name).map (·.2)

def control : CodeSet := .ofHex "0-1F 7F-9F"

def lineSeparator : CodeSet := .ofHex "2028"

def paragraphSeparator : CodeSet := .ofHex "2029"

def privateUse : CodeSet := .ofHex "E000-F8FF F0000-FFFFD 100000-10FFFD"

def surrogate : CodeSet := .ofHex "D800-DFFF"

def casedLetter : CodeSet := .ofRows (uppercaseLetter ++ lowercaseLetter ++ titlecaseLetter)

def letter : CodeSet := casedLetter.union (.ofRows (modifierLetter ++ otherLetter))

def mark : CodeSet := .ofRows (nonspacingMark ++ spacingMark ++ enclosingMark)

def number : CodeSet := .ofRows (decimalNumber ++ letterNumber ++ otherNumber)

def punctuation : CodeSet := .ofRows
  (connectorPunctuation ++ dashPunctuation ++ openPunctuation ++ closePunctuation ++
    initialPunctuation ++ finalPunctuation ++ otherPunctuation)

def symbol : CodeSet := .ofRows (mathSymbol ++ currencySymbol ++ modifierSymbol ++ otherSymbol)

def separator : CodeSet := .unions [.ofRows spaceSeparator, lineSeparator, paragraphSeparator]

def assigned : CodeSet := .unions
  [letter, mark, number, punctuation, symbol, separator, control, .ofRows Category.format, privateUse]

def unassigned : CodeSet := (assigned.union surrogate).complement

def other : CodeSet := .unions [control, .ofRows Category.format, privateUse, unassigned]

/-- The general categories that have characters. -/
def categories : Named := [
  (["any"], .full),
  (["assigned"], assigned),
  (["ascii"], .range 0 127),
  (["lu", "uppercaseletter"], .ofRows uppercaseLetter),
  (["ll", "lowercaseletter"], .ofRows lowercaseLetter),
  (["lt", "titlecaseletter"], .ofRows titlecaseLetter),
  (["lc", "casedletter"], casedLetter),
  (["lm", "modifierletter"], .ofRows modifierLetter),
  (["lo", "otherletter"], .ofRows otherLetter),
  (["l", "letter"], letter),
  (["mn", "nonspacingmark"], .ofRows nonspacingMark),
  (["mc", "spacingmark"], .ofRows spacingMark),
  (["me", "enclosingmark"], .ofRows enclosingMark),
  (["m", "mark", "combiningmark"], mark),
  (["nd", "decimalnumber", "digit"], .ofRows decimalNumber),
  (["nl", "letternumber"], .ofRows letterNumber),
  (["no", "othernumber"], .ofRows otherNumber),
  (["n", "number"], number),
  (["pc", "connectorpunctuation"], .ofRows connectorPunctuation),
  (["pd", "dashpunctuation"], .ofRows dashPunctuation),
  (["ps", "openpunctuation"], .ofRows openPunctuation),
  (["pe", "closepunctuation"], .ofRows closePunctuation),
  (["pi", "initialpunctuation"], .ofRows initialPunctuation),
  (["pf", "finalpunctuation"], .ofRows finalPunctuation),
  (["po", "otherpunctuation"], .ofRows otherPunctuation),
  (["p", "punctuation", "punct"], punctuation),
  (["sm", "mathsymbol"], .ofRows mathSymbol),
  (["sc", "currencysymbol"], .ofRows currencySymbol),
  (["sk", "modifiersymbol"], .ofRows modifierSymbol),
  (["so", "othersymbol"], .ofRows otherSymbol),
  (["s", "symbol"], symbol),
  (["zs", "spaceseparator"], .ofRows spaceSeparator),
  (["zl", "lineseparator"], lineSeparator),
  (["zp", "paragraphseparator"], paragraphSeparator),
  (["z", "separator"], separator),
  (["cc", "control", "cntrl"], control),
  (["cf", "format"], .ofRows Category.format),
  (["cn", "unassigned"], unassigned),
  (["co", "privateuse"], privateUse),
  (["c", "other"], other)]

def asciiHexDigit : CodeSet := .ofHex "30-39 41-46 61-66"

def lowercase : CodeSet := (CodeSet.ofRows lowercaseLetter).union otherLowercase

def uppercase : CodeSet := (CodeSet.ofRows uppercaseLetter).union otherUppercase

def alphabetic : CodeSet := .unions [letter, .ofRows letterNumber, otherAlphabetic]

def cased : CodeSet := casedLetter.union (.ofRows Text.otherCased)

def caseIgnorable : CodeSet := .ofRows
  (nonspacingMark ++ enclosingMark ++ Category.format ++ modifierLetter ++ modifierSymbol ++
    Text.otherIgnorable)

def lowercased : CodeSet := (CodeSet.ofCodes (CaseTable.sources CaseTable.lower)).union (.ofHex "130")

def uppercased : CodeSet :=
  .ofCodes (CaseTable.sources CaseTable.upper ++ CaseTable.longUpper.map (·.1))

/-- Georgian letters and letters with an iota are their own title case, some digraphs are not. -/
def titlecased : CodeSet :=
  (uppercased.diff (.ofHex
    "1C5 1C8 1CB 1F2 10D0-10FA 10FD-10FF 1F88-1F8F 1F98-1F9F 1FA8-1FAF 1FBC 1FCC 1FFC")).union
    (.ofHex "1C4 1C7 1CA 1F1")

/-- Folding takes characters apart first: those whose parts it keeps are not changed by it. -/
def casefolded : CodeSet :=
  (CodeSet.ofCodes
    (0x130 :: CaseTable.sources CaseTable.fold ++ CaseTable.longUpper.map (·.1))).diff
    (.ofHex
      "1F0 390 3B0 1E96-1E99 1F50 1F52 1F54 1F56 1FB6 1FBE 1FC6 1FD2-1FD3 1FD6-1FD7 1FE2-1FE4
        1FE6-1FE7 1FF6")

def casemapped : CodeSet := .unions [lowercased, uppercased, titlecased]

def emojiModifier : CodeSet := .ofHex "1F3FB-1F3FF"

def graphemeExtend : CodeSet := .ofRows (nonspacingMark ++ enclosingMark ++ Text.otherExtenders)

def graphemeBase : CodeSet :=
  (CodeSet.unions [other, surrogate, lineSeparator, paragraphSeparator, graphemeExtend]).complement

def hexDigit : CodeSet := asciiHexDigit.union (.ofHex "FF10-FF19 FF21-FF26 FF41-FF46")

def patternBlank : CodeSet := .ofHex "9-D 20 85 200E-200F 2028-2029"

def otherIdStart : CodeSet := .ofHex "1885-1886 2118 212E 309B-309C"

def otherIdContinue : CodeSet := .ofHex "B7 387 1369-1371 19DA 200C-200D 30FB FF65"

def idStart : CodeSet :=
  (CodeSet.unions [letter, .ofRows letterNumber, otherIdStart]).diff
    (patternSyntax.union patternBlank)

def idContinue : CodeSet := .unions
  [idStart, .ofRows (nonspacingMark ++ spacingMark ++ decimalNumber ++ connectorPunctuation),
    otherIdContinue]

/-- What compatibility decomposition would turn into something that is not part of an identifier. -/
def incompatible : CodeSet :=
  .ofHex "37A 309B-309C FC5E-FC63 FDFA-FDFB FE70 FE72 FE74 FE76 FE78 FE7A FE7C FE7E"

def xidStart : CodeSet := idStart.diff (incompatible.union (.ofHex "E33 EB3 FF9E-FF9F"))

def xidContinue : CodeSet := idContinue.diff incompatible

def mathStart : CodeSet :=
  .ofHex "2202 2207 221E 1D6C1 1D6DB 1D6FB 1D715 1D735 1D74F 1D76F 1D789 1D7A9 1D7C3"

def mathContinue : CodeSet := mathStart.union (.ofHex "B2-B3 B9 2070 2074-207E 2080-208E")

def joinControl : CodeSet := .ofHex "200C-200D"

def math : CodeSet := (CodeSet.ofRows mathSymbol).union otherMath

def otherGraphemeExtend : CodeSet := .ofRows Text.otherExtenders

def regionalIndicator : CodeSet := .ofHex "1F1E6-1F1FF"

def blank : CodeSet := .ofHex "9-D 20 85 A0 1680 2000-200A 2028-2029 202F 205F 3000"

def defaultIgnorable : CodeSet :=
  (CodeSet.unions [otherDefaultIgnorable, .ofRows Category.format, variationSelector]).diff
    (.unions [blank, .ofHex "FFF9-FFFB 13430-13440", prependedConcatenationMark])

/-- The characters of words: letters and what goes with them, digits, connectors and the two joiners. -/
def wordChars : CodeSet := .unions
  [alphabetic, mark, .ofRows decimalNumber, .ofRows connectorPunctuation, joinControl]

/-- The properties that a character has or lacks. -/
def binary : Named := [
  (["asciihexdigit", "ahex"], asciiHexDigit),
  (["alphabetic", "alpha"], alphabetic),
  (["bidicontrol", "bidic"], bidiControl),
  (["bidimirrored", "bidim"], bidiMirrored),
  (["caseignorable", "ci"], caseIgnorable),
  (["cased"], cased),
  (["changeswhencasefolded", "cwcf"], casefolded),
  (["changeswhencasemapped", "cwcm"], casemapped),
  (["changeswhenlowercased", "cwl"], lowercased),
  (["changeswhentitlecased", "cwt"], titlecased),
  (["changeswhenuppercased", "cwu"], uppercased),
  (["dash"], dash),
  (["defaultignorablecodepoint", "di"], defaultIgnorable),
  (["deprecated", "dep"], deprecated),
  (["diacritic", "dia"], diacritic),
  (["emoji"], emoji),
  (["emojicomponent", "ecomp"], emojiComponent),
  (["emojimodifier", "emod"], emojiModifier),
  (["emojimodifierbase", "ebase"], emojiModifierBase),
  (["emojipresentation", "epres"], emojiPresentation),
  (["extendedpictographic", "extpict"], extendedPictographic),
  (["extender", "ext"], extender),
  (["graphemebase", "grbase"], graphemeBase),
  (["graphemeextend", "grext"], graphemeExtend),
  (["graphemelink", "grlink"], graphemeLink),
  (["hexdigit", "hex"], hexDigit),
  (["hyphen"], hyphen),
  (["idsbinaryoperator", "idsb"], .ofHex "2FF0-2FF1 2FF4-2FFD 31EF"),
  (["idstrinaryoperator", "idst"], .ofHex "2FF2-2FF3"),
  (["idsunaryoperator", "idsu"], .ofHex "2FFE-2FFF"),
  (["idcompatmathcontinue"], mathContinue),
  (["idcompatmathstart"], mathStart),
  (["idcontinue", "idc"], idContinue),
  (["idstart", "ids"], idStart),
  (["ideographic", "ideo"], ideographic),
  (["joincontrol", "joinc"], joinControl),
  (["logicalorderexception", "loe"], logicalOrderException),
  (["lowercase", "lower"], lowercase),
  (["math"], math),
  (["modifiercombiningmark", "mcm"], modifierCombiningMark),
  (["noncharactercodepoint", "nchar"], noncharacter),
  (["otheralphabetic", "oalpha"], otherAlphabetic),
  (["otherdefaultignorablecodepoint", "odi"], otherDefaultIgnorable),
  (["othergraphemeextend", "ogrext"], otherGraphemeExtend),
  (["otheridcontinue", "oidc"], otherIdContinue),
  (["otheridstart", "oids"], otherIdStart),
  (["otherlowercase", "olower"], otherLowercase),
  (["othermath", "omath"], otherMath),
  (["otheruppercase", "oupper"], otherUppercase),
  (["patternsyntax", "patsyn"], patternSyntax),
  (["patternwhitespace", "patws"], patternBlank),
  (["prependedconcatenationmark", "pcm"], prependedConcatenationMark),
  (["quotationmark", "qmark"], quotationMark),
  (["radical"], radical),
  (["regionalindicator", "ri"], regionalIndicator),
  (["sentenceterminal", "sterm"], sentenceTerminal),
  (["softdotted", "sd"], softDotted),
  (["terminalpunctuation", "term"], terminalPunctuation),
  (["unifiedideograph", "uideo"], unifiedIdeograph),
  (["uppercase", "upper"], uppercase),
  (["variationselector", "vs"], variationSelector),
  (["whitespace", "wspace", "space"], blank),
  (["xidcontinue", "xidc"], xidContinue),
  (["xidstart", "xids"], xidStart)]

def script? (name : String) : Option CodeSet := Named.lookup? scripts name

/-- The characters that a script uses: its own ones that are not shared, and those shared with it. -/
def scriptExtension? (name : String) : Option CodeSet :=
  (scripts.find? fun entry => entry.1.contains name).map fun entry =>
    let code := entry.1.headD ""
    let shared := CodeSet.unions (scriptExtensions.map (·.1))
    (entry.2.diff shared).union
      (.unions ((scriptExtensions.filter fun group => group.2.contains code).map (·.1)))

/-- The characters that a version of Unicode has, by its number with or without the point. -/
def age? (name : String) : Option CodeSet :=
  let isNamed := fun (entry : String × CodeSet) =>
    name == entry.1 || name == "v" ++ String.ofList (entry.1.toList.filter Char.isDigit)
  match ages.span (!isNamed ·) with
  | (before, version :: _) => some (.unions (version.2 :: before.map (·.2)))
  | (_, []) => none

end CardExpr.Text.Property
