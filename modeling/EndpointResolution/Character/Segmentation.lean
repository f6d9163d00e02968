import EndpointResolution.Character.Property
import EndpointResolution.Character.Script

/-!
What characters do where a text is cut into clusters, words and sentences, by the rules for text
boundaries of Unicode 16.0.
-/

namespace EndpointResolution.Segmentation

open GeneralCategory

def carriageReturn : Ranges := .ofText "D"

def lineFeed : Ranges := .ofText "A"

def joiner : Ranges := .ofText "200D"

def tags : Ranges := .ofText "E0020-E007F"

def clusterExtend : Ranges := .union Property.graphemeExtend Property.emojiModifier

def clusterControl : Ranges :=
  (Ranges.unions [lineSeparators, paragraphSeparators, controls, formats,
    unassigned.inter Property.defaultIgnorable]).diff
    (.unions [carriageReturn, lineFeed, Property.joinControl, Property.prependedConcatenationMark,
      clusterExtend])

/-- Consonants that are written before the cluster that they belong to. -/
def repha : Ranges := .ofText "D4E 111C2-111C3 113D1 1193F 11941 11A3A 11A84-11A89 11D46 11F02"

/-- Spacing marks that begin clusters. -/
def spacingApart : Ranges := .ofText
  "102B-102C 1038 1062-1064 1067-106D 1083 1087-108C 108F 109A-109C 1A61 1A63-1A64 AA7B AA7D
  11720-11721"

def clusterSpacingMark : Ranges :=
  (Ranges.union spacingMarks (.ofText "E33 EB3")).diff (.union clusterExtend spacingApart)

def leadingConsonant : Ranges := .ofText "1100-115F A960-A97C"

def medialVowel : Ranges := .ofText "1160-11A7 D7B0-D7C6 16D63 16D67-16D6A"

def trailingConsonant : Ranges := .ofText "11A8-11FF D7CB-D7FB"

/-- Syllables without a trailing consonant: every 28th one. -/
def openSyllable : Ranges := .ofRuns <| (List.range 399).map fun n =>
  (0xAC00 + 28 * n, 0xAC00 + 28 * n)

def closedSyllable : Ranges := (Ranges.ofText "AC00-D7A3").diff openSyllable

def clusterTable : List (List String × Ranges) :=
  [(["Control", "CN"], clusterControl),
    (["CR"], carriageReturn),
    (["Extend", "EX"], clusterExtend),
    (["L"], leadingConsonant),
    (["LF"], lineFeed),
    (["LV"], openSyllable),
    (["LVT"], closedSyllable),
    (["Prepend", "PP"], .union repha Property.prependedConcatenationMark),
    (["Regional_Indicator", "RI"], Property.regionalIndicator),
    (["SpacingMark", "SM"], clusterSpacingMark),
    (["T"], trailingConsonant),
    (["V"], medialVowel),
    (["ZWJ"], joiner)]

def wordExtend : Ranges :=
  .unions [Property.graphemeExtend, spacingMarks, Property.emojiModifier]

def wordFormat : Ranges :=
  formats.diff
    (.unions [Property.joinControl, Property.prependedConcatenationMark, tags, .ofText "200B"])

/-- Digits, and the signs that precede numbers. -/
def wordNumeric : Ranges :=
  .unions [decimalNumbers, .ofText "66B", Property.prependedConcatenationMark.diff (.ofText "70F")]

def script (name : String) : Ranges :=
  ((Script.table.find? (·.1.contains name)).map (·.2)).getD .empty

def hebrewLetter : Ranges := (script "Hebrew").inter otherLetters

def katakana : Ranges :=
  .union (script "Katakana") (.ofText "3031-3035 309B-309C 30A0 30FC FF70")

/-- Letters of scripts that do not separate words. -/
def unspaced : Ranges := .ofText
  "E01-E3A E40-E46 E4D E81-E82 E84 E86-E8A E8C-EA3 EA5 EA7-EB9 EBB-EBD EC0-EC4 EC6 ECD EDC-EDF
  1000-1036 1038 103B-103F 1050-108F 109A-109D 1780-17B3 17B6-17C8 17D7 17DC 1950-196D 1970-1974
  1980-19AB 19B0-19C9 1A20-1A5E 1A61-1A74 1AA7 A9E0-A9EF A9FA-A9FE AA60-AA76 AA7A-AABE AAC0 AAC2
  AADB-AADD 11700-1171A 1171D-1172A 11740-11746"

/-- Symbols that are used as letters. -/
def letterLike : Ranges :=
  .ofText
    "2C2-2C5 2D2-2D7 2DE-2DF 2E5-2EB 2ED 2EF-2FF 55A-55C 55E 58A 5F3 70F A708-A716 A720-A721
    A789-A78A AB5B"

def wordLetter : Ranges :=
  (Ranges.union Property.alphabetic letterLike).diff
    (.unions [Property.ideographic, katakana, unspaced, script "Hiragana", wordExtend,
      hebrewLetter, wordNumeric])

def wordTable : List (List String × Ranges) :=
  [(["ALetter", "LE"], wordLetter),
    (["CR"], carriageReturn),
    (["Double_Quote", "DQ"], .ofText "22"),
    (["Extend"], wordExtend),
    (["ExtendNumLet", "EX"], .ofText "5F 202F 203F-2040 2054 FE33-FE34 FE4D-FE4F FF3F"),
    (["Format", "FO"], wordFormat),
    (["Hebrew_Letter", "HL"], hebrewLetter),
    (["Katakana", "KA"], katakana),
    (["LF"], lineFeed),
    (["MidLetter", "ML"], .ofText "3A B7 387 55F 5F4 2027 FE13 FE55 FF1A"),
    (["MidNum", "MN"],
      .ofText "2C 3B 37E 589 60C-60D 66C 7F8 2044 FE10 FE14 FE50 FE54 FF0C FF1B"),
    (["MidNumLet", "MB"], .ofText "2E 2018-2019 2024 FE52 FF07 FF0E"),
    (["Newline", "NL"], .ofText "B-C 85 2028-2029"),
    (["Numeric", "NU"], wordNumeric),
    (["Regional_Indicator", "RI"], Property.regionalIndicator),
    (["Single_Quote", "SQ"], .ofText "27"),
    (["WSegSpace"], .ofText "20 1680 2000-2006 2008-200A 205F 3000"),
    (["ZWJ"], joiner)]

def sentenceExtend : Ranges := .unions [Property.graphemeExtend, spacingMarks, joiner]

def sentenceSeparator : Ranges := .ofText "85 2028-2029"

def sentenceLower : Ranges :=
  Property.lowercase.diff (.union Property.graphemeExtend Property.georgian)

def sentenceUpper : Ranges :=
  (Ranges.union Property.uppercase titlecaseLetters).diff (.ofText "1C90-1CBA 1CBD-1CBF")

def sentenceLetter : Ranges :=
  (Ranges.union Property.alphabetic (.ofText "5F3 70F")).diff
    (.unions [sentenceLower, sentenceUpper, sentenceExtend])

def sentenceTerm : Ranges := .ofText "2E 2024 FE52 FF0E"

def sentenceStop : Ranges := Property.sentenceTerminal.diff sentenceTerm

def sentenceClose : Ranges :=
  (Ranges.unions [openPunctuation, closePunctuation, initialPunctuation, finalPunctuation,
    Property.quotationMark,
    .ofText "275B-2760 2E00-2E01 2E06-2E08 2E0B 1F676-1F678"]).diff
    (.unions [sentenceTerm, sentenceStop, .ofText "5F3 FF02 FF07"])

def sentenceTable : List (List String × Ranges) :=
  [(["ATerm", "AT"], sentenceTerm),
    (["Close", "CL"], sentenceClose),
    (["CR"], carriageReturn),
    (["Extend", "EX"], sentenceExtend),
    (["Format", "FO"],
      formats.diff (.unions [Property.joinControl, Property.prependedConcatenationMark, tags])),
    (["LF"], lineFeed),
    (["Lower", "LO"], sentenceLower),
    (["Numeric", "NU"], wordNumeric.union (.ofText "66C")),
    (["OLetter", "LE"], sentenceLetter),
    (["SContinue", "SC"],
      .ofText
        "2C-2D 3A-3B 37E 55D 60C-60D 7F8 1802 1808 2013-2014 3001 FE10-FE11 FE13-FE14 FE31-FE32
        FE50-FE51 FE54-FE55 FE58 FE63 FF0C-FF0D FF1A-FF1B FF64"),
    (["Sep", "SE"], sentenceSeparator),
    (["Sp", "SP"],
      Property.whiteSpace.diff (.unions [sentenceSeparator, carriageReturn, lineFeed])),
    (["STerm", "ST"], sentenceStop),
    (["Upper", "UP"], sentenceUpper)]

end EndpointResolution.Segmentation
