import ValueRules.Unicode.Property
import ValueRules.Unicode.Script

/-!
The classes of characters by which version 16 of the standard cuts texts: into what a reader takes
for one character, into words and into sentences. No character is in two classes of one kind, and
those that matter for no cut are in none.
-/

namespace ValueRules.Unicode

/-- Characters that stand before others in one cluster. -/
def clusterPrepend : CharSet := .unions
  [prependedMark, .ofText "D4E 111C2-111C3 113D1 1193F 11941 11A3A 11A84-11A89 11D46 11F02"]

def clusterExtend : CharSet := .unions [graphemeExtend, emojiModifier]

/-- Marks with a place of their own, those apart that begin a cluster. -/
def clusterSpacingMark : CharSet :=
  (CharSet.unions [spacingMark, .ofText "E33 EB3"]).diff <| .unions
    [clusterExtend, .ofText
      "102B-102C 1038 1062-1064 1067-106D 1083 1087-108C 108F 109A-109C 1A61 1A63-1A64 AA7B AA7D
       11720-11721"]

def clusterControl : CharSet :=
  (CharSet.unions
    [lineSeparator, paragraphSeparator, control, format, unassigned.inter defaultIgnorable]).diff
    (.unions [clusterPrepend, clusterExtend, .ofText "A D 200C-200D"])

/-- Hangul syllables without a final consonant. -/
def openSyllable : CharSet := .ofText "AC00-D788/1C"

/-- The classes for clusters by name. -/
def clusterBreaks : List (List String × CharSet) :=
  [(["cn", "control"], clusterControl), (["cr"], .ofText "D"), (["ex", "extend"], clusterExtend),
    (["l"], .ofText "1100-115F A960-A97C"), (["lf"], .ofText "A"), (["lv"], openSyllable),
    (["lvt"], (CharSet.ofText "AC00-D7A3").diff openSyllable), (["pp", "prepend"], clusterPrepend),
    (["ri", "regionalindicator"], regionalIndicator), (["sm", "spacingmark"], clusterSpacingMark),
    (["t"], .ofText "11A8-11FF D7CB-D7FB"),
    (["v"], .ofText "1160-11A7 D7B0-D7C6 16D63 16D67-16D6A"), (["zwj"], .ofText "200D")]

def wordExtend : CharSet := (CharSet.unions [clusterExtend, spacingMark]).diff (.ofText "200D")

/-- Digits and the marks that belong to numbers. -/
def wordNumeric : CharSet := .unions
  [decimalNumber, .ofText "600-605 66B 6DD 890-891 8E2 19DA 110BD 110CD"]

def wordFormat : CharSet :=
  format.diff (.unions [prependedMark, graphemeExtend, .ofText "200B-200D"])

def wordKatakana : CharSet := .unions
  [script "katakana", .ofText "3031-3035 309B-309C 30A0 30FC FF70"]

def wordHebrewLetter : CharSet := (script "hebrew").inter otherLetter

/-- The scripts that are written without a sign between words. -/
def unspacedScripts : CharSet := .unions <| List.map script
  ["thai", "lao", "myanmar", "khmer", "taile", "newtailue", "taitham", "ahom", "taiviet"]

def wordLetter : CharSet :=
  (CharSet.unions
    [alphabetic, .ofText
      "2C2-2C5 2D2-2D7 2DE-2DF 2E5-2EB 2ED 2EF-2FF 55A-55C 55E 58A 5F3 70F A708-A716 A720-A721
       A789-A78A AB5B"]).diff <| .unions
    [ideographic, wordKatakana, unspacedScripts, script "hiragana", wordExtend, wordHebrewLetter]

/-- The classes for words by name. -/
def wordBreaks : List (List String × CharSet) :=
  [(["cr"], .ofText "D"), (["dq", "doublequote"], .ofText "22"),
    (["ex", "extendnumlet"], .unions [connectorPunctuation, .ofText "202F"]),
    (["extend"], wordExtend), (["fo", "format"], wordFormat),
    (["hl", "hebrewletter"], wordHebrewLetter), (["ka", "katakana"], wordKatakana),
    (["le", "aletter"], wordLetter), (["lf"], .ofText "A"),
    (["mb", "midnumlet"], .ofText "2E 2018-2019 2024 FE52 FF07 FF0E"),
    (["ml", "midletter"], .ofText "3A B7 387 55F 5F4 2027 FE13 FE55 FF1A"),
    (["mn", "midnum"], .ofText
      "2C 3B 37E 589 60C-60D 66C 7F8 2044 FE10 FE14 FE50 FE54 FF0C FF1B"),
    (["nl", "newline"], .ofText "B-C 85 2028-2029"), (["nu", "numeric"], wordNumeric),
    (["ri", "regionalindicator"], regionalIndicator), (["sq", "singlequote"], .ofText "27"),
    (["wsegspace"], .ofText "20 1680 2000-2006 2008-200A 205F 3000"), (["zwj"], .ofText "200D")]

def sentenceExtend : CharSet := .unions [graphemeExtend, spacingMark, .ofText "200D"]

def sentenceNumeric : CharSet := .unions [wordNumeric, .ofText "66C"]

def sentenceFormat : CharSet :=
  format.diff (.unions [sentenceNumeric, graphemeExtend, .ofText "200C-200D"])

/-- Full stops, which end a sentence in some surroundings only. -/
def sentenceStop : CharSet := .ofText "2E 2024 FE52 FF0E"

/-- The Georgian letters have two cases, but sentences do not begin with the upper one. -/
def georgianLetter : CharSet := .ofText "10D0-10FA 10FD-10FF 1C90-1CBA 1CBD-1CBF"

def sentenceLower : CharSet := lowercase.diff (.unions [graphemeExtend, georgianLetter])

def sentenceUpper : CharSet := (CharSet.unions [titlecaseLetter, uppercase]).diff georgianLetter

def sentenceLetter : CharSet :=
  (CharSet.unions [alphabetic, .ofText "5F3"]).diff
    (.unions [sentenceLower, sentenceUpper, sentenceExtend])

/-- Brackets and quotation marks. -/
def sentenceClose : CharSet := .unions
  [openPunctuation, closePunctuation, initialPunctuation, finalPunctuation,
    .ofText "22 27 275B-2760 2E00-2E01 2E06-2E08 2E0B 1F676-1F678"]

/-- The classes for sentences by name. -/
def sentenceBreaks : List (List String × CharSet) :=
  [(["at", "aterm"], sentenceStop), (["cl", "close"], sentenceClose), (["cr"], .ofText "D"),
    (["ex", "extend"], sentenceExtend), (["fo", "format"], sentenceFormat),
    (["le", "oletter"], sentenceLetter), (["lf"], .ofText "A"), (["lo", "lower"], sentenceLower),
    (["nu", "numeric"], sentenceNumeric),
    (["sc", "scontinue"], .ofText
      "2C-2D 3A-3B 37E 55D 60C-60D 7F8 1802 1808 2013-2014 3001 FE10-FE11 FE13-FE14 FE31-FE32
       FE50-FE51 FE54-FE55 FE58 FE63 FF0C-FF0D FF1A-FF1B FF64"),
    (["se", "sep"], .ofText "85 2028-2029"),
    (["sp"], whiteSpace.diff (.ofText "A D 85 2028-2029")),
    (["st", "sterm"], sentenceTerminal.diff sentenceStop), (["up", "upper"], sentenceUpper)]

end ValueRules.Unicode
