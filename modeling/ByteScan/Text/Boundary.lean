import ByteScan.Text.Property
import ByteScan.Text.Script

/-!
# Boundaries in texts

A text is divided into clusters, words and sentences by classes of characters. They are as Unicode
16 defines them; characters that belong to no class of a kind are left out.
-/

namespace ByteScan.Text

open Category

/-! ## Clusters -/

namespace Cluster

def prepend : ScalarRanges := .ofText
  "600-605 6dd 70f 890-891 8e2 d4e 110bd 110cd 111c2-111c3 113d1 1193f 11941 11a3a 11a84-11a89
   11d46 11f02"

def extend : ScalarRanges := Property.graphemeExtend.union Property.emojiModifier

def apart : ScalarRanges := .ofText
  "102b-102c 1038 1062-1064 1067-106d 1083 1087-108c 108f 109a-109c 1a61 1a63-1a64 aa7b aa7d
   11720-11721"

def spacingMark : ScalarRanges :=
  ((Category.spacingMark.union (.ofText "e33 eb3")).difference apart).difference extend

def control : ScalarRanges :=
  (ScalarRanges.unions [lineSeparator, paragraphSeparator, Category.control, format,
    unassigned.intersection Property.defaultIgnorable]).difference (.unions [.ofText "a d
    200c-200d", Property.prependedConcatenationMark, extend])

/-- Syllables of two letters: every twenty-eighth syllable. -/
def openSyllables : ScalarRanges :=
  (List.range 399).map fun index => (0xac00 + 28 * index, 0xac00 + 28 * index)

def closedSyllables : ScalarRanges := (ScalarRanges.ofText "ac00-d7a3").difference openSyllables

def byName : List (List String × ScalarRanges) :=
  [(["cn", "control"], control),
   (["cr"], .ofText "d"),
   (["ex", "extend"], extend),
   (["l"], .ofText "1100-115f a960-a97c"),
   (["lf"], .ofText "a"),
   (["lv"], openSyllables),
   (["lvt"], closedSyllables),
   (["pp", "prepend"], prepend),
   (["ri", "regionalindicator"], Property.regionalIndicator),
   (["sm", "spacingmark"], spacingMark),
   (["t"], .ofText "11a8-11ff d7cb-d7fb"),
   (["v"], .ofText "1160-11a7 d7b0-d7c6 16d63 16d67-16d6a"),
   (["zwj"], .ofText "200d")]

end Cluster

/-! ## Words -/

namespace Word

def extend : ScalarRanges :=
  (ScalarRanges.unions [Property.graphemeExtend, Category.spacingMark,
    Property.emojiModifier]).difference (.ofText "200d")

def format : ScalarRanges :=
  (Category.format.difference (.ofText "200b-200d")).difference (Cluster.prepend.union extend)

def katakana : ScalarRanges :=
  ((Script.charactersOf "kana").union (.ofText "3031-3035 309b-309c 30a0 30fc ff70")).difference
    extend

def hebrewLetter : ScalarRanges := (Script.charactersOf "hebr").intersection otherLetter

def undivided : ScalarRanges := .ofText
  "e01-e30 e32-e33 e40-e46 e81-e82 e84 e86-e8a e8c-ea3 ea5 ea7-eb0 eb2-eb3 ebd ec0-ec4 ec6 edc-edf
   1000-102a 103f 1050-1055 105a-105d 1061 1065-1066 106e-1070 1075-1081 108e 1780-17b3 17d7 17dc
   1950-196d 1970-1974 1980-19ab 19b0-19c9 1a20-1a54 1aa7 a9e0-a9e4 a9e6-a9ef a9fa-a9fe aa60-aa76
   aa7a aa7e-aaaf aab1 aab5-aab6 aab9-aabd aac0 aac2 aadb-aadd 11700-1171a 11740-11746"

def likeLetters : ScalarRanges := .ofText
  "2c2-2c5 2d2-2d7 2de-2df 2e5-2eb 2ed 2ef-2ff 55a-55c 55e 58a 5f3 70f a708-a716 a720-a721
   a789-a78a ab5b"

def aLetter : ScalarRanges :=
  (Property.alphabetic.union likeLetters).difference (.unions [Property.ideographic, undivided,
    katakana, extend, hebrewLetter, Script.charactersOf "hira"])

def beforeDigits : ScalarRanges := .ofText "600-605 6dd 890-891 8e2 110bd 110cd"

def numeric : ScalarRanges := .unions [decimalNumber, .ofText "66b", beforeDigits]

def byName : List (List String × ScalarRanges) :=
  [(["cr"], .ofText "d"),
   (["dq", "doublequote"], .ofText "22"),
   (["ex", "extendnumlet"], connectorPunctuation.union (.ofText "202f")),
   (["extend"], extend),
   (["fo", "format"], format),
   (["hl", "hebrewletter"], hebrewLetter),
   (["ka", "katakana"], katakana),
   (["le", "aletter"], aLetter),
   (["lf"], .ofText "a"),
   (["mb", "midnumlet"], .ofText "2e 2018-2019 2024 fe52 ff07 ff0e"),
   (["ml", "midletter"], .ofText "3a b7 387 55f 5f4 2027 fe13 fe55 ff1a"),
   (["mn", "midnum"], .ofText "2c 3b 37e 589 60c-60d 66c 7f8 2044 fe10 fe14 fe50 fe54 ff0c ff1b"),
   (["nl", "newline"], .ofText "b-c 85 2028-2029"),
   (["nu", "numeric"], numeric),
   (["ri", "regionalindicator"], Property.regionalIndicator),
   (["sq", "singlequote"], .ofText "27"),
   (["wsegspace"], spaceSeparator.difference (.ofText "a0 2007 202f")),
   (["zwj"], .ofText "200d")]

end Word

/-! ## Sentences -/

namespace Sentence

def extend : ScalarRanges := .unions [Property.graphemeExtend, Category.spacingMark, .ofText "200d"]

def lower : ScalarRanges :=
  Property.lowercase.difference (Property.graphemeExtend.union (.ofText "10d0-10fa 10fd-10ff"))

def upper : ScalarRanges :=
  (Property.uppercase.union titlecaseLetter).difference (.ofText "1c90-1cba 1cbd-1cbf")

def oLetter : ScalarRanges :=
  (Property.alphabetic.union (.ofText "5f3 70f")).difference (.unions [lower, upper, extend])

def aTerm : ScalarRanges := .ofText "2e 2024 fe52 ff0e"

def format : ScalarRanges :=
  Category.format.difference (.unions [.ofText "200c-200d e0020-e007f 70f", Word.beforeDigits])

def close : ScalarRanges :=
  .unions [openPunctuation, closePunctuation, initialPunctuation, finalPunctuation, .ofText "22 27
    275b-2760 2e00-2e01 2e06-2e08 2e0b 1f676-1f678"]

def sContinue : ScalarRanges := .ofText
  "2c-2d 3a-3b 37e 55d 60c-60d 7f8 1802 1808 2013-2014 3001 fe10-fe11 fe13-fe14 fe31-fe32
   fe50-fe51 fe54-fe55 fe58 fe63 ff0c-ff0d ff1a-ff1b ff64"

def byName : List (List String × ScalarRanges) :=
  [(["at", "aterm"], aTerm),
   (["cl", "close"], close),
   (["cr"], .ofText "d"),
   (["ex", "extend"], extend),
   (["fo", "format"], format),
   (["le", "oletter"], oLetter),
   (["lf"], .ofText "a"),
   (["lo", "lower"], lower),
   (["nu", "numeric"], .unions [decimalNumber, .ofText "66b-66c", Word.beforeDigits]),
   (["sc", "scontinue"], sContinue),
   (["se", "sep"], .ofText "85 2028-2029"),
   (["sp"], Property.whiteSpace.difference (.ofText "a d 85 2028-2029")),
   (["st", "sterm"], Property.sentenceTerminal.difference aTerm),
   (["up", "upper"], upper)]

end Sentence

end ByteScan.Text
