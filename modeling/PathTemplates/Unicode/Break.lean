import PathTemplates.Unicode.Property
import PathTemplates.Unicode.Script

set_option autoImplicit false

/-!
Where text may be divided into clusters, words and sentences: the classes of characters that decide it.
-/

namespace PathTemplates.Unicode.Break

def carriageReturn : CharSet := .table "d"

def lineFeed : CharSet := .table "a"

def joiner : CharSet := .table "200d"

-- Digits, and the signs that stand in front of a number.
def numeral : CharSet :=
  .unions [Category.decimalNumber, Property.prependedConcatenationMark.diff (.table "70f"), .table "19da"]

/-! The classes of grapheme clusters. -/

namespace Cluster

def extend : CharSet := Property.graphemeExtend.union Property.emojiModifier

def control : CharSet :=
  (CharSet.unions [Category.lineSeparator, Category.paragraphSeparator, Category.control, Category.format,
    Category.unassigned.inter Property.defaultIgnorable]).diff
    (.unions [.table "a d 200c-200d", Property.prependedConcatenationMark, extend])

-- Letters that join to the cluster after them.
def leading : CharSet :=
  Property.prependedConcatenationMark.union
    (.table "d4e 111c2-111c3 113d1 1193f 11941 11a3a 11a84-11a89 11d46 11f02")

def spacingMark : CharSet :=
  (Category.spacingMark.union (.table "e33 eb3")).diff
    (extend.union (.table
      "102b-102c 1038 1062-1064 1067-106d 1083 1087-108c 108f 109a-109c 1a61 1a63-1a64 aa7b aa7d 11720-11721"))

-- Syllables of a leading consonant and a vowel.
def openSyllable : CharSet := .table "ac00-d788/1c"

def closedSyllable : CharSet := (CharSet.table "ac00-d7a3").diff openSyllable

def names : List (List String × CharSet) :=
  [
    (["cn", "control"], control),
    (["cr"], carriageReturn),
    (["ex", "extend"], extend),
    (["l"], .table "1100-115f a960-a97c"),
    (["lf"], lineFeed),
    (["lv"], openSyllable),
    (["lvt"], closedSyllable),
    (["pp", "prepend"], leading),
    (["ri", "regionalindicator"], Property.regionalIndicator),
    (["sm", "spacingmark"], spacingMark),
    (["t"], .table "11a8-11ff d7cb-d7fb"),
    (["v"], .table "1160-11a7 d7b0-d7c6 16d63 16d67-16d6a"),
    (["zwj"], joiner)]

def named? : String → Option CharSet := CharSet.named? names

end Cluster

/-! The classes of words. -/

namespace Word

def extend : CharSet :=
  (CharSet.unions [Property.graphemeExtend, Category.spacingMark, Property.emojiModifier]).diff joiner

def format : CharSet :=
  Category.format.diff (.unions [extend, Property.prependedConcatenationMark, .table "200b-200d"])

def hebrewLetter : CharSet := Category.otherLetter.inter ((Script.named? "hebrew").getD .empty)

def katakana : CharSet := .table
  "3031-3035 309b-309c 30a0-30fa 30fc-30ff 31f0-31ff 32d0-32fe 3300-3357 ff66-ff9d 1aff0-1aff3 1aff5-1affb
  1affd-1affe 1b000 1b120-1b122 1b155 1b164-1b167"

-- Letters of scripts that mark no end of a word.
def unspaced : CharSet := .table
  "e01-e3a e40-e4e e81-e82 e84 e86-e8a e8c-ea3 ea5 ea7-ebd ec0-ec4 ec6 ec8-ece edc-edf 1000-103f 1050-108f
  109a-109f 1780-17d3 17d7 17dc-17dd 1950-196d 1970-1974 1980-19ab 19b0-19c9 19da 19de-19df 1a20-1a5e 1a60-1a7c
  1aa0-1aad a9e0-a9ef a9fa-a9fe aa60-aac2 aadb-aadf 11700-1171a 1171d-1172b 1173a-1173b 1173f-11746"

def letter : CharSet :=
  (Property.alphabetic.diff (.unions [Property.ideographic, katakana, (Script.named? "hiragana").getD .empty,
    unspaced, extend, hebrewLetter])).union
    (.table "2c2-2c5 2d2-2d7 2de-2df 2e5-2eb 2ed 2ef-2ff 55a-55c 55e 58a 5f3 70f a708-a716 a720-a721 a789-a78a ab5b")

def names : List (List String × CharSet) :=
  [
    (["cr"], carriageReturn),
    (["dq", "doublequote"], .table "22"),
    (["ex", "extendnumlet"], .table "5f 202f 203f-2040 2054 fe33-fe34 fe4d-fe4f ff3f"),
    (["extend"], extend),
    (["fo", "format"], format),
    (["hl", "hebrewletter"], hebrewLetter),
    (["ka", "katakana"], katakana),
    (["le", "aletter"], letter),
    (["lf"], lineFeed),
    (["mb", "midnumlet"], .table "2e 2018-2019 2024 fe52 ff07 ff0e"),
    (["ml", "midletter"], .table "3a b7 387 55f 5f4 2027 fe13 fe55 ff1a"),
    (["mn", "midnum"], .table "2c 3b 37e 589 60c-60d 66c 7f8 2044 fe50 fe54 ff0c ff1b"),
    (["nl", "newline"], .table "b-c 85 2028-2029"),
    (["nu", "numeric"], numeral.union (.table "66b")),
    (["ri", "regionalindicator"], Property.regionalIndicator),
    (["sq", "singlequote"], .table "27"),
    (["wsegspace"], .table "20 1680 2000-2006 2008-200a 205f 3000"),
    (["zwj"], joiner)]

def named? : String → Option CharSet := CharSet.named? names

end Word

/-! The classes of sentences. -/

namespace Sentence

def extend : CharSet := .unions [Property.graphemeExtend, Category.spacingMark, joiner]

-- Capital letters of scripts whose small letters count as letters of no case.
def uncased : CharSet := .table "10d0-10fa 10fd-10ff 1c90-1cba 1cbd-1cbf"

def lower : CharSet := Property.lowercase.diff (extend.union uncased)

def upper : CharSet := (Category.titlecaseLetter.union Property.uppercase).diff uncased

def letter : CharSet :=
  (Property.alphabetic.union (.table "5f3")).diff (.unions [lower, upper, extend])

def fullStop : CharSet := .table "2e 2024 fe52 ff0e"

def close : CharSet :=
  (CharSet.unions [Category.openPunctuation, Category.closePunctuation, Category.initialPunctuation,
    Category.finalPunctuation, .table "22 27 275b-2760 2e00-2e01 2e06-2e08 2e0b 1f676-1f678"]).diff (.table "5f3")

def names : List (List String × CharSet) :=
  [
    (["at", "aterm"], fullStop),
    (["cl", "close"], close),
    (["cr"], carriageReturn),
    (["ex", "extend"], extend),
    (["fo", "format"], Category.format.diff (.unions [extend, numeral, .table "200c-200d"])),
    (["le", "oletter"], letter),
    (["lf"], lineFeed),
    (["lo", "lower"], lower),
    (["nu", "numeric"], numeral.union (.table "66b-66c")),
    (["sc", "scontinue"], .table
      "2c-2d 3a-3b 37e 55d 60c-60d 7f8 1802 1808 2013-2014 3001 fe10-fe11 fe13-fe14 fe31-fe32 fe50-fe51
      fe54-fe55 fe58 fe63 ff0c-ff0d ff1a-ff1b ff64"),
    (["se", "sep"], .table "85 2028-2029"),
    (["sp"], .table "9 b-c 20 a0 1680 2000-200a 202f 205f 3000"),
    (["st", "sterm"], Property.sentenceTerminal.diff fullStop),
    (["up", "upper"], upper)]

def named? : String → Option CharSet := CharSet.named? names

end Sentence

end PathTemplates.Unicode.Break
