import Chip8.Character.Feature

/-!
# Segments of texts

The parts that characters play where a text is cut into clusters, words and
sentences.
-/

namespace Chip8.Character

/-! ### Clusters -/

/-- Characters that only format and yet do not end a cluster. -/
def clusterSmall : CharSet :=
  .listing ["A D 600-605 6DD 70F 890-891 8E2 200C-200D 110BD 110CD E0020-E007F"]

/-- Characters that end a cluster. -/
def clusterControl : CharSet :=
  (CharSet.unions [lineSeparator, paragraphSeparator, control, format,
    unassigned.inter defaultIgnorable]).diff clusterSmall

/-- Characters that go on with a cluster. -/
def clusterExtend : CharSet := graphemeExtend.union emojiModifier

/-- Marks that do not go on with a cluster, or do so in another part. -/
def clusterApart : CharSet := .listing
  ["9BE 9D7 B3E B57 BBE BD7 CC0 CC2 CC7-CC8 CCA-CCB CD5-CD6 D3E D57 DCF DDF 102B-102C 1038",
    "1062-1064 1067-106D 1083 1087-108C 108F 109A-109C 1715 1734 1A61 1A63-1A64 1B35 1B3B",
    "1B3D 1B43-1B44 1BAA 1BF2-1BF3 302E-302F A953 A9C0 AA7B AA7D 111C0 11235 1133E 1134D",
    "11357 113B8 113C2 113C5 113C7-113C9 113CF 114B0 114BD 115AF 116B6 11720-11721 11930",
    "1193D 11F41 16FF0-16FF1 1D165-1D166 1D16D-1D172"]

/-- Marks with room of their own that go on with a cluster. -/
def clusterSpacingMark : CharSet := (spacingMark.diff clusterApart).union (.ofPoints [0xE33, 0xEB3])

/-- Characters that a cluster goes on after. -/
def clusterPrepend : CharSet := .listing
  ["600-605 6DD 70F 890-891 8E2 D4E 110BD 110CD 111C2-111C3 113D1 1193F 11941 11A3A",
    "11A84-11A89 11D46 11F02"]

/-- Leading consonants of Hangul. -/
def leadingJamo : CharSet := .listing ["1100-115F A960-A97C"]

/-- Vowels of Hangul. -/
def vowelJamo : CharSet := .listing ["1160-11A7 D7B0-D7C6 16D63 16D67-16D6A"]

/-- Trailing consonants of Hangul. -/
def trailingJamo : CharSet := .listing ["11A8-11FF D7CB-D7FB"]

/-- Syllables of Hangul without a trailing consonant: every 28th. -/
def openSyllable : CharSet := .ofPoints ((List.range 399).map fun i => 0xAC00 + 28 * i)

/-- Syllables of Hangul with a trailing consonant. -/
def closedSyllable : CharSet := (CharSet.range 0xAC00 0xD7A3).diff openSyllable

/-! ### Words -/

/-- Characters that go on with a word. -/
def wordExtend : CharSet :=
  (CharSet.unions [graphemeExtend, spacingMark, emojiModifier]).diff (.range 0x200D 0x200D)

/-- Characters that only format but have another part in words. -/
def wordVisible : CharSet :=
  .listing ["600-605 6DD 70F 890-891 8E2 200B-200D 110BD 110CD E0020-E007F"]

/-- Characters that only format. -/
def wordFormat : CharSet := format.diff wordVisible

/-- Katakana and what goes with it. -/
def wordKatakana : CharSet := .listing
  ["3031-3035 309B-309C 30A0-30FA 30FC-30FF 31F0-31FF 32D0-32FE 3300-3357 FF66-FF9D",
    "1AFF0-1AFF3 1AFF5-1AFFB 1AFFD-1AFFE 1B000 1B120-1B122 1B155 1B164-1B167"]

/-- Letters of Hebrew. -/
def hebrewLetter : CharSet :=
  .listing ["5D0-5EA 5EF-5F2 FB1D FB1F-FB28 FB2A-FB36 FB38-FB3C FB3E FB40-FB41 FB43-FB44 FB46-FB4F"]

/-- Connectors of letters and digits. -/
def extendNumLet : CharSet := .listing ["5F 202F 203F-2040 2054 FE33-FE34 FE4D-FE4F FF3F"]

/-- Punctuation between letters. -/
def midLetter : CharSet := .listing ["3A B7 387 55F 5F4 2027 FE13 FE55 FF1A"]

/-- Punctuation between digits. -/
def midNum : CharSet := .listing ["2C 3B 37E 589 60C-60D 66C 7F8 2044 FE50 FE54 FF0C FF1B"]

/-- Punctuation between letters or digits. -/
def midNumLet : CharSet := .listing ["2E 2018-2019 2024 FE52 FF07 FF0E"]

/-- Spaces that hold together. -/
def wordSpace : CharSet := .listing ["20 1680 2000-2006 2008-200A 205F 3000"]

/-- Letters, and other signs taken for them, of languages that put no blanks
between words. -/
def unspaced : CharSet := .listing
  ["E01-E30 E32-E33 E40-E46 E81-E82 E84 E86-E8A E8C-EA3 EA5 EA7-EB0 EB2-EB3 EBD EC0-EC4 EC6",
    "EDC-EDF 1000-102A 103F 1050-1055 105A-105D 1061 1065-1066 106E-1070 1075-1081 108E",
    "1780-17B3 17D7 17DC 1950-196D 1970-1974 1980-19AB 19B0-19C9 1A20-1A54 1AA7 A9E0-A9E4",
    "A9E6-A9EF A9FA-A9FE AA60-AA76 AA7A AA7E-AAAF AAB1 AAB5-AAB6 AAB9-AABD AAC0 AAC2",
    "AADB-AADD 11700-1171A 11740-11746"]

/-- Characters like letters in words. -/
def likeLetters : CharSet := .listing
  ["2C2-2C5 2D2-2D7 2DE-2DF 2E5-2EB 2ED 2EF-2FF 55A-55C 55E 58A 5F3 70F A708-A716 A720-A721",
    "A789-A78A AB5B"]

/-- Hiragana. -/
def wordHiragana : CharSet := .listing ["3041-3096 309D-309F 1B001-1B11F 1B132 1B150-1B152 1F200"]

/-- Letters of words. -/
def wordLetter : CharSet :=
  (alphabetic.diff (.unions [ideographic, wordKatakana, wordHiragana, wordExtend, hebrewLetter,
    unspaced])).union likeLetters

/-- Characters like digits in words. -/
def likeDigits : CharSet := .listing ["600-605 66B 6DD 890-891 8E2 19DA 110BD 110CD"]

/-- Digits in words. -/
def wordNumeric : CharSet := decimalNumber.union likeDigits

/-- Ends of lines that are no carriage return and no line feed. -/
def newline : CharSet := .listing ["B-C 85 2028-2029"]

/-! ### Sentences -/

/-- Characters that go on with a sentence as they are. -/
def sentenceExtend : CharSet :=
  .unions [graphemeExtend, spacingMark, .range 0x200D 0x200D]

/-- Characters that only format but have another part in sentences. -/
def sentenceVisible : CharSet :=
  .listing ["600-605 6DD 890-891 8E2 200C-200D 110BD 110CD E0020-E007F"]

/-- Characters that only format. -/
def sentenceFormat : CharSet := format.diff sentenceVisible

/-- Small letters of sentences; those of Georgian do not count. -/
def sentenceLower : CharSet :=
  (lowercase.diff graphemeExtend).diff (.listing ["10D0-10FA 10FD-10FF"])

/-- Capital letters of sentences; those of Georgian do not count. -/
def sentenceUpper : CharSet :=
  (uppercase.union titlecaseLetter).diff (.listing ["1C90-1CBA 1CBD-1CBF"])

/-- Letters of sentences without case. -/
def sentenceLetter : CharSet :=
  (alphabetic.union (.range 0x5F3 0x5F3)).diff
    (.unions [sentenceLower, sentenceUpper, sentenceExtend])

/-- Digits in sentences. -/
def sentenceNumeric : CharSet := wordNumeric.union (.range 0x66C 0x66C)

/-- Full stops, which end sentences, abbreviations and more. -/
def fullStop : CharSet := .ofPoints [0x2E, 0x2024, 0xFE52, 0xFF0E]

/-- Signs that end sentences. -/
def sentenceEnd : CharSet := sentenceTerminal.diff fullStop

/-- Brackets and quotation marks. -/
def sentenceClose : CharSet := .listing
  ["22 27-29 5B 5D 7B 7D AB BB F3A-F3D 169B-169C 2018-201F 2039-203A 2045-2046 207D-207E",
    "208D-208E 2308-230B 2329-232A 275B-2760 2768-2775 27C5-27C6 27E6-27EF 2983-2998",
    "29D8-29DB 29FC-29FD 2E00-2E0D 2E1C-2E1D 2E20-2E29 2E42 2E55-2E5C 3008-3011 3014-301B",
    "301D-301F FD3E-FD3F FE17-FE18 FE35-FE44 FE47-FE48 FE59-FE5E FF08-FF09 FF3B FF3D FF5B",
    "FF5D FF5F-FF60 FF62-FF63 1F676-1F678"]

/-- Punctuation inside sentences. -/
def sentenceContinue : CharSet := .listing
  ["2C-2D 3A-3B 37E 55D 60C-60D 7F8 1802 1808 2013-2014 3001 FE10-FE11 FE13-FE14 FE31-FE32",
    "FE50-FE51 FE54-FE55 FE58 FE63 FF0C-FF0D FF1A-FF1B FF64"]

/-- Blanks inside a line. -/
def sentenceSpace : CharSet := .listing ["9 B-C 20 A0 1680 2000-200A 202F 205F 3000"]

/-- Ends of lines that are no carriage return and no line feed. -/
def sentenceSeparator : CharSet := .ofPoints [0x85, 0x2028, 0x2029]

end Chip8.Character
