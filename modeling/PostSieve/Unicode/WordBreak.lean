import PostSieve.Unicode.Property
import PostSieve.Unicode.Script

/-! Where a text may be broken between words: the kinds of characters that decide it. Characters of
no kind may be parted from those around them. -/

namespace PostSieve.Unicode

namespace WordBreak

/-- Marks and modifiers that join the character in front of them. -/
def extend : CharSet :=
  .diff (.any [Property.graphemeExtend, Category.spacingMark, Property.emojiModifier])
    (.single '\u200D')

/-- Format characters that are part of what stands around them. -/
def format : CharSet :=
  .diff Category.format
    (.any [extend, .ofText "600-605 6DD 70F 890-891 8E2 200B-200D 110BD 110CD"])

/-- Katakana and the signs that go with them. -/
def katakana : CharSet :=
  .any [Script.charactersOf "katakana", .ofText "3031-3035 309B-309C 30A0 30FC FF70"]

def hebrewLetter : CharSet := .inter (Script.charactersOf "hebrew") Category.otherLetter

/-- Letters of languages that write their words without blanks between them. -/
def unspacedLetter : CharSet := .ofText
    "E01-E30 E32-E33 E40-E46 E81-E82 E84 E86-E8A E8C-EA3 EA5 EA7-EB0 EB2-EB3 EBD EC0-EC4 EC6
     EDC-EDF 1000-102A 103F 1050-1055 105A-105D 1061 1065-1066 106E-1070 1075-1081 108E 1780-17B3
     17D7 17DC 1950-196D 1970-1974 1980-19AB 19B0-19C9 1A20-1A54 1AA7 A9E0-A9E4 A9E6-A9EF A9FA-A9FE
     AA60-AA76 AA7A AA7E-AAAF AAB1 AAB5-AAB6 AAB9-AABD AAC0 AAC2 AADB-AADD 11700-1171A 11740-11746"

/-- Signs that are read as letters. -/
def letterSign : CharSet := .ofText
    "2C2-2C5 2D2-2D7 2DE-2DF 2E5-2EB 2ED 2EF-2FF 55A-55C 55E 58A 5F3 70F A708-A716 A720-A721
     A789-A78A AB5B"

/-- Letters of alphabets and syllabaries, of which words are made. -/
def letter : CharSet :=
  .any [letterSign, .diff Property.alphabetic
    (.any [Property.ideographic, katakana, hebrewLetter, Script.charactersOf "hiragana", extend,
      unspacedLetter])]

/-- Digits, and signs that are read as parts of numbers. -/
def numeric : CharSet :=
  .any [Category.decimalNumber, .ofText "600-605 66B 6DD 890-891 8E2 19DA 110BD 110CD"]

/-- The kinds under their short and long names. -/
def named : List (List String × CharSet) :=
  [(["cr"], .single '\r'),
    (["lf"], .single '\n'),
    (["nl", "newline"], .ofText "B-C 85 2028-2029"),
    (["extend"], extend),
    (["zwj"], .single '\u200D'),
    (["fo", "format"], format),
    (["ri", "regionalindicator"], Property.regionalIndicator),
    (["ka", "katakana"], katakana),
    (["hl", "hebrewletter"], hebrewLetter),
    (["le", "aletter"], letter),
    (["sq", "singlequote"], .single '\''),
    (["dq", "doublequote"], .single '"'),
    (["mb", "midnumlet"], .ofText "2E 2018-2019 2024 FE52 FF07 FF0E"),
    (["ml", "midletter"], .ofText "3A B7 387 55F 5F4 2027 FE13 FE55 FF1A"),
    (["mn", "midnum"], .ofText
      "2C 3B 37E 589 60C-60D 66C 7F8 2044 FE50 FE54 FF0C FF1B"),
    (["nu", "numeric"], numeric),
    (["ex", "extendnumlet"], .any [Category.connectorPunctuation, .single '\u202F']),
    (["wsegspace"], .diff Category.spaceSeparator (.ofText "A0 2007 202F"))]

end WordBreak

end PostSieve.Unicode
