import PostSieve.Unicode.Property

/-! Where a text may be broken between characters as readers see them: the kinds of characters that
decide it. Characters of no kind may be parted from those around them. -/

namespace PostSieve.Unicode

namespace GraphemeBreak

/-- Marks and modifiers that join the character in front of them. -/
def extend : CharSet :=
  .diff (.any [Property.graphemeExtend, Property.emojiModifier]) (.single '\u200D')

/-- Characters that join the one after them. -/
def prepend : CharSet :=
  .any [Property.prependedConcatenationMark, .ofText
    "D4E 111C2-111C3 113D1 1193F 11941 11A3A 11A84-11A89 11D46 11F02"]

/-- Characters that join none. -/
def control : CharSet :=
  .diff (.any [Category.lineSeparator, Category.paragraphSeparator, Category.control,
      Category.format, .inter Category.unassigned Property.defaultIgnorableCodePoint])
    (.any [Property.prependedConcatenationMark, .ofText "A D 200C-200D E0020-E007F"])

/-- Marks that take up room beside the character in front of them, with two vowels of which the
standard says so. -/
def spacingMark : CharSet :=
  .diff (.any [Category.spacingMark, .ofText "E33 EB3"])
    (.any [extend, .ofText
      "102B-102C 1038 1062-1064 1067-106D 1083 1087-108C 108F 109A-109C 1A61 1A63-1A64 AA7B AA7D
       11720-11721"])

/-- Syllables of Hangul that end in their vowel. -/
def openSyllable : CharSet := .ofText "AC00-D788/1C"

/-- The kinds under their short and long names. -/
def named : List (List String × CharSet) :=
  [(["cr"], .single '\r'),
    (["lf"], .single '\n'),
    (["cn", "control"], control),
    (["ex", "extend"], extend),
    (["zwj"], .single '\u200D'),
    (["ri", "regionalindicator"], Property.regionalIndicator),
    (["pp", "prepend"], prepend),
    (["sm", "spacingmark"], spacingMark),
    (["l"], .ofText "1100-115F A960-A97C"),
    (["v"], .ofText "1160-11A7 D7B0-D7C6 16D63 16D67-16D6A"),
    (["t"], .ofText "11A8-11FF D7CB-D7FB"),
    (["lv"], openSyllable),
    (["lvt"], .diff (.range 0xAC00 0xD7A3) openSyllable)]

end GraphemeBreak

end PostSieve.Unicode
