import PostSieve.Unicode.Property

/-! Where a text may be broken between sentences: the kinds of characters that decide it.
Characters of no kind may be parted from those around them. -/

namespace PostSieve.Unicode

namespace SentenceBreak

/-- Marks that join the character in front of them. -/
def extend : CharSet :=
  .any [Property.graphemeExtend, Category.spacingMark, .single '\u200D']

/-- Format characters that are part of what stands around them. -/
def format : CharSet :=
  .diff Category.format (.ofText "600-605 6DD 890-891 8E2 200C-200D 110BD 110CD E0020-E007F")

/-- Blanks within a line. -/
def blank : CharSet := .diff Property.whiteSpace (.ofText "A D 85 2028-2029")

/-- Small letters; those of Georgian begin sentences too. -/
def lower : CharSet :=
  .diff Property.lowercase (.any [Property.graphemeExtend, .ofText "10D0-10FA 10FD-10FF"])

/-- Capital letters, but for those of Georgian, which mark whole texts. -/
def upper : CharSet :=
  .diff (.any [Category.titlecaseLetter, Property.uppercase]) (.ofText "1C90-1CBA 1CBD-1CBF")

/-- Letters that are neither small nor capital. -/
def otherLetter : CharSet :=
  .diff (.any [Property.alphabetic, .single '\u05F3']) (.any [lower, upper, extend])

/-- Digits, and signs that are read as parts of numbers. -/
def numeric : CharSet :=
  .any [Category.decimalNumber, .ofText "600-605 66B-66C 6DD 890-891 8E2 19DA 110BD 110CD"]

/-- Points, which may end a sentence or belong to a word. -/
def point : CharSet := .ofText "2E 2024 FE52 FF0E"

/-- Quotes and brackets. -/
def closing : CharSet :=
  .diff (.any [Category.openPunctuation, Category.closePunctuation, Category.initialPunctuation,
      Category.finalPunctuation, Property.quotationMark,
      .ofText "275B-2760 2E00-2E01 2E06-2E08 2E0B 1F676-1F678"])
    (.ofText "FF02 FF07")

/-- The kinds under their short and long names. -/
def named : List (List String × CharSet) :=
  [(["cr"], .single '\r'),
    (["lf"], .single '\n'),
    (["se", "sep"], .ofText "85 2028-2029"),
    (["ex", "extend"], extend),
    (["fo", "format"], format),
    (["sp"], blank),
    (["lo", "lower"], lower),
    (["up", "upper"], upper),
    (["le", "oletter"], otherLetter),
    (["nu", "numeric"], numeric),
    (["at", "aterm"], point),
    (["st", "sterm"], .diff Property.sentenceTerminal point),
    (["sc", "scontinue"], .ofText
      "2C-2D 3A-3B 37E 55D 60C-60D 7F8 1802 1808 2013-2014 3001 FE10-FE11 FE13-FE14 FE31-FE32
       FE50-FE51 FE54-FE55 FE58 FE63 FF0C-FF0D FF1A-FF1B FF64"),
    (["cl", "close"], closing)]

end SentenceBreak

end PostSieve.Unicode
