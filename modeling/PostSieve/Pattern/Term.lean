import PostSieve.Pattern.Reading

/-! The meaning of a pattern: what is left of it once its flags have been applied. -/

namespace PostSieve.Pattern

open Unicode

/-- The places that an assertion can ask for. -/
inductive Look
  | textStart | textEnd
  | lineStart | lineEnd
  /-- Lines that a carriage return, a line feed or both end. -/
  | lineStartCrlf | lineEndCrlf
  /-- The places where the word on the left ends or the one on the right begins, as the two tests
  say; words are made of ASCII characters or of all of them. -/
  | word (ascii : Bool) (test : Bool → Bool → Bool)

/-- A pattern that matches without regard to flags. -/
inductive Term
  | empty
  | one (set : CharSet)
  | look (look : Look)
  | seq (a b : Term)
  | alt (a b : Term)
  | group (captures : Bool) (body : Term)
  | repeated (body : Term) (least : Nat) (most : Option Nat)

/-- The flags that matter for the meaning of a pattern. -/
structure Flags where
  ignoreCase : Bool := false
  multiLine : Bool := false
  dotAll : Bool := false
  unicode : Bool := true
  crlf : Bool := false

namespace Flags

def set (flags : Flags) (change : FlagChange) : Flags where
  ignoreCase := (change.value? .ignoreCase).getD flags.ignoreCase
  multiLine := (change.value? .multiLine).getD flags.multiLine
  dotAll := (change.value? .dotAll).getD flags.dotAll
  unicode := (change.value? .unicode).getD flags.unicode
  crlf := (change.value? .crlf).getD flags.crlf

/-- The characters that differ in letter case only, where the flags let it differ. -/
def folding (flags : Flags) : Folding := if flags.unicode then .full else .ascii

/-- The characters that the flags do not tell from `c`. -/
def variants (flags : Flags) (c : Char) : List Char :=
  if flags.ignoreCase then flags.folding.variants c else [c]

/-- The set closed under the variants of its characters. -/
def close (flags : Flags) (set : CharSet) : CharSet :=
  if flags.ignoreCase then .caseless flags.folding set else set

/-- The set or its complement. Where the pattern works on bytes, it must be a set of ASCII
characters: others are no whole characters. -/
def negate (flags : Flags) (negated : Bool) (set : CharSet) : Option CharSet :=
  let set := if negated then .compl set else set
  if flags.unicode || set.isAscii then some set else none

end Flags

/-- The ASCII characters of a class that a letter names. -/
def LetterClass.asciiSet : LetterClass → CharSet
  | digit => .range 0x30 0x39
  | space => .ofText "9-D 20"
  | word => .ofText "30-39 41-5A 5F 61-7A"

/-- The characters of a class that a letter names. -/
def LetterClass.set : LetterClass → CharSet
  | digit => Category.decimalNumber
  | space => Property.whiteSpace
  | word => Property.word

def NamedClass.set : NamedClass → CharSet
  | alnum => .ofText "30-39 41-5A 61-7A"
  | alpha => .ofText "41-5A 61-7A"
  | ascii => .range 0 0x7F
  | blank => .ofText "9 20"
  | cntrl => .ofText "0-1F 7F"
  | digit => .range 0x30 0x39
  | graph => .range 0x21 0x7E
  | lower => .range 0x61 0x7A
  | print => .range 0x20 0x7E
  | punct => .ofText "21-2F 3A-40 5B-60 7B-7E"
  | space => .ofText "9-D 20"
  | upper => .range 0x41 0x5A
  | word => .ofText "30-39 41-5A 5F 61-7A"
  | xdigit => .ofText "30-39 41-46 61-66"

namespace Flags

/-- The set of a class that a letter names. -/
def letterSet (flags : Flags) (kind : LetterClass) (negated : Bool) : Option CharSet :=
  flags.negate negated (if flags.unicode then kind.set else kind.asciiSet)

/-- The set of a property. Bytes have none. -/
def propertySet (flags : Flags) (set : CharSet) (negated : Bool) : Option CharSet :=
  if flags.unicode then flags.negate negated (flags.close set) else none

/-- The code of a literal in a set: a byte beyond ASCII is no character. -/
def literalCode? (flags : Flags) (c : Literal) : Option Nat :=
  if flags.unicode || c.char.toNat < 0x80 then some c.char.toNat else none

end Flags

/-- The set that the contents of brackets mean. -/
def BracketSet.resolve (flags : Flags) : BracketSet → Option CharSet
  | empty => some .none
  | literal c => do
    let code ← flags.literalCode? c
    return .range code code
  | range first last => do
    return .range (← flags.literalCode? first) (← flags.literalCode? last)
  | letter kind negated => flags.letterSet kind negated
  | property set negated => flags.propertySet set negated
  | named kind negated => flags.negate negated (flags.close kind.set)
  | union a b => do
    return .union (← a.resolve flags) (← b.resolve flags)
  | bracket negated set => do
    flags.negate negated (flags.close (← set.resolve flags))
  | combined op a b => do
    let a := flags.close (← a.resolve flags)
    let b := flags.close (← b.resolve flags)
    match op with
    | .intersection => return .inter a b
    | .difference => return .diff a b
    | .symmetricDifference => return .symmDiff a b

/-- The place that an assertion asks for. -/
def Assertion.resolve (flags : Flags) : Assertion → Look
  | lineStart =>
    if !flags.multiLine then .textStart else if flags.crlf then .lineStartCrlf else .lineStart
  | lineEnd =>
    if !flags.multiLine then .textEnd else if flags.crlf then .lineEndCrlf else .lineEnd
  | textStart => .textStart
  | textEnd => .textEnd
  | wordBoundary => .word (!flags.unicode) fun before after => before != after
  | notWordBoundary => .word (!flags.unicode) fun before after => before == after
  | wordStart => .word (!flags.unicode) fun before after => !before && after
  | wordEnd => .word (!flags.unicode) fun before after => before && !after
  | wordStartHalf => .word (!flags.unicode) fun before _ => !before
  | wordEndHalf => .word (!flags.unicode) fun _ after => !after

/-- What the dot matches: any character, but no line end unless the flags say so. -/
def Flags.dotSet (flags : Flags) : Option CharSet :=
  if !flags.unicode then none
  else if flags.dotAll then some .all
  else if flags.crlf then some (.compl (.ofText "A D"))
  else some (.compl (.single '\n'))

/-- Whether a term can match empty texts only. -/
def Term.isZeroWidth : Term → Bool
  | empty => true
  | one _ => false
  | look _ => true
  | seq a b => a.isZeroWidth && b.isZeroWidth
  | alt a b => a.isZeroWidth && b.isZeroWidth
  | group _ body => body.isZeroWidth
  | repeated body _ most => body.isZeroWidth || most == some 0

/-- A repetition; of a term without width one round says all. -/
def Term.repeatedly (body : Term) (least : Nat) (most : Option Nat) : Term :=
  if body.isZeroWidth then .repeated body (min least 1) (some ((most.getD 1).min 1))
  else .repeated body least most

/-- The meaning of a pattern under some flags, and the flags after it. -/
def Tree.resolve : Tree → Flags → Option (Term × Flags)
  | empty, flags => some (.empty, flags)
  | switch change, flags => some (.empty, flags.set change)
  | literal c, flags =>
    if !flags.unicode && c.isByte && 0x80 ≤ c.char.toNat then none
    else some (.one (.any ((flags.variants c.char).map .single)), flags)
  | dot, flags => do return (.one (← flags.dotSet), flags)
  | assertion kind, flags => some (.look (kind.resolve flags), flags)
  | letter kind negated, flags => do return (.one (← flags.letterSet kind negated), flags)
  | property set negated, flags => do return (.one (← flags.propertySet set negated), flags)
  | bracket negated set, flags => do
    return (.one (← flags.negate negated (flags.close (← set.resolve flags))), flags)
  | repeated body least most, flags => do
    let (body, flags) ← body.resolve flags
    return (body.repeatedly least most, flags)
  | group change captures body, flags => do
    let (body, _) ← body.resolve (flags.set change)
    return (.group captures body, flags)
  | concat a b, flags => do
    let (a, flags) ← a.resolve flags
    let (b, flags) ← b.resolve flags
    return (.seq a b, flags)
  | either a b, flags => do
    let (a, flags) ← a.resolve flags
    let (b, flags) ← b.resolve flags
    return (.alt a b, flags)

end PostSieve.Pattern
