import PostSieve.Pattern.Term
import PostSieve.Unicode.Ranges

/-! The room that a pattern takes. A pattern is searched for byte by byte, by an automaton in which
repetitions are written out; a pattern whose automaton would be too large is refused. -/

namespace PostSieve.Pattern

open Unicode

/-- The ranges of bytes, one for each place, that make up the numbers from `first` to `last`, which
have six bits in each byte but the first and `tail` bytes behind it. Together they hold each number
once. -/
def byteRanges : Nat → Nat → Nat → List (List (Nat × Nat))
  | 0, first, last => [[(first, last)]]
  | tail + 1, first, last =>
    let size := Nat.pow 64 (tail + 1)
    let a := first / size
    let b := last / size
    if a = b then (byteRanges tail (first % size) (last % size)).map ((a, a) :: ·)
    else
      let wholeFirst := first % size = 0
      let wholeLast := last % size = size - 1
      let low := if wholeFirst then a else a + 1
      let high := if wholeLast then b + 1 else b
      (if wholeFirst then [] else
        (byteRanges tail (first % size) (size - 1)).map ((a, a) :: ·)) ++
      (if low < high then [(low, high - 1) :: List.replicate (tail + 1) (0, 63)] else []) ++
      (if wholeLast then [] else (byteRanges tail 0 (last % size)).map ((b, b) :: ·))

/-- The codes that are written with one length of bytes: the first and the last, the number of
bytes behind the first one, and the mark of the first one. -/
def byteBlocks : List (Nat × Nat × Nat × Nat) :=
  [(0, 0x7F, 0, 0), (0x80, 0x7FF, 1, 0xC0), (0x800, 0xD7FF, 2, 0xE0), (0xE000, 0xFFFF, 2, 0xE0),
    (0x10000, 0x10FFFF, 3, 0xF0)]

/-- The sequences of ranges of bytes that write the characters of a range. -/
def byteSequences (range : Nat × Nat) : List (List (Nat × Nat)) :=
  byteBlocks.flatMap fun (first, last, tail, mark) =>
    let low := max range.1 first
    let high := min range.2 last
    let base := mark * Nat.pow 64 tail
    if low ≤ high then byteRanges tail (base + low) (base + high) else []

/-- How many ranges two sequences begin with alike. -/
def sharedLength : List (Nat × Nat) → List (Nat × Nat) → Nat
  | a :: as, b :: bs => if a = b then sharedLength as bs + 1 else 0
  | _, _ => 0

/-- The number of states for some sequences, of which each shares those of its beginning with the
one in front of it, the first one with `before`. -/
def stateCount (before : List (Nat × Nat)) : List (List (Nat × Nat)) → Nat
  | [] => 0
  | s :: rest => (s.length - sharedLength before s) + stateCount s rest

def stateRoom : Nat := 32

/-- The room of a transition without a byte, in a state that has several of them. -/
def branchRoom : Nat := 4

/-- The room of a transition by a byte, in a state that has several of them. -/
def byteRoom : Nat := 8

/-- The room that a set takes: a state for each byte of a single character, one state that is left
by a transition for each range of ASCII characters, or a state for each byte in the sequences of
the others, between the two states that they part and meet in. -/
def setRoom (set : CharSet) : Nat :=
  let ranges := set.toRanges
  match ranges with
  | [] => stateRoom
  | [(first, last)] =>
    if first = last then stateRoom * (Char.ofNat first).utf8Size else manyRoom ranges
  | _ => manyRoom ranges
where
  /-- The room for more than one character. -/
  manyRoom (ranges : List (Nat × Nat)) : Nat :=
    if ranges.all (·.2 < 0x80) then 2 * stateRoom + byteRoom * ranges.length
    else
      let sequences := ranges.flatMap byteSequences
      stateRoom * (2 + stateCount [] sequences) + branchRoom * sequences.length

namespace Term

/-- The set that a term amounts to, if it is a choice between single characters. -/
def set? : Term → Option CharSet
  | one set => some set
  | alt a b => do return .union (← a.set?) (← b.set?)
  | _ => none

/-- The term; as one set, if it is a choice between single characters. -/
def merged (term : Term) : Term :=
  match term.set? with
  | some set => .one set
  | none => term

/-- One term and then another; an empty one is left out. -/
def andThen : Term → Term → Term
  | empty, b => b
  | a, empty => a
  | a, b => .seq a b

/-- The term that the automaton is built for: without empty terms next to others, without groups
that capture nothing, and without repetitions that are none. -/
def compact : Term → Term
  | seq a b => a.compact.andThen b.compact
  -- What stands behind the first alternative is no choice of its own, and is not merged alone.
  | alt a b => .alt a.compact b.compact
  | group false body => body.compact.merged
  | group true body => .group true body.compact.merged
  | repeated body least most =>
    if most = some 0 then .empty
    else if least = 1 ∧ most = some 1 then body.compact
    else .repeated body.compact least most
  | term => term

/-- Whether the term cannot match an empty text. -/
def takesText : Term → Bool
  | empty => false
  | one _ => true
  | look _ => false
  | seq a b => a.takesText || b.takesText
  | alt a b => a.takesText && b.takesText
  | group _ body => body.takesText
  | repeated body least _ => least != 0 && body.takesText

/-- The room of a repetition of a term that takes `room`. -/
def repeatedRoom (room : Nat) (takesText : Bool) (least : Nat) (most : Option Nat) : Nat :=
  let choice := stateRoom + 2 * branchRoom
  match most with
  | none =>
    if least = 0 then if takesText then room + choice else room + 2 * choice + stateRoom
    else least * room + choice
  | some most =>
    let needed := if least = 0 then stateRoom else least * room
    if least = most then needed
    else if least = 0 ∧ most = 1 then room + choice + stateRoom
    else needed + stateRoom + (most - least) * (room + choice)

/-- The room of a compact term; of one that is `among` several to choose from, with the transition
to it. A beginning that several of them share counts for each. -/
def room (among : Bool) : Term → Nat
  | empty => stateRoom + step
  | one set => setRoom set + step
  | look _ => stateRoom + step
  | seq a b => a.room false + b.room false + step
  | alt a b => a.room true + b.room true + if among then 0 else 2 * stateRoom
  | group false body => body.room among
  | group true body => body.room false + 2 * stateRoom + step
  | repeated body least most =>
    repeatedRoom (body.room false) body.takesText least most + step
where
  /-- The room of the transition to the term. -/
  step : Nat := if among then branchRoom else 0

/-- The room that is needed beside the one for the term: to begin at any place, to note where the
match is, and to end. -/
def frameRoom : Nat := 6 * stateRoom + 2 * branchRoom + byteRoom

/-- The room that a pattern may take. -/
def maxRoom : Nat := 10 * 1024 * 1024

/-- The meaning of a pattern, if it has one and is not too large. -/
def read? (text : String) : Option Term := do
  let (term, _) ← (← Tree.read? text).resolve {}
  if frameRoom + term.compact.merged.room false ≤ maxRoom then some term else none

end Term

end PostSieve.Pattern
