import PostSieve.Unicode.Property
import PostSieve.Unicode.Script

/-! Text patterns as they are written: the parts of a pattern, before flags give them their
meaning. -/

namespace PostSieve.Pattern

open Unicode

/-- What can be switched on and off within a pattern. -/
inductive Flag
  | ignoreCase
  /-- `^` and `$` hold at the ends of lines. -/
  | multiLine
  /-- The dot matches line ends too. -/
  | dotAll
  /-- `*` and `*?` change places. -/
  | swapGreed
  | unicode
  /-- A carriage return ends a line too. -/
  | crlf
  /-- Blanks and comments in the pattern mean nothing. -/
  | verbose
deriving DecidableEq, Repr

/-- Flags that are set, with the new value of each. -/
abbrev FlagChange := List (Flag × Bool)

/-- The value that a change gives to a flag, if it does. -/
def FlagChange.value? (change : FlagChange) (flag : Flag) : Option Bool :=
  (change.find? (·.1 == flag)).map (·.2)

/-- A character as written; `isByte` when it is given as a byte, by two hexadecimal digits. -/
structure Literal where
  char : Char
  isByte : Bool := false
deriving DecidableEq, Repr

/-- The classes that a single letter after a backslash names. -/
inductive LetterClass
  | digit | space | word
deriving DecidableEq, Repr

/-- The classes that a name in `[:name:]` gives. -/
inductive NamedClass
  | alnum | alpha | ascii | blank | cntrl | digit | graph | lower | print | punct | space | upper
  | word | xdigit
deriving DecidableEq, Repr

/-- The operations on sets within brackets. -/
inductive SetOp
  | intersection | difference | symmetricDifference
deriving DecidableEq, Repr

/-- What stands within brackets. -/
inductive BracketSet
  | empty
  | literal (c : Literal)
  | range (first last : Literal)
  | letter (kind : LetterClass) (negated : Bool)
  /-- A set that a property of characters gives. -/
  | property (set : CharSet) (negated : Bool)
  | named (kind : NamedClass) (negated : Bool)
  | union (a b : BracketSet)
  | bracket (negated : Bool) (set : BracketSet)
  | combined (op : SetOp) (a b : BracketSet)

/-- The conditions on a place between two characters. -/
inductive Assertion
  | lineStart | lineEnd | textStart | textEnd
  | wordBoundary | notWordBoundary
  | wordStart | wordEnd | wordStartHalf | wordEndHalf
deriving DecidableEq, Repr

/-- A pattern as written. -/
inductive Tree
  | empty
  | switch (change : FlagChange)
  | literal (c : Literal)
  | dot
  | assertion (kind : Assertion)
  | letter (kind : LetterClass) (negated : Bool)
  | property (set : CharSet) (negated : Bool)
  | bracket (negated : Bool) (set : BracketSet)
  /-- From `least` to `most` times, without end if there is no `most`. -/
  | repeated (body : Tree) (least : Nat) (most : Option Nat)
  | group (change : FlagChange) (captures : Bool) (body : Tree)
  | concat (a b : Tree)
  | either (a b : Tree)

end PostSieve.Pattern
