import PostSieve.Pattern.Term

/-! Searching a text for a pattern in one pass: the characters of the pattern that the last
character of the text may stand for are marked, and each character of the text moves the marks. -/

namespace PostSieve.Pattern

open Unicode

/-- A place between two characters of a text. -/
structure Place where
  before : Option Char
  after : List Char

namespace Place

/-- Whether a character belongs to a word. -/
def isWordChar (ascii : Bool) (c : Char) : Bool :=
  if ascii then LetterClass.word.asciiSet.contains c else Property.word.contains c

/-- Whether the place is one that `look` asks for. -/
def satisfies (place : Place) : Look → Bool
  | .textStart => place.before.isNone
  | .textEnd => place.after.isEmpty
  | .lineStart => place.before.all (· == '\n')
  | .lineEnd => place.after.head?.all (· == '\n')
  | .lineStartCrlf =>
    match place.before with
    | none => true
    | some '\n' => true
    | some '\r' => place.after.head? != some '\n'
    | _ => false
  | .lineEndCrlf =>
    match place.after with
    | [] => true
    | '\r' :: _ => true
    | '\n' :: _ => place.before != some '\r'
    | _ => false
  | .word ascii test =>
    test (place.before.any (isWordChar ascii)) (place.after.head?.any (isWordChar ascii))

end Place

/-- A term with marks on the sets of characters that may have matched last. -/
inductive Matcher
  | empty
  | one (set : CharSet) (marked : Bool)
  | look (look : Look)
  | seq (a b : Matcher)
  | alt (a b : Matcher)
  /-- One or more rounds. -/
  | rounds (body : Matcher)

namespace Matcher

/-- `n` copies in a row. -/
def copies (m : Matcher) (n : Nat) : Matcher :=
  if n = 0 then .empty
  else if n = 1 then m
  else .seq (copies m (n / 2)) (copies m (n - n / 2))
termination_by n

/-- Whether the matcher matches an empty text at the place. -/
def nullable (place : Place) : Matcher → Bool
  | empty => true
  | one _ _ => false
  | look l => place.satisfies l
  | seq a b => a.nullable place && b.nullable place
  | alt a b => a.nullable place || b.nullable place
  | rounds body => body.nullable place

/-- Whether the end of the matcher can be reached from a mark, at the place after the mark. -/
def final (place : Place) : Matcher → Bool
  | empty => false
  | one _ marked => marked
  | look _ => false
  | seq a b => b.final place || (a.final place && b.nullable place)
  | alt a b => a.final place || b.final place
  | rounds body => body.final place

/-- The marks after the character `c` at the place, `enter` telling whether the matcher may begin
there. -/
def advance (place : Place) (c : Char) : Bool → Matcher → Matcher
  | _, empty => .empty
  | enter, one set _ => .one set (enter && set.contains c)
  | _, look l => .look l
  | enter, seq a b =>
    .seq (a.advance place c enter)
      (b.advance place c ((enter && a.nullable place) || a.final place))
  | enter, alt a b => .alt (a.advance place c enter) (b.advance place c enter)
  | enter, rounds body => .rounds (body.advance place c (enter || body.final place))

/-- Whether a match ends at the place of `before` in front of the text, or later; it may begin at
any place. -/
def search (before : Option Char) (text : List Char) (m : Matcher) : Bool :=
  let place : Place := ⟨before, text⟩
  m.nullable place || m.final place ||
    match text with
    | [] => false
    | c :: text => search (some c) text (m.advance place c true)

end Matcher

/-- The matcher of a term, without marks. -/
def Term.matcher : Term → Matcher
  | empty => .empty
  | one set => .one set false
  | look l => .look l
  | seq a b => .seq a.matcher b.matcher
  | alt a b => .alt a.matcher b.matcher
  | group _ body => body.matcher
  | repeated body least most =>
    let m := body.matcher
    match most with
    | none =>
      if least = 0 then .alt .empty (.rounds m)
      else .seq (m.copies (least - 1)) (.rounds m)
    | some most => .seq (m.copies least) ((Matcher.alt .empty m).copies (most - least))

end PostSieve.Pattern
