import PostSieve.Calendar.Timestamp
import PostSieve.Pattern.Basic
import PostSieve.Post
import PostSieve.Rule.Token
import PostSieve.Text.Quoted

/-! Criteria: the tests that a condition makes of a post. -/

namespace PostSieve.Rule

open Calendar (Instant)

inductive Comparator
  | gt | ge | lt | le | eq | ne
deriving DecidableEq, Repr

namespace Comparator

/-- The comparison that an operator stands for. -/
def ofToken? : TokenKind → Option Comparator
  | .gt => some gt
  | .ge => some ge
  | .lt => some lt
  | .le => some le
  | .eq => some eq
  | .ne => some ne
  | _ => none

def token : Comparator → TokenKind
  | gt => .gt
  | ge => .ge
  | lt => .lt
  | le => .le
  | eq => .eq
  | ne => .ne

theorem ofToken?_token (c : Comparator) : ofToken? c.token = some c := by cases c <;> rfl

def text (c : Comparator) : String := c.token.text

/-- Whether the comparison holds between two counts. -/
def holds : Comparator → UInt64 → UInt64 → Bool
  | gt, a, b => b < a
  | ge, a, b => b ≤ a
  | lt, a, b => a < b
  | le, a, b => a ≤ b
  | eq, a, b => a == b
  | ne, a, b => a != b

end Comparator

/-- A bound on a count, such as `>= 10`. -/
structure CountBound where
  comparator : Comparator
  threshold : UInt64
deriving DecidableEq, Repr

/-- Whether a count keeps to the bound. -/
def CountBound.admits (b : CountBound) (count : UInt64) : Bool :=
  b.comparator.holds count b.threshold

/-- A pattern that a text must match, or must not if `inverted`. -/
structure TextTest where
  pattern : Pattern
  inverted : Bool
deriving DecidableEq

def TextTest.admits (t : TextTest) (text : String) : Bool := t.pattern.isMatch text != t.inverted

def TextTest.text (t : TextTest) : String :=
  let op := if t.inverted then TokenKind.lacks else TokenKind.finds
  s!"text {op.text} /{t.pattern.source}/"

def occursIn (part : List Char) : List Char → Bool
  | [] => part.isEmpty
  | c :: text => part.isPrefixOf (c :: text) || occursIn part text

/-- The tests that a condition makes; a test that is absent admits every post. -/
structure Criteria where
  /-- Created strictly before this instant. -/
  before : Option Instant := none
  /-- Created strictly after this instant. -/
  after : Option Instant := none
  matching : Option TextTest := none
  /-- The text contains this one. -/
  containing : Option String := none
  likes : Option CountBound := none
  retweets : Option CountBound := none
deriving DecidableEq

namespace Criteria

def isEmpty (c : Criteria) : Bool :=
  c.before.isNone && c.after.isNone && c.matching.isNone && c.containing.isNone &&
    c.likes.isNone && c.retweets.isNone

/-- Whether a post passes every test. -/
def admits (c : Criteria) (post : Post) : Bool :=
  c.before.all (post.createdAt < ·) && c.after.all (· < post.createdAt) &&
    c.matching.all (·.admits post.text) &&
    c.containing.all (fun part => occursIn part.toList post.text.toList) &&
    c.likes.all (·.admits post.likes) && c.retweets.all (·.admits post.retweets)

def parts (c : Criteria) : List String :=
  (c.before.map fun t => s!"created < {t.text}").toList ++
  (c.after.map fun t => s!"created > {t.text}").toList ++
  (c.matching.map TextTest.text).toList ++
  (c.containing.map fun part => s!"text contains {quoted part}").toList ++
  (c.likes.map fun b => s!"likes {b.comparator.text} {b.threshold.toNat}").toList ++
  (c.retweets.map fun b => s!"retweets {b.comparator.text} {b.threshold.toNat}").toList

/-- The tests in words, `(any)` if there are none. -/
def text (c : Criteria) : String :=
  if c.isEmpty then "(any)" else ", ".intercalate c.parts

end Criteria

end PostSieve.Rule
