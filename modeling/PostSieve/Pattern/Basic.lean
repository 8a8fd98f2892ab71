import PostSieve.Pattern.Matcher
import PostSieve.Pattern.Room

/-! Text patterns: a source text that means something, and what it matches. -/

namespace PostSieve

/-- A pattern that can be searched for. Its meaning is that of its source. -/
structure Pattern where
  source : String
  term : Pattern.Term
  term_eq : Pattern.Term.read? source = some term

namespace Pattern

/-- The pattern that a text means, if it means one. -/
def read? (source : String) : Option Pattern :=
  match h : Term.read? source with
  | some term => some ⟨source, term, h⟩
  | none => none

/-- Patterns of one source are the same. -/
theorem eq_of_source {p q : Pattern} (h : p.source = q.source) : p = q := by
  obtain ⟨s, t, ht⟩ := p
  obtain ⟨s', t', ht'⟩ := q
  cases h
  rw [ht, Option.some.injEq] at ht'
  cases ht'
  rfl

instance : DecidableEq Pattern := fun p q =>
  if h : p.source = q.source then isTrue (eq_of_source h)
  else isFalse fun e => h (e ▸ rfl)

/-- Whether the pattern matches some part of the text. -/
def isMatch (p : Pattern) (text : String) : Bool :=
  p.term.matcher.search none text.toList

end Pattern

end PostSieve
