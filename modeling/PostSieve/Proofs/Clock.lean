import PostSieve.Proofs.PassingTime
import PostSieve.Proofs.Spacing

/-! The moment at which a rule is read: it matters to literals that are ages and to nothing else. A
text without ages is read alike at all moments, and what a text with ages is read as at two moments
differs in the instants that the ages lead back to. -/

namespace PostSieve.Rule

open Calendar (Instant Age)

/-! ### Conditions -/

/-- The same tests with another instant in place of those that times are compared with. -/
def Criteria.withInstant (t : Instant) (tests : Criteria) : Criteria :=
  { tests with before := tests.before.map fun _ => t, after := tests.after.map fun _ => t }

theorem Criteria.withInstant_ofBound (isBefore : Prop) [Decidable isBefore] (s t : Instant) :
    (ofBound isBefore s).withInstant t = ofBound isBefore t := by
  unfold ofBound
  split <;> rfl

section Conditions

variable {field : Field} (now now' : Instant) {op : TokenKind} {value : String}

theorem Field.criteria_eq_of_ne_age (h : field ≠ age) :
    field.criteria now' op value = field.criteria now op value := by
  cases field with
  | age => exact absurd rfl h
  | created | text | likes | retweets => rfl

theorem conditionOf_eq_of_ne_age {name opToken literal : Token} (h : literal.kind ≠ .age) :
    conditionOf now' name opToken literal = conditionOf now name opToken literal := by
  unfold conditionOf
  cases Field.ofName? name.value with
  | none => rfl
  | some field =>
    by_cases hKind : literal.kind = field.literal
    · have hField : field ≠ .age := by
        rintro rfl
        exact h hKind
      simp only [field.criteria_eq_of_ne_age now now' hField]
    · simp only [ne_eq, hKind, not_false_eq_true, if_true]

end Conditions

/-! ### Texts without ages -/

/-- Whether two tokens are the same one, and no age. -/
def SameButNoAge (token token' : Token) : Prop := token' = token ∧ token.kind ≠ .age

theorem Token.movedTo_self (token : Token) : token.movedTo token.position = token := rfl

theorem RuleError.movedTo_self (e : RuleError) : e.movedTo e.position = e := by cases e <;> rfl

theorem corresponds_sameButNoAge : Corresponds SameButNoAge := by
  rintro _ token ⟨rfl, -⟩
  exact token.movedTo_self.symm

/-- Errors that are alike about the same tokens are the same. -/
theorem RuleError.Alike.eq {e e' : RuleError} (h : e.Alike SameButNoAge e') : e' = e := by
  obtain ⟨token, _, ⟨rfl, -⟩, hPosition, rfl⟩ := h
  rw [← hPosition, e.movedTo_self]

theorem meansAlike_sameButNoAge (now now' : Instant) : MeansAlike SameButNoAge now now' := by
  intro name name' op op' literal literal' hName hOp hLiteral
  have hKind : literal'.kind ≠ .age := hLiteral.1 ▸ hLiteral.2
  rw [conditionOf_eq_of_ne_age now now' hKind]
  exact conditionOf_alike corresponds_sameButNoAge now _ _ _ _ _ _ hName hOp hLiteral

theorem TokenStream.alike_self {stream : TokenStream}
    (h : ∀ token ∈ stream.tokens, token.kind ≠ .age) : stream.Alike SameButNoAge stream where
  tokens := List.forall₂_same.mpr fun token hToken => ⟨rfl, h token hToken⟩
  ending := by cases stream.ending <;> rfl
  last := ⟨rfl, nofun⟩

theorem checkParens_both_self (text : String) : Both (RuleError.Alike SameButNoAge)
    (fun _ _ => True) (checkParens text) (checkParens text) := by
  cases checkParens text with
  | ok _ => exact .ok trivial
  | error e =>
    exact .error ⟨.endAt e.position, .endAt e.position, ⟨rfl, nofun⟩, rfl, e.movedTo_self.symm⟩

theorem read_eq_of_no_age {options : Options} {text : String} (now' : Instant)
    (h : ∀ token ∈ (TokenStream.ofText text).tokens, token.kind ≠ .age) :
    Rule.read { options with now := now' } text = Rule.read options text := by
  have hAlike := read_alike corresponds_sameButNoAge (meansAlike_sameButNoAge options.now now')
    (TokenStream.alike_self h) (checkParens_both_self text)
  generalize hRead : Rule.read options text = result at hAlike
  generalize hRead' : Rule.read { options with now := now' } text = result' at hAlike
  cases hAlike with
  | error hError => rw [hError.eq]
  | @ok rule rule' hRule =>
    obtain ⟨-, p, hp⟩ := read_sound hRead
    obtain ⟨-, p', hp'⟩ := read_sound hRead'
    have hSource : rule'.source = rule.source := hp'.source_eq.trans hp.source_eq.symm
    cases rule
    cases rule'
    rw [Except.ok.injEq, Rule.mk.injEq]
    exact ⟨hRule.1, hRule.2, hSource⟩

/-! ### Texts with ages -/

/-- The same tree with another instant in place of those of its conditions on ages. -/
def Tree.withAgesAt (t : Instant) : Tree → Tree
  | condition field op tests =>
    condition field op (if field = .age then tests.withInstant t else tests)
  | join op left right => join op (left.withAgesAt t) (right.withAgesAt t)

theorem Phrase.Means.withAgesAt_eq {level : Level} {p : Phrase level} {now now' : Instant}
    {tree tree' : Tree} (h : p.Means now tree) (h' : p.Means now' tree') (t : Instant) :
    tree'.withAgesAt t = tree.withAgesAt t := by
  induction p generalizing tree tree' with
  | condition c =>
    obtain ⟨field, tests, hField, -, -, hTests, rfl⟩ := h
    obtain ⟨field', tests', hField', -, -, hTests', rfl⟩ := h'
    obtain rfl : field = field' := Option.some.inj (hField.symm.trans hField')
    by_cases hAge : field = .age
    · subst hAge
      obtain ⟨s, -, rfl⟩ := Field.criteria_age.mp hTests
      obtain ⟨s', -, rfl⟩ := Field.criteria_age.mp hTests'
      rw [Tree.withAgesAt, Tree.withAgesAt, if_pos rfl, if_pos rfl, Criteria.withInstant_ofBound,
        Criteria.withInstant_ofBound]
    · rw [Field.criteria_eq_of_ne_age now now' hAge, hTests] at hTests'
      obtain rfl : tests = tests' := Except.ok.inj hTests'
      rfl
  | group inner ih => exact ih h h'
  | single operand ih => exact ih h h'
  | joined first join rest ihFirst ihRest =>
    obtain ⟨left, right, hLeft, hRight, rfl⟩ := h
    obtain ⟨left', right', hLeft', hRight', rfl⟩ := h'
    rw [Tree.withAgesAt, Tree.withAgesAt, ihFirst hLeft hLeft', ihRest hRight hRight']

/-- A rule depends on the moment at which it is read through its ages alone. A text without ages, be
it a rule or not, gives the same at all moments. Any text that is a rule at two moments gives two
trees that become the same with one instant in place of those of the conditions on ages, from as
many nodes. -/
theorem read_clock (options : Options) (text : String) (now' : Instant) :
    ((∀ token ∈ (TokenStream.ofText text).tokens, token.kind ≠ .age) →
      Rule.read { options with now := now' } text = Rule.read options text) ∧
    ∀ rule rule', Rule.read options text = .ok rule →
      Rule.read { options with now := now' } text = .ok rule' →
        rule'.nodeCount = rule.nodeCount ∧ rule'.source = rule.source ∧
          ∀ t, rule'.tree.withAgesAt t = rule.tree.withAgesAt t := by
  refine ⟨read_eq_of_no_age now', fun rule rule' h h' => ?_⟩
  obtain ⟨p, hp⟩ := read_eq_ok_iff.mp h
  obtain ⟨p', hp'⟩ := read_eq_ok_iff.mp h'
  obtain rfl : p = p' :=
    Phrase.words_injective (Except.ok.inj (hp.words_eq.symm.trans hp'.words_eq))
  exact ⟨hp'.nodeCount_eq.trans hp.nodeCount_eq.symm, hp'.source_eq.trans hp.source_eq.symm,
    hp.means.withAgesAt_eq hp'.means⟩

/-- At noon of 30 March and at the midnight behind it a month leads back to different instants. -/
theorem read_clock_march : ∃ rule rule',
    Rule.read { now := marchNoon } "age > 1m" = .ok rule ∧
      Rule.read { now := marchMidnight } "age > 1m" = .ok rule' ∧ rule'.tree ≠ rule.tree ∧
      rule'.nodeCount = rule.nodeCount ∧ rule'.source = rule.source ∧
      ∀ t, rule'.tree.withAgesAt t = rule.tree.withAgesAt t := by
  obtain ⟨rule, hRead, hAdmits⟩ :=
    @exists_read_older { now := marchNoon } "1m" _ (by decide) instantBefore_marchNoon
  obtain ⟨rule', hRead', hAdmits'⟩ :=
    @exists_read_older { now := marchMidnight } "1m" _ (by decide) instantBefore_marchMidnight
  have hNe : rule'.tree ≠ rule.tree := by
    intro hTree
    have hPost := (hAdmits (Post.new 0 februaryMidnight "")).mpr (by decide)
    rw [Rule.admits, ← hTree] at hPost
    exact absurd ((hAdmits' _).mp hPost) (by decide)
  exact ⟨rule, rule', hRead, hRead', hNe,
    (read_clock { now := marchNoon } "age > 1m" marchMidnight).2 rule rule' hRead hRead'⟩

end PostSieve.Rule
